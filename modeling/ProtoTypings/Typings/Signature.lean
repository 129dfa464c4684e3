import ProtoTypings.Schema.Method
import ProtoTypings.Typings.Name
import ProtoTypings.Typings.Options

/-!
# Signatures

A method of a service becomes a method signature of an interface. The one parameter is named after
the type of the request; how streams, metadata and observables are written depends on the options.
-/

namespace ProtoTypings

/-- A payload's type, a stream of them as the setting has it. -/
def Payload.render (streams : StreamSetting) (payload : Payload) : Text :=
  if !payload.streamed || streams.strips then payload.type
  else if streams = .mode .native then "Stream".toList
  else "Stream<".toList ++ payload.type ++ ['>']

namespace Method

/-- The name of the parameter for the request. -/
def parameterName (streams : StreamSetting) (method : Method) : Text :=
  Name.camel method.request.type
    ++ if method.request.streamed && !streams.strips then "Stream".toList else []

/-- The parameters of a method. -/
def parameters (options : Options) (method : Method) : Text :=
  method.parameterName options.streams ++ ": ".toList ++ method.request.render options.streams
    ++ if options.useMetadata then ", metadata: any".toList else []

/-- The result of a method. -/
def result (options : Options) (method : Method) : Text :=
  let type := method.response.render options.streams
  if options.useObservable then "Observable<".toList ++ type ++ ['>'] else type

/-- The signature of a method. -/
def signature (options : Options) (method : Method) : Text :=
  Name.camel method.name ++ " (".toList ++ method.parameters options ++ "): ".toList
    ++ method.result options

end Method

/-- The signature for an `rpc` line; the line itself where no method can be read in it. -/
def methodLine (options : Options) (line : Text) : Text :=
  match Method.find? line with
  | some method => method.signature options
  | none => line

end ProtoTypings
