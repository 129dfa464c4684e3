import ProtoTypings.Text.Basic

/-!
# Options

What a reader of the generated document can choose. Five choices are switches; the sixth is how a
stream of messages is written. It may be set to a value that is no stream mode, and is then refused
when the options are resolved, which happens before any schema is looked at.
-/

namespace ProtoTypings

/-- How a stream of messages is written. -/
inductive StreamMode where
  /-- Like a single message. -/
  | strip
  /-- As `Stream<T>`. -/
  | generic
  /-- As `Stream`. -/
  | native
  deriving DecidableEq, Repr

namespace StreamMode

/-- The name of a mode. -/
def name : StreamMode → Text
  | .strip => "strip".toList
  | .generic => "generic".toList
  | .native => "native".toList

/-- The mode of a name. -/
def ofName? (name : Text) : Option StreamMode :=
  [strip, generic, native].find? fun mode => mode.name = name

@[simp]
theorem ofName?_name (mode : StreamMode) : ofName? mode.name = some mode := by
  cases mode <;> decide

theorem ofName?_eq_some_iff {name : Text} {mode : StreamMode} :
    ofName? name = some mode ↔ name = mode.name := by
  refine ⟨fun h => ?_, fun h => h ▸ ofName?_name mode⟩
  have := List.find?_some h
  simpa [eq_comm] using this

end StreamMode

/-- What the stream mode is set to. -/
inductive StreamSetting where
  /-- A mode. -/
  | mode (mode : StreamMode)
  /-- A text that has not been checked; it may be the name of a mode. -/
  | unchecked (value : Text)
  /-- A value of another kind, in its written form. -/
  | foreign (value : Text)
  deriving DecidableEq, Repr

/-- Why no schema is looked at. -/
inductive ConfigurationFault where
  /-- The stream mode is set to a value that is no mode. -/
  | notAStreamMode (value : Text)
  /-- There is no schema, or an empty one. -/
  | noSchema
  deriving DecidableEq, Repr

/-- The message of a fault. -/
def ConfigurationFault.message : ConfigurationFault → Text
  | .notAStreamMode value => '\x22' :: value ++ "\" is not a valid stream behaviour!".toList
  | .noSchema => "No file specified".toList

namespace StreamSetting

/-- The mode that a setting is or names. -/
def resolve : StreamSetting → Except ConfigurationFault StreamMode
  | .mode given => .ok given
  | .unchecked value =>
    match StreamMode.ofName? value with
    | some named => .ok named
    | none => .error (.notAStreamMode value)
  | .foreign value => .error (.notAStreamMode value)

/-- Whether streams are written like single messages. An unchecked text never has this effect, not
even where it is the name of the mode. -/
def strips (setting : StreamSetting) : Bool :=
  setting = .mode .strip

end StreamSetting

/-- The choices. -/
structure Options where
  /-- Keep the comments of the schema. -/
  keepComments : Bool := false
  /-- How a stream of messages is written. -/
  streams : StreamSetting := .mode .native
  /-- Leave out empty lines. -/
  stripEmptyLines : Bool := true
  /-- Wrap the results of methods in `Observable`. -/
  useObservable : Bool := false
  /-- Give every method a parameter for metadata. -/
  useMetadata : Bool := false
  /-- Run the formatter over the document where one is configured. -/
  formatOutput : Bool := true
  deriving DecidableEq, Repr

/-- One choice with its value. -/
inductive Setting where
  | keepComments (on : Bool)
  | streams (value : StreamSetting)
  | stripEmptyLines (on : Bool)
  | useObservable (on : Bool)
  | useMetadata (on : Bool)
  | formatOutput (on : Bool)
  deriving DecidableEq, Repr

/-- A setting whose stream mode, if it sets that, is a mode. -/
def Setting.checked : Setting → Except ConfigurationFault Setting
  | .streams value => value.resolve.map fun resolved => .streams (.mode resolved)
  | setting => .ok setting

namespace Options

/-- The options with one choice changed. -/
def assign (options : Options) : Setting → Options
  | .keepComments on => { options with keepComments := on }
  | .streams value => { options with streams := value }
  | .stripEmptyLines on => { options with stripEmptyLines := on }
  | .useObservable on => { options with useObservable := on }
  | .useMetadata on => { options with useMetadata := on }
  | .formatOutput on => { options with formatOutput := on }

/-- The options with several choices changed in turn. Nothing is checked. -/
def assignAll (options : Options) (settings : List Setting) : Options :=
  settings.foldl assign options

/-- The options with the mode that the stream setting names. -/
def resolve (options : Options) : Except ConfigurationFault Options :=
  options.streams.resolve.map fun mode => { options with streams := .mode mode }

/-- The options with several choices changed, where the stream mode that results is a mode. -/
def revise (options : Options) (settings : List Setting) : Except ConfigurationFault Options :=
  (options.assignAll settings).resolve

/-- The options for a call that may be given options and may override some choices. Where none are
given, they are made from the overriding choices alone. The stream mode of given options may have
been assigned without a check, so it is resolved in any case. -/
def choose (given : Option Options) (overrides : List Setting) :
    Except ConfigurationFault Options := do
  let chosen ←
    match given with
    | none => revise {} overrides
    | some options => if overrides = [] then .ok options else options.revise overrides
  chosen.resolve

/-- The options with several choices changed, where each of the values is checked first. -/
def set (options : Options) (settings : List Setting) : Except ConfigurationFault Options :=
  (settings.mapM Setting.checked).map options.assignAll

end Options

end ProtoTypings
