import ProtoTypings.Text.DecimalDigit
import ProtoTypings.Typings.Options

/-!
# Arguments of the command

The command takes options only. Two are required, the schema and the directory for the documents;
the last mention of an option counts. A value follows its option as the next argument or is attached
to it by an equals sign, and a long name may be cut short as long as it is the front of one name
only.

An argument that begins with a dash is an option, and so no value for the option before it, unless
it is the dash alone, reads as a negative number, or holds a space.

Two dashes are the mark that ends the options. Nothing may follow it, and it may not stand there
itself; attached to an option it is dropped, so that the option is mentioned and yet has no value.
-/

namespace ProtoTypings

/-- What the command is asked to do. -/
structure Arguments where
  /-- A schema, or a directory of schemas. -/
  schema : Text
  /-- The directory for the documents; `none` where the option is without a value. -/
  out : Option Text
  options : Options := {}
  deriving DecidableEq, Repr

/-- An option with a value. -/
inductive Parameter where
  | schema
  | out
  | streams
  deriving DecidableEq, Repr

/-- The name of an option with a value. -/
def Parameter.name : Parameter → String
  | .schema => "--proto"
  | .out => "--out"
  | .streams => "--stream-behaviour"

/-- An option without a value. -/
inductive Flag where
  | help
  | keepComments
  | keepEmptyLines
  | observable
  | metadata
  | noFormat
  deriving DecidableEq, Repr

/-- An option. -/
inductive OptionName where
  | parameter (parameter : Parameter)
  | flag (flag : Flag)
  deriving DecidableEq, Repr

namespace OptionName

/-- The names of the options. -/
def table : List (Text × OptionName) :=
  [("-h", .flag .help), ("--help", .flag .help), (Parameter.schema.name, .parameter .schema),
   (Parameter.out.name, .parameter .out), ("--keep-comments", .flag .keepComments),
   (Parameter.streams.name, .parameter .streams), ("--keep-empty-lines", .flag .keepEmptyLines),
   ("--observable", .flag .observable), ("--metadata", .flag .metadata),
   ("--no-format", .flag .noFormat)].map fun (name, option) => (String.toList name, option)

/-- The options whose names begin with a text. -/
def beginning (text : Text) : List OptionName :=
  (table.filter fun (name, _) => text.isPrefixOf name).map (·.2)

end OptionName

/-- How an argument reads. -/
inductive Argument where
  /-- It is no option and can be the value of one. -/
  | plain
  /-- It names an option and may bring a value. -/
  | option (name : OptionName) (attached : Option Text)
  /-- It is the front of several names. -/
  | ambiguous
  /-- It is the mark after which there are no options. -/
  | endOfOptions
  /-- It is none of these. -/
  | refused
  deriving DecidableEq, Repr

namespace Argument

/-- The text before the first equals sign, and what is attached by it. -/
def splitAttached (argument : Text) : Text × Option Text :=
  match argument.dropWhile (· ≠ '=') with
  | [] => (argument, none)
  | _ :: attached => (argument.takeWhile (· ≠ '='), some attached)

/-- Whether an argument reads as a negative number: a dash, then digits with at most one point in
front of or among them. A line feed at the end is overlooked. -/
def isNegativeNumber : Text → Bool
  | '-' :: body =>
    let body := if body.getLast? = some '\n' then body.dropLast else body
    let digits (text : Text) : Bool := text ≠ [] && text.all Text.isDecimalDigit
    digits body ||
      match body.dropWhile Text.isDecimalDigit with
      | '.' :: fraction => digits fraction
      | _ => false
  | _ => false

/-- How an argument of a single dash and the letter for help reads with what follows the letter,
after an equals sign or at once. It can only be the letter again. -/
def readHelp (following : Text) : Argument :=
  let again := following ≠ [] && following.all (· = 'h')
  .option (.flag .help) (if again then none else some following)

/-- How an argument that begins with a dash reads when it is not the full name of an option. -/
def readAbbreviated (argument : Text) : Argument :=
  let (name, attached) := splitAttached argument
  let named := if "--".toList.isPrefixOf argument then OptionName.beginning name else []
  match named, Text.after? "-h".toList argument with
  | [only], _ => .option only attached
  | _ :: _ :: _, _ => .ambiguous
  | [], some following => readHelp following
  | [], none =>
    if isNegativeNumber argument || argument.contains ' ' then .plain else .refused

/-- How an argument reads. -/
def read (argument : Text) : Argument :=
  if argument.head? ≠ some '-' ∨ argument = ['-'] then .plain
  else if argument = "--".toList then .endOfOptions
  else
    match OptionName.table.lookup argument with
    | some named => .option named none
    | none =>
      let (name, attached) := splitAttached argument
      match attached, OptionName.table.lookup name with
      | some value, some named =>
        if name = "-h".toList then readHelp value else .option named (some value)
      | _, _ => readAbbreviated argument

end Argument

/-- What a list of arguments amounts to. -/
inductive Request where
  | run (arguments : Arguments)
  | help
  /-- An option that is needed from the start is without a value. -/
  | unset (parameter : Parameter)
  /-- The arguments cannot be understood. -/
  | misuse
  deriving DecidableEq, Repr

/-- The arguments read so far. The value of an option that is mentioned without one is `none`. -/
structure Draft where
  schema : Option (Option Text) := none
  out : Option (Option Text) := none
  streams : Option StreamMode := some .native
  options : Options := {}
  /-- Whether there is an argument that is neither an option nor the value of one. -/
  strays : Bool := false
  deriving DecidableEq, Repr

namespace Draft

/-- The draft with a value for an option, or with none; refused where the option does not admit the
value. -/
def set? (draft : Draft) (value : Option Text) : Parameter → Option Draft
  | .schema => some { draft with schema := some value }
  | .out => some { draft with out := some value }
  | .streams =>
    match value with
    | none => some { draft with streams := none }
    | some name => (StreamMode.ofName? name).map fun mode => { draft with streams := some mode }

/-- The value that a text attached to an option brings. -/
def attachedValue (text : Text) : Option Text :=
  if text = "--".toList then none else some text

/-- The draft with an option turned on. -/
def turnOn (draft : Draft) : Flag → Draft
  | .help => draft
  | .keepComments => { draft with options := draft.options.assign (.keepComments true) }
  | .keepEmptyLines => { draft with options := draft.options.assign (.stripEmptyLines false) }
  | .observable => { draft with options := draft.options.assign (.useObservable true) }
  | .metadata => { draft with options := draft.options.assign (.useMetadata true) }
  | .noFormat => { draft with options := draft.options.assign (.formatOutput false) }

/-- The request of a draft, which needs both required options. -/
def request (draft : Draft) : Request :=
  if draft.strays then .misuse
  else match draft.schema, draft.out, draft.streams with
  | some (some schema), some out, some mode =>
    .run ⟨schema, out, draft.options.assign (.streams (.mode mode))⟩
  | some _, some _, none => .unset .streams
  | some none, some _, some _ => .unset .schema
  | _, _, _ => .misuse

/-- Reads arguments into a draft. A stray one is held against the request only at the end. -/
def readAll (draft : Draft) : List Text → Request
  | [] => draft.request
  | argument :: later =>
    match Argument.read argument with
    | .endOfOptions => .misuse
    | .plain | .refused => { draft with strays := true }.readAll later
    | .option (.flag .help) none => .help
    | .option (.flag flag) none => (draft.turnOn flag).readAll later
    | .option (.parameter parameter) (some value) =>
      match draft.set? (attachedValue value) parameter with
      | some next => next.readAll later
      | none => .misuse
    | .option (.parameter parameter) none =>
      match later with
      | [] => .misuse
      | value :: rest =>
        match Argument.read value, draft.set? (some value) parameter with
        | .plain, some next => next.readAll rest
        | _, _ => .misuse
    | _ => .misuse

end Draft

/-- What a list of arguments amounts to. All options are looked up before any of them takes
effect, so that an ambiguous one counts even after a call for help. -/
def Request.ofArguments (arguments : List Text) : Request :=
  if (arguments.takeWhile (· ≠ "--".toList)).any (Argument.read · = .ambiguous) then .misuse
  else Draft.readAll {} arguments

example : Request.ofArguments (["--pro=a", "--out", "-1", "--meta"].map String.toList)
    = .run ⟨"a".toList, some "-1".toList, { useMetadata := true }⟩ := by decide +kernel

example : Request.ofArguments (["--proto", "a", "--out", "b", "--keep"].map String.toList)
    = .misuse := by decide +kernel

end ProtoTypings
