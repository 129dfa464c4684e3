import ProtoTypings.Formatter.Config

/-!
# Running the formatter

The formatter is another program. It reads a document from its input and gives the formatted one as
its output; it may also not be there, or fail. Each run is noted with the command, the directory and
the input.
-/

namespace ProtoTypings

/-- What comes of running the formatter. -/
inductive FormatterProgram where
  /-- It is not installed. -/
  | notInstalled
  /-- It is found, and gone when it is to be run. -/
  | vanished
  /-- It fails with a message. -/
  | fails (message : Text)
  /-- It gives an output. -/
  | prints (output : Text)
  deriving DecidableEq, Repr

/-- One run of a program. -/
structure Invocation where
  command : List Text
  directory : Text
  input : Text
  deriving DecidableEq, Repr

/-- Why a document is not formatted although a formatter was to be run. -/
inductive FormatterFault where
  | noExecutable (executable : Text)
  | failed (message : Text)
  deriving DecidableEq, Repr

/-- The message of a fault. -/
def FormatterFault.message : FormatterFault → Text
  | .noExecutable executable =>
    '\x27' :: executable ++ "' not found. Install prettier and ensure it is in PATH.".toList
  | .failed message => "prettier failed: ".toList ++ message

/-- A formatted document, or why there is none, and the runs it took. -/
structure Formatting where
  outcome : Except FormatterFault Text
  invocations : List Invocation := []

namespace FormatterProgram

/-- The path under which an installed formatter is found. -/
def executable : Text :=
  "/bin/prettier".toList

/-- The run that formats a document by a configuration. A package manifest is found by the
formatter itself. -/
def invocation (executable : Text) (config : Path) (document : Text) : Invocation where
  command :=
    [executable, "--parser".toList, "typescript".toList]
      ++ if config.name = manifestName then [] else ["--config".toList, config.text]
  directory := config.parent.text
  input := document

/-- Formats a document by a configuration. -/
def format (program : FormatterProgram) (executable : Text) (config : Path) (document : Text) :
    Formatting where
  outcome :=
    match program with
    | .notInstalled => .error (.noExecutable executable)
    | .vanished => .error (.noExecutable executable)
    | .fails message => .error (.failed message)
    | .prints output => .ok output
  invocations := [invocation executable config document]

end FormatterProgram

end ProtoTypings
