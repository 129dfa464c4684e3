import ProtoTypings.Command.Arguments
import ProtoTypings.Disk.Directories
import ProtoTypings.Workspace

/-!
# The command

The command makes one document for a schema, or one for every schema below a directory, and writes
each to the file of the schema's name in the output directory. Schemas are taken one after the other
in the order of their paths; the first that gives no document ends the command, and what has been
written until then stays.
-/

namespace ProtoTypings

/-- What the command has changed and shown so far. -/
structure Console where
  workspace : Workspace
  /-- The lines of its output. -/
  output : List Text := []
  /-- The lines of its messages. -/
  messages : List Text := []
  /-- The runs of the formatter. -/
  invocations : List Invocation := []

/-- How the command ends. -/
inductive Ending where
  /-- With an exit code. -/
  | exit (code : Nat)
  /-- By a failed request to the disk that is not expected. -/
  | failure (fault : DiskFault)
  /-- For want of the value of an option. -/
  | unset (parameter : Parameter)
  deriving DecidableEq, Repr

namespace Workspace

/-- The extension of a schema's file. -/
def schemaExtension : Text :=
  ".proto".toList

/-- The paths below a directory that end with the extension of a schema, in the order of their
texts. -/
def schemasBelow (workspace : Workspace) (directory : Text) : List Text :=
  match workspace.disk.locate workspace.workplace directory with
  | .ok (.found place .directory) =>
    let found := (workspace.disk.below place).filterMap fun (parts, _) =>
      if schemaExtension.isSuffixOf (parts.getLast?.getD []) then
        some ((Path.ofText directory).below parts).text
      else none
    found.mergeSort Text.notAfter
  | _ => []

end Workspace

namespace Console

/-- The console after a line of output. -/
def print (console : Console) (line : Text) : Console :=
  { console with output := console.output ++ [line] }

/-- The console after a line among the messages. -/
def tell (console : Console) (line : Text) : Console :=
  { console with messages := console.messages ++ [line] }

/-- The file for the document of a schema. -/
def documentPath (out schema : Text) : Text :=
  Text.inDirectory out ((Path.ofText schema).stem ++ ".ts".toList)

/-- Makes the document of a schema. -/
def make (console : Console) (options : Options) (schema : Text) : Console × Except Fault Text :=
  match console.workspace.typings options (.path (.ofText schema)) with
  | .error fault => (console, .error fault)
  | .ok report =>
    ({ console with
        messages := console.messages ++ report.warnings
        invocations := console.invocations ++ report.invocations },
      .ok report.text)

/-- Makes the document of a schema and writes it; gives the path of the file. -/
def generate (console : Console) (options : Options) (out schema : Text) :
    Console × Except Fault Text :=
  match console.make options schema with
  | (console, .error fault) => (console, .error fault)
  | (console, .ok document) =>
    let workspace := console.workspace
    let (disk, made) := workspace.disk.makeDirectories workspace.workplace out
    let console : Console := { console with workspace := { workspace with disk } }
    match made with
    | .error fault => (console, .error (.disk fault))
    | .ok () =>
      let path := documentPath out schema
      match console.workspace.save path document with
      | .error fault => (console, .error (.disk fault))
      | .ok saved => ({ console with workspace := saved }, .ok path)

/-- Ends the command over a schema that gives no document. -/
def stop (console : Console) (schema : Text) : Fault → Console × Ending
  | .disk fault => (console, .failure fault)
  | fault =>
    (console.tell ("FATAL: ".toList ++ schema ++ ": ".toList ++ fault.message), .exit 1)

/-- Makes the documents of several schemas, up to the first that gives none. -/
def generateAll (console : Console) (options : Options) (out : Text) :
    List Text → Console × Option Ending
  | [] => (console, none)
  | schema :: later =>
    match console.generate options out schema with
    | (console, .ok path) =>
      (console.print ("  Generated: ".toList ++ path)).generateAll options out later
    | (console, .error fault) => (console.stop schema fault).map id some

/-- Makes the documents of several schemas and says how many there are. -/
def generateListed (console : Console) (options : Options) (out : Text) (schemas : List Text) :
    Console × Ending :=
  match console.generateAll options out schemas with
  | (console, some ending) => (console, ending)
  | (console, none) =>
    let count := Nat.toDigits 10 schemas.length
    (console.print ("Done! ".toList ++ count ++ " file(s) written to ".toList ++ out), .exit 0)

/-- Makes the document of the first schema, for which there is no directory. -/
def generateNowhere (console : Console) (options : Options) (schemas : List Text) :
    Console × Ending :=
  match schemas with
  | [] => (console, .unset .out)
  | schema :: _ =>
    match console.make options schema with
    | (console, .error fault) => console.stop schema fault
    | (console, .ok _) => (console, .unset .out)

/-- Makes the documents of several schemas for a directory, if there is one. -/
def generateIn (console : Console) (options : Options) (schemas : List Text) :
    Option Text → Console × Ending
  | some out => console.generateListed options out schemas
  | none => console.generateNowhere options schemas

/-- Does what the arguments ask for. -/
def run (console : Console) (arguments : Arguments) : Console × Ending :=
  let { disk, workplace, .. } := console.workspace
  if disk.isDirectory workplace arguments.schema then
    match console.workspace.schemasBelow arguments.schema with
    | [] =>
      (console.print ("No .proto files found under directory: ".toList ++ arguments.schema),
        .exit 1)
    | schemas => console.generateIn arguments.options schemas arguments.out
  else console.generateIn arguments.options [arguments.schema] arguments.out

end Console

/-- The exit code for arguments that cannot be understood. -/
def misuseCode : Nat := 2

/-- The command with its arguments. -/
def Workspace.command (workspace : Workspace) (arguments : List Text) : Console × Ending :=
  match Request.ofArguments arguments with
  | .run arguments => Console.run { workspace } arguments
  | .help => ({ workspace }, .exit 0)
  | .unset parameter => ({ workspace }, .unset parameter)
  | .misuse => ({ workspace }, .exit misuseCode)

end ProtoTypings
