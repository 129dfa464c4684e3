import ProtoTypings.Formatter.Run
import ProtoTypings.Source
import ProtoTypings.Typings.Generation

/-!
# Workspaces

Documents are made in a workspace: a disk, a working directory on it, and a formatter. A source is
taken to a document in four steps. The options are resolved, the source is read, the document is
generated and, where the options ask for it, formatted. A formatter that fails costs nothing but a
warning; the document then stays as it was generated.
-/

namespace ProtoTypings

/-- Where documents are made: a disk, a working directory on it, and the formatter. -/
structure Workspace where
  disk : Disk
  workplace : Place
  formatter : FormatterProgram := .notInstalled

/-- Formats a document if a configuration is found from a directory upwards and the formatter is
installed; otherwise the document stays as it is. -/
def Workspace.format (workspace : Workspace) (directory document : Text) :
    Except DiskFault Formatting := do
  match ← workspace.disk.configFrom workspace.workplace directory with
  | none => return { outcome := .ok document }
  | some config =>
    if workspace.formatter = .notInstalled then return { outcome := .ok document }
    else
      return workspace.formatter.format FormatterProgram.executable config.path document

/-- A document, and what making it took. -/
structure Report where
  text : Text
  /-- The warnings given on the way. -/
  warnings : List Text := []
  /-- The runs of the formatter. -/
  invocations : List Invocation := []
  deriving DecidableEq, Repr

/-- The warning about a formatter that fails. -/
def FormatterFault.warning (fault : FormatterFault) : Text :=
  "Warning: ".toList ++ fault.message ++ ". Keeping unformatted output.".toList

/-- Makes the document of a source. -/
def Workspace.typings (workspace : Workspace) (options : Options) (source : Source) :
    Except Fault Report := do
  let options ← options.resolve.mapError .configuration
  let schema ← source.read workspace.disk workspace.workplace
  let document ← (generate options schema).mapError .configuration
  if !options.formatOutput then return { text := document }
  let formatting ← (workspace.format [] document).mapError .disk
  match formatting.outcome with
  | .ok formatted => return { text := formatted, invocations := formatting.invocations }
  | .error fault =>
    return { text := document, warnings := [fault.warning], invocations := formatting.invocations }

/-- Makes the document of a source with the options chosen for a call. -/
def Workspace.typingsWith (workspace : Workspace) (given : Option Options)
    (overrides : List Setting) (source : Source) : Except Fault Report := do
  let options ← (Options.choose given overrides).mapError .configuration
  workspace.typings options source

/-- The workspace after a document has been written to a file. -/
def Workspace.save (workspace : Workspace) (path document : Text) :
    Except DiskFault Workspace := do
  let disk ← workspace.disk.write workspace.workplace (.ofText path) (Utf8.encode document)
  return { workspace with disk }

end ProtoTypings
