import ProtoTypings.Command.Run

/-!
# The program

The command on the disk of the machine. The part of the disk that the arguments point to is loaded
into a value, the command is applied to it, and what the command has changed is written back. The
formatter is not run from here, so documents are left as they are generated.
-/

namespace ProtoTypings.Program

/-- The place of a path text, seen from a place, at each step of the way there. -/
def placesOnTheWay (workplace : Place) (path : Text) : List Place :=
  let start : Place := if path.head? = some '/' then [] else workplace
  (List.range (path.pathParts.length + 1)).map fun n => start.resolve (path.pathParts.take n)

/-- The path text of a place. -/
def pathOf (place : Place) : String :=
  String.ofList place.path.text

/-- Loads what stands at a place, with all that is below a directory down to the given depth. The
content of a file is loaded when `withContent` holds. -/
def load (withContent : Bool) (depth : Nat) (disk : Disk) (place : Place) : IO Disk := do
  let path := (← IO.currentDir) / pathOf place
  if ← path.isDir then
    let disk := if place = [] then disk else disk.put place .directory
    match depth with
    | 0 => return disk
    | depth + 1 =>
      let mut loaded := disk
      for entry in ← path.readDir do
        loaded ← load withContent depth loaded (place ++ [entry.fileName.toList])
      return loaded
  else if ← path.pathExists then
    let bytes ← if withContent then IO.FS.readBinFile path else pure .empty
    return disk.put place (.file bytes.toList)
  else return disk

/-- How many directories below a given one are searched for schemas. -/
def searchDepth : Nat := 64

/-- The part of the disk that a request is about. -/
def diskFor (workplace : Place) : Request → IO Disk
  | .run arguments => do
    let out := arguments.out.getD []
    let ways := placesOnTheWay workplace arguments.schema ++ placesOnTheWay workplace out
    let mut disk : Disk := {}
    for place in ways.flatMap Place.chain do
      disk ← load false 0 disk place
    for place in (placesOnTheWay workplace out).getLast? do
      disk ← load false 1 disk place
    for place in (placesOnTheWay workplace arguments.schema).getLast? do
      disk ← load true searchDepth disk place
    return disk
  | _ => return {}

/-- Writes back what has changed. -/
def save (before after : Disk) : IO Unit := do
  let here ← IO.currentDir
  for (place, entry) in after.entries.reverse do
    if entry = .directory ∧ before.lookup? place ≠ some .directory then
      IO.FS.createDirAll (here / pathOf place)
  for (place, bytes) in before.changes after do
    IO.FS.writeBinFile (here / pathOf place) ⟨bytes.toArray⟩

/-- Runs the command and gives its exit code. -/
def run (arguments : List Text) : IO UInt32 := do
  let workplace : Place := Text.pathParts (← IO.currentDir).toString.toList
  let disk ← diskFor workplace (Request.ofArguments arguments)
  let (console, ending) := Workspace.command { disk, workplace } arguments
  save disk console.workspace.disk
  for line in console.output do
    IO.println (String.ofList line)
  for line in console.messages do
    IO.eprintln (String.ofList line)
  match ending with
  | .exit code => return code.toUInt32
  | .failure fault =>
    IO.eprintln (String.ofList fault.message)
    return 1
  | .unset parameter =>
    IO.eprintln ("no value for " ++ parameter.name)
    return 1

end ProtoTypings.Program

/-- Runs the command with the arguments of the program. -/
def main (arguments : List String) : IO UInt32 :=
  ProtoTypings.Program.run (arguments.map String.toList)
