import ProtoTypings.Disk.Basic
import ProtoTypings.Text.Blank
import ProtoTypings.Typings.Options

/-!
# Sources

A schema is given as text, as the path of a file, as bytes, or by something that can be read. A text
may also be the path of a file: it is when it stands on one line and a file is there. A text on one
line that only looks like a path is refused, lest a misspelt path be taken for a schema.

The bytes of a file are decoded and its line endings unified; bytes that come another way keep
theirs.
-/

namespace ProtoTypings

/-- What something that can be read gives. -/
inductive Content where
  | text (text : Text)
  | bytes (bytes : List UInt8)
  | nothing
  deriving DecidableEq, Repr

/-- Where a schema comes from. -/
inductive Source where
  /-- Nowhere. -/
  | absent
  /-- A text, which is a schema or the path of one. -/
  | text (text : Text)
  | bytes (bytes : List UInt8)
  /-- The path of a file. -/
  | path (path : Path)
  /-- Something that can be read. -/
  | stream (content : Content)
  /-- A value of a kind that holds no schema. -/
  | foreign (kind : Text)
  deriving DecidableEq, Repr

/-- Why the file of a schema cannot be read. -/
inductive FileFault where
  | disk (fault : DiskFault)
  | encoding (fault : Utf8.Fault)
  deriving DecidableEq, Repr

/-- The message of a fault. -/
def FileFault.message : FileFault → Text
  | .disk fault => fault.message
  | .encoding fault => fault.message

/-- Why a source gives no schema. -/
inductive SourceFault where
  /-- The file cannot be read. -/
  | unreadable (path : Text) (fault : FileFault)
  /-- The bytes cannot be decoded. -/
  | undecodable (fromStream : Bool) (fault : Utf8.Fault)
  /-- There is no file at what looks like a path. -/
  | noFile (path : Text)
  /-- The source is of a kind that holds no schema. -/
  | unsupported (kind : Text)
  deriving DecidableEq, Repr

/-- The message of a fault. -/
def SourceFault.message : SourceFault → Text
  | .unreadable path fault =>
    "Cannot read schema file '".toList ++ path ++ "': ".toList ++ fault.message
  | .undecodable fromStream fault =>
    "Cannot decode schema ".toList ++ (if fromStream then "stream" else "bytes").toList
      ++ " as UTF-8: ".toList ++ fault.message
  | .noFile path => "Schema file '".toList ++ path ++ "' does not exist".toList
  | .unsupported kind => "Unsupported schema source type: ".toList ++ kind

/-- Why there is no document. -/
inductive Fault where
  | configuration (fault : ConfigurationFault)
  | source (fault : SourceFault)
  /-- A failed request to the disk that no other fault accounts for. -/
  | disk (fault : DiskFault)
  deriving DecidableEq, Repr

/-- The message of a fault. -/
def Fault.message : Fault → Text
  | .configuration fault => fault.message
  | .source fault => fault.message
  | .disk fault => fault.message

namespace Source

/-- The characters of which a schema has some and a path has none. -/
def schemaMarks : Text :=
  ['\x7b', '=', ';']

/-- Whether a text looks like the path of a schema: it has none of the marks, and ends with the
extension of a schema or holds a slash. -/
def looksLikePath (text : Text) : Bool :=
  !(text.any fun c => schemaMarks.contains c)
    && (".proto".toList.isSuffixOf text || text.contains '/')

/-- The text of the file at a path, which a message names as `shown`. -/
def readFile (disk : Disk) (workplace : Place) (path : Path) (shown : Text) :
    Except Fault Text :=
  match disk.read workplace path with
  | .error .nullInPath => .error (.disk .nullInPath)
  | .error fault => .error (.source (.unreadable shown (.disk fault)))
  | .ok read =>
    match Utf8.decodeFile read with
    | .error fault => .error (.source (.unreadable shown (.encoding fault)))
    | .ok decoded => .ok decoded

/-- The text of bytes. -/
def decodeBytes (fromStream : Bool) (bytes : List UInt8) : Except Fault Text :=
  (Utf8.decode bytes).mapError fun fault => .source (.undecodable fromStream fault)

/-- What a source gives, which may be empty. -/
def content (disk : Disk) (workplace : Place) : Source → Except Fault Text
  | absent => .ok []
  | text given =>
    let trimmed := given.trim
    if given.contains '\n' ∨ trimmed = [] then .ok given
    else if disk.isFile workplace given then readFile disk workplace (.ofText given) given
    else if looksLikePath trimmed then .error (.source (.noFile given))
    else .ok given
  | bytes given => decodeBytes false given
  | path given => readFile disk workplace given given.text
  | stream (.text given) => .ok given
  | stream (.bytes given) => decodeBytes true given
  | stream .nothing => .ok []
  | foreign kind => .error (.source (.unsupported kind))

/-- The schema that a source gives; an empty one is none. -/
def read (disk : Disk) (workplace : Place) (source : Source) : Except Fault Text := do
  let schema ← source.content disk workplace
  if schema = [] then throw (.configuration .noSchema)
  return schema

end Source

end ProtoTypings
