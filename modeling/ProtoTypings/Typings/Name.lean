import ProtoTypings.Text.Words

/-!
# Names

The identifiers of a schema are written in many styles; those of the generated document are in camel
case, or in Pascal case for a namespace. Both are built from the words of the identifier: its runs
of ASCII letters and digits, parted further where a capital follows a small letter or a digit
(`fooBar`) and in front of the last capital of an acronym that a small letter follows
(`HTTPServer`).

A word that begins with a digit keeps an underscore in front of it unless it is the first, so that
`version_2` and `version2` stay apart.
-/

namespace ProtoTypings.Name

/-- Whether a word ends between the adjacent characters `c` and `d`, with `later` after them. -/
def partsWords (c d : Char) (later : Text) : Bool :=
  d.isUpper && (c.isLower || c.isDigit || c.isUpper && later.head?.any Char.isLower)

/-- The words of an identifier. -/
def words (identifier : Text) : List Text :=
  Text.runs Char.isAlphanum partsWords identifier

/-- A word in small letters. -/
def lowerCase (word : Text) : Text :=
  word.map Char.toLower

/-- A word in small letters but for its first. -/
def capitalized : Text → Text
  | [] => []
  | c :: rest => c.toUpper :: lowerCase rest

/-- A word as it stands after another one. -/
def attached : Text → Text
  | [] => []
  | c :: rest => if c.isDigit then '_' :: c :: lowerCase rest else capitalized (c :: rest)

/-- The words in one identifier, the first of them as `first` writes it. -/
def joined (first : Text → Text) : List Text → Text
  | [] => []
  | word :: later => first word ++ later.flatMap attached

/-- An identifier in Pascal case. -/
def pascal (identifier : Text) : Text :=
  joined capitalized (words identifier)

/-- An identifier in camel case. -/
def camel (identifier : Text) : Text :=
  joined lowerCase (words identifier)

example : words "GetHTTPInfo_v2".toList = ["Get", "HTTP", "Info", "v2"].map String.toList := by
  decide

example : camel "route-note_2x".toList = "routeNote_2x".toList := by decide

end ProtoTypings.Name
