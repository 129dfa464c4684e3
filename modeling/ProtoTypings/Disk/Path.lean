import ProtoTypings.Text.Basic

/-!
# Paths

A path is kept tidy: doubled slashes, parts that are a single dot and slashes at the end are gone,
while parts that go up stay, since what they mean depends on the disk. Two slashes in front, and no
more than two, are kept as they are; the empty path is a single dot.
-/

namespace ProtoTypings

/-- A path in tidy form. -/
structure Path where
  /-- The slashes in front; none where the path is relative. -/
  root : Text
  parts : List Text
  deriving DecidableEq, Repr

/-- The parts of a path text, with nothing in place of doubled slashes. -/
def Text.pathParts (text : Text) : List Text :=
  (text.splitOn '/').filter (· ≠ [])

namespace Path

/-- The slashes that a tidy path keeps in front. -/
def rootOf : Text → Text
  | '/' :: '/' :: '/' :: _ => ['/']
  | '/' :: '/' :: _ => ['/', '/']
  | '/' :: _ => ['/']
  | _ => []

/-- The path that a text stands for. -/
def ofText (text : Text) : Path :=
  ⟨rootOf text, text.pathParts.filter (· ≠ ['.'])⟩

/-- The text of a path. -/
def text (path : Path) : Text :=
  if path.root = [] ∧ path.parts = [] then ['.']
  else path.root ++ Text.joinWith ['/'] path.parts

/-- The last part of a path, or nothing. -/
def name (path : Path) : Text :=
  path.parts.getLast?.getD []

/-- The path without its last part. -/
def parent (path : Path) : Path :=
  { path with parts := path.parts.dropLast }

/-- A path that goes on from `path`. -/
def below (path : Path) (parts : List Text) : Path :=
  { path with parts := path.parts ++ parts }

/-- The last part without its extension. The extension begins at the last dot; a dot at either end
of the part begins none. -/
def stem (path : Path) : Text :=
  match path.name.reverse.takeWhile (· ≠ '.'), path.name.reverse.dropWhile (· ≠ '.') with
  | _ :: _, _ :: c :: before => (c :: before).reverse
  | _, _ => path.name

example : (ofText "a//./b/..".toList).text = "a/b/..".toList := by decide

example : (ofText "x/a.b.proto".toList).stem = "a.b".toList
    ∧ (ofText ".proto".toList).stem = ".proto".toList := by decide

end Path

/-- A name inside a directory, as a path text. A slash parts the two unless the directory is empty
or ends with one. -/
def Text.inDirectory (directory name : Text) : Text :=
  if directory = [] ∨ directory.getLast? = some '/' then directory ++ name
  else directory ++ '/' :: name

end ProtoTypings
