import ProtoTypings.Json.Token

/-!
# Keys of a JSON document

A document is read token by token. What may come next is known from the containers that are open
and from what the last token was; the document is complete when none is open and a value has been
read. On the way the keys of the outermost object are collected.
-/

namespace ProtoTypings.Json

/-- What may come next. -/
inductive Expected where
  /-- A value, or the end of the array where that is still empty. -/
  | value (orClose : Bool)
  /-- A key, or the end of the object where that is still empty. -/
  | key (orClose : Bool)
  /-- The colon after a key. -/
  | colon
  /-- A comma, or the end of the container. -/
  | separator
  deriving DecidableEq, Repr

/-- What is known after some tokens of a document. -/
structure Progress where
  /-- The open containers, the innermost first. -/
  containers : List Container := []
  expected : Expected := .value false
  /-- The keys of the outermost object so far, the last one first. -/
  keys : List Text := []
  deriving DecidableEq, Repr

namespace Progress

/-- After a value that is complete, or a container that is closed. -/
def afterValue (progress : Progress) : Progress :=
  { progress with expected := .separator }

/-- After the key of an object, which is noted where the object is the outermost container. -/
def afterKey (progress : Progress) (key : Text) : Progress :=
  { progress with
    expected := .colon
    keys := if progress.containers.length = 1 then key :: progress.keys else progress.keys }

/-- After an opening bracket. -/
def enter (progress : Progress) (container : Container) : Progress :=
  { progress with
    containers := container :: progress.containers
    expected := match container with
      | .array => .value true
      | .object => .key true }

/-- After a closing bracket, which has to fit the innermost container. -/
def leave? (progress : Progress) (container : Container) : Option Progress :=
  match progress.containers with
  | [] => none
  | innermost :: outer =>
    if innermost = container then some ({ progress with containers := outer }).afterValue else none

/-- After a comma. -/
def afterComma? (progress : Progress) : Option Progress :=
  match progress.containers with
  | [] => none
  | .array :: _ => some { progress with expected := .value false }
  | .object :: _ => some { progress with expected := .key false }

/-- After one more token; `none` where it may not come next. -/
def step? (progress : Progress) (token : Token) : Option Progress :=
  match progress.expected, token with
  | .value _, .scalar => some progress.afterValue
  | .value _, .string _ => some progress.afterValue
  | .value _, .opens container => some (progress.enter container)
  | .value true, .closes .array => progress.leave? .array
  | .key _, .string key => some (progress.afterKey key)
  | .key true, .closes .object => progress.leave? .object
  | .colon, .colon => some { progress with expected := .value false }
  | .separator, .comma => progress.afterComma?
  | .separator, .closes container => progress.leave? container
  | _, _ => none

/-- Whether the document is complete. -/
def isComplete (progress : Progress) : Bool :=
  progress.containers = [] && progress.expected = .separator

end Progress

/-- The keys of the outermost object of a document, none for one that is no object; refused where
the text is no JSON document. -/
def keys? (text : Text) : Option (List Text) := do
  let progress ← (← tokens? text).foldlM Progress.step? {}
  if progress.isComplete then return progress.keys.reverse else none

example : keys? "\x7b\"a\": [\x7b\"b\": 1\x7d], \"c\": NaN\x7d".toList
    = some ["a".toList, "c".toList] := by decide +kernel

example : keys? "\x7b\"a\": 1,\x7d".toList = none := by decide +kernel

end ProtoTypings.Json
