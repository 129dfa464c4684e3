import ProtoTypings.Text.Blank

/-!
# Methods of a service

A statement `rpc Name(Request) returns (Response)` declares a method. Either message may carry the
mark `stream`. Blanks are admitted around the parentheses and inside them; a name runs up to a blank
or an opening parenthesis, a type up to a blank or a closing one. A type may itself be called
`stream`: the word is a mark only where a type follows it.

The statement may stand anywhere in a line; the leftmost one is taken.
-/

namespace ProtoTypings

/-- A message that a method takes or gives. -/
structure Payload where
  /-- The name of its type. -/
  type : Text
  /-- Whether there is a stream of messages instead of one. -/
  streamed : Bool := false
  deriving DecidableEq, Repr

/-- A method of a service. -/
structure Method where
  name : Text
  request : Payload
  response : Payload
  deriving DecidableEq, Repr

/-- Whether a character may stand in the name of a method. -/
def Method.isNameChar (c : Char) : Bool :=
  !(c == '(' || Text.isBlank c)

/-- Whether a character may stand in the name of a payload's type. -/
def Payload.isTypeChar (c : Char) : Bool :=
  !(c == ')' || Text.isBlank c)

namespace Payload

/-- Reads a type and the parenthesis that closes it. -/
def closed? (text : Text) : Option (Text × Text) := do
  let (type, rest) ← text.span? isTypeChar
  let rest ← Text.after? [')'] (Text.skipBlanks rest)
  return (type, rest)

/-- Reads the mark `stream`, then a type and the parenthesis that closes it. -/
def marked? (text : Text) : Option (Text × Text) := do
  let rest ← Text.after? "stream".toList text
  let rest ← Text.skipSomeBlanks? rest
  closed? rest

/-- Reads a payload in parentheses. -/
def read? (text : Text) : Option (Payload × Text) := do
  let rest ← Text.after? ['('] text
  let inside := Text.skipBlanks rest
  match marked? inside with
  | some (type, rest) => return (⟨type, true⟩, rest)
  | none =>
    let (type, rest) ← closed? inside
    return (⟨type, false⟩, rest)

end Payload

namespace Method

/-- Reads the statement that a text begins with. -/
def read? (text : Text) : Option Method := do
  let rest ← Text.after? "rpc".toList text
  let rest ← Text.skipSomeBlanks? rest
  let (name, rest) ← rest.span? isNameChar
  let (request, rest) ← Payload.read? (Text.skipBlanks rest)
  let rest ← Text.after? "returns".toList (Text.skipBlanks rest)
  let (response, _) ← Payload.read? (Text.skipBlanks rest)
  return ⟨name, request, response⟩

/-- The method declared by the leftmost statement in a line. -/
def find? (line : Text) : Option Method :=
  Text.leftmost? read? line

example : find? " rpc Get( stream  A )returns(stream);".toList
    = some ⟨"Get".toList, ⟨"A".toList, true⟩, ⟨"stream".toList, false⟩⟩ := by decide +kernel

end Method

end ProtoTypings
