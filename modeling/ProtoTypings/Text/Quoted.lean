import ProtoTypings.Text.Printable

/-!
# Quoted texts

Error messages name a path between quotation marks. The marks are apostrophes, or double quotes
where the text holds an apostrophe and no double quote. Inside, the mark and the backslash stand
behind a backslash, and characters that are not printable are written by their code point in the
shortest of the forms `\xHH`, `\uHHHH` and `\UHHHHHHHH`, except for the three with a letter of
their own.
-/

namespace ProtoTypings.Text

/-- A number in lower-case hexadecimal, in exactly `width` digits. -/
def hexadecimal : (width : Nat) → Nat → Text
  | 0, _ => []
  | width + 1, n => hexadecimal width (n / 16) ++ [Nat.digitChar (n % 16)]

/-- The mark around a quoted text. -/
def quotationMark (text : Text) : Char :=
  if text.contains '\x27' && !text.contains '\x22' then '\x22' else '\x27'

/-- One character of a quoted text. -/
def quotedChar (mark c : Char) : Text :=
  if c = mark ∨ c = '\\' then ['\\', c]
  else if c = '\t' then ['\\', 't']
  else if c = '\n' then ['\\', 'n']
  else if c = '\r' then ['\\', 'r']
  else if isPrintable c then [c]
  else if c.toNat < 0x100 then '\\' :: 'x' :: hexadecimal 2 c.toNat
  else if c.toNat < 0x10000 then '\\' :: 'u' :: hexadecimal 4 c.toNat
  else '\\' :: 'U' :: hexadecimal 8 c.toNat

/-- A text between quotation marks. -/
def quoted (text : Text) : Text :=
  let mark := quotationMark text
  mark :: text.flatMap (quotedChar mark) ++ [mark]

example : quoted "a b".toList = "'a b'".toList := by decide +kernel

example : quoted "it's".toList = "\"it's\"".toList := by decide +kernel

example : quoted "\x07\u200b".toList = "'\\x07\\u200b'".toList := by decide +kernel

end ProtoTypings.Text
