import ProtoTypings.Text.Ranges

/-!
# Blank characters

Tokens are separated by blanks, and `syntax`, `option` and `rpc` statements admit them between
their parts. Blank are the characters of Unicode's white space together with the four information
separators U+001C to U+001F. The zero width space and the byte order mark are not blank.
-/

namespace ProtoTypings.Text

/-- The blank characters, as closed ranges of code points. -/
def blankRanges : Ranges :=
  [(0x09, 0x0D), (0x1C, 0x20), (0x85, 0x85), (0xA0, 0xA0), (0x1680, 0x1680), (0x2000, 0x200A),
   (0x2028, 0x2029), (0x202F, 0x202F), (0x205F, 0x205F), (0x3000, 0x3000)]

/-- Whether a character is blank. -/
def isBlank (c : Char) : Bool :=
  blankRanges.covers c

/-- The text from its first character that is not blank. -/
def skipBlanks (text : Text) : Text :=
  text.dropWhile isBlank

/-- The text from a blank onwards, past all blanks there; refused where no blank stands. -/
def skipSomeBlanks? : Text → Option Text
  | [] => none
  | c :: rest => if isBlank c then some (skipBlanks rest) else none

/-- The text without the blanks at both ends. -/
def trim (text : Text) : Text :=
  trimEnd isBlank (skipBlanks text)

example : blankRanges.apart = true ∧ blankRanges.size = 29 := by decide

example : isBlank '\n' ∧ isBlank '\x1f' ∧ isBlank '\u00a0' ∧ ¬ isBlank '\u200b' := by decide

end ProtoTypings.Text
