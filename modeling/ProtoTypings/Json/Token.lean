import ProtoTypings.Text.Basic

/-!
# Tokens of JSON

A package manifest is a JSON document, of which only the shape and the keys matter here. Its text is
cut into brackets, commas, colons, strings and scalars. Scalars are the three literals, numbers, and
the names `NaN`, `Infinity` and `-Infinity` for the numbers that JSON leaves out.

A scalar ends where a character follows that no scalar may hold, so its text is known before it is
looked at: a text such as `01` or `truefalse` is one scalar, and a wrong one. Strings hold no
control characters below U+0020.
-/

namespace ProtoTypings.Json

/-- What a bracket encloses. -/
inductive Container where
  | array
  | object
  deriving DecidableEq, Repr

/-- A token. Of a scalar nothing is kept. -/
inductive Token where
  | opens (container : Container)
  | closes (container : Container)
  | comma
  | colon
  | string (value : Text)
  | scalar
  deriving DecidableEq, Repr

/-- The token of one character. -/
def Token.ofMark? : Char → Option Token
  | '[' => some (.opens .array)
  | ']' => some (.closes .array)
  | '\x7b' => some (.opens .object)
  | '\x7d' => some (.closes .object)
  | ',' => some .comma
  | ':' => some .colon
  | _ => none

/-- Whether a character may stand between tokens. -/
def isSpace (c : Char) : Bool :=
  c = ' ' || c = '\t' || c = '\n' || c = '\r'

/-! ## Scalars -/

/-- Whether a character may stand in a scalar. -/
def isScalarChar (c : Char) : Bool :=
  c.isAlphanum || c = '-' || c = '+' || c = '.'

/-- How many digits a whole number may have. -/
def maxDigits : Nat := 4300

/-- Whether a text is one or more digits. -/
def isDigits (text : Text) : Bool :=
  text ≠ [] && text.all Char.isDigit

/-- Whether a text is an exponent, or nothing. -/
def isExponent : Text → Bool
  | [] => true
  | e :: rest =>
    (e = 'e' || e = 'E') &&
      match rest with
      | [] => false
      | sign :: digits => if sign = '+' || sign = '-' then isDigits digits else isDigits rest

/-- Whether a text is the whole part of a number without its sign: digits, of which the first is
zero only if it is alone. -/
def isWhole (text : Text) : Bool :=
  isDigits text && (text.head? ≠ some '0' || text = ['0'])

/-- Whether a text is a number without its sign. A number without fraction and exponent is limited
in length. -/
def isUnsigned (text : Text) : Bool :=
  let whole := text.takeWhile Char.isDigit
  isWhole whole &&
    match text.dropWhile Char.isDigit with
    | [] => whole.length ≤ maxDigits
    | '.' :: later =>
      isDigits (later.takeWhile Char.isDigit) && isExponent (later.dropWhile Char.isDigit)
    | later => isExponent later

/-- Whether a text is a number. -/
def isNumber (text : Text) : Bool :=
  isUnsigned ((Text.after? ['-'] text).getD text)

/-- The scalars that are words. -/
def scalarWords : List Text :=
  ["true", "false", "null", "NaN", "Infinity", "-Infinity"].map String.toList

/-- Whether a text is a scalar. -/
def isScalar (text : Text) : Bool :=
  text ∈ scalarWords || isNumber text

/-! ## Strings -/

/-- The character that a letter stands for after a backslash. -/
def escaped? : Char → Option Char
  | '\x22' => some '\x22'
  | '\\' => some '\\'
  | '/' => some '/'
  | 'b' => some '\x08'
  | 'f' => some '\x0c'
  | 'n' => some '\n'
  | 'r' => some '\r'
  | 't' => some '\t'
  | _ => none

/-- The value of a hexadecimal digit. -/
def hexDigit? (c : Char) : Option Nat :=
  if c.isDigit then some (c.toNat - '0'.toNat)
  else if 'a' ≤ c ∧ c ≤ 'f' then some (c.toNat - 'a'.toNat + 10)
  else if 'A' ≤ c ∧ c ≤ 'F' then some (c.toNat - 'A'.toNat + 10)
  else none

/-- The character of a code unit in four hexadecimal digits. A surrogate is replaced by U+FFFD; a
key with one is never asked for. -/
def codeUnit? (a b c d : Char) : Option Char := do
  let value := (((← hexDigit? a) * 16 + (← hexDigit? b)) * 16 + (← hexDigit? c)) * 16
    + (← hexDigit? d)
  return if 0xD800 ≤ value ∧ value < 0xE000 then '\ufffd' else Char.ofNat value

/-! ## Cutting -/

/-- Where the cutting stands. -/
inductive Position where
  /-- Between tokens, or inside a scalar that has been counted already. -/
  | between (inScalar : Bool)
  /-- Inside a string, after the characters `seen`, the last one first. -/
  | string (seen : Text)
  deriving DecidableEq, Repr

/-- The tokens of a text from a position on. -/
def tokensFrom : Position → Text → Option (List Token)
  | .between _, [] => some []
  | .string _, [] => none
  | .between inScalar, c :: rest =>
    if isScalarChar c then
      if inScalar then tokensFrom (.between true) rest
      else if isScalar ((c :: rest).takeWhile isScalarChar) then
        (tokensFrom (.between true) rest).map (.scalar :: ·)
      else none
    else if isSpace c then tokensFrom (.between false) rest
    else if c = '\x22' then tokensFrom (.string []) rest
    else
      match Token.ofMark? c with
      | some token => (tokensFrom (.between false) rest).map (token :: ·)
      | none => none
  | .string seen, c :: rest =>
    if c = '\x22' then (tokensFrom (.between false) rest).map (.string seen.reverse :: ·)
    else if c = '\\' then
      match rest with
      | 'u' :: x :: y :: z :: w :: later =>
        match codeUnit? x y z w with
        | some unit => tokensFrom (.string (unit :: seen)) later
        | none => none
      | letter :: later =>
        match escaped? letter with
        | some value => tokensFrom (.string (value :: seen)) later
        | none => none
      | [] => none
    else if c.toNat < 0x20 then none
    else tokensFrom (.string (c :: seen)) rest

/-- The tokens of a text; `none` where it is no sequence of tokens. -/
def tokens? (text : Text) : Option (List Token) :=
  tokensFrom (.between false) text

example : tokens? "[-1.5e3 ,\"a\\u0062\"]".toList
    = some [.opens .array, .scalar, .comma, .string "ab".toList, .closes .array] := by
  decide +kernel

end ProtoTypings.Json
