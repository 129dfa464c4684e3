import ProtoTypings.Text.Quoted

/-!
# UTF-8

A schema arrives as bytes. Decoding reads them from left to right and keeps, inside a multi-byte
sequence, how many bytes are still owed and in which range the next one must lie: the range of the
second byte is narrower after the leads `E0`, `ED`, `F0` and `F4`, which shuts out overlong forms,
surrogates and values past U+10FFFF.

A fault names the bytes that cannot be decoded: a byte that starts no sequence, or the part of a
sequence read so far when the next byte does not fit or the input ends.
-/

namespace ProtoTypings.Utf8

/-- Why bytes cannot be decoded. -/
inductive Reason where
  /-- The byte begins no sequence. -/
  | invalidStart
  /-- The byte after the sequence read so far does not continue it. -/
  | invalidContinuation
  /-- The input ends inside the sequence. -/
  | unexpectedEnd
  deriving DecidableEq, Repr

/-- The words for a reason. -/
def Reason.message : Reason → Text
  | .invalidStart => "invalid start byte".toList
  | .invalidContinuation => "invalid continuation byte".toList
  | .unexpectedEnd => "unexpected end of data".toList

/-- Bytes that cannot be decoded. -/
structure Fault where
  /-- How many bytes of the input precede them. -/
  position : Nat
  /-- The first of them. -/
  lead : UInt8
  /-- How many follow the first. -/
  more : Nat
  reason : Reason
  deriving DecidableEq, Repr

/-- The message of a fault: one byte is shown, of several only the positions. -/
def Fault.message (fault : Fault) : Text :=
  let decimal (n : Nat) : Text := Nat.toDigits 10 n
  let place : Text :=
    if fault.more = 0 then
      "byte 0x".toList ++ Text.hexadecimal 2 fault.lead.toNat ++ " in position ".toList
        ++ decimal fault.position
    else
      "bytes in position ".toList ++ decimal fault.position ++ ['-']
        ++ decimal (fault.position + fault.more)
  "'utf-8' codec can't decode ".toList ++ place ++ ": ".toList ++ fault.reason.message

/-- A sequence of which some bytes have been read and at least one is owed. -/
structure Unfinished where
  /-- Where the sequence starts. -/
  start : Nat
  lead : UInt8
  /-- How many bytes after the lead have been read. -/
  more : Nat
  /-- How many further bytes are owed after the next one. -/
  owedAfter : Nat
  /-- The least and the greatest value of the next byte. -/
  low : UInt8
  high : UInt8
  /-- The bits read so far. -/
  bits : Nat
  deriving DecidableEq, Repr

/-- The fault of a sequence that is not completed. -/
def Unfinished.fault (pending : Unfinished) (reason : Reason) : Fault :=
  ⟨pending.start, pending.lead, pending.more, reason⟩

/-- What a lead byte begins: a sequence of two to four bytes, or nothing. -/
def begin? (position : Nat) (lead : UInt8) : Option Unfinished :=
  let sequence (owedAfter : Nat) (low high : UInt8) (bits : Nat) : Option Unfinished :=
    some ⟨position, lead, 0, owedAfter, low, high, bits⟩
  let n := lead.toNat
  if n < 0xC2 then none
  else if n < 0xE0 then sequence 0 0x80 0xBF (n - 0xC0)
  else if n = 0xE0 then sequence 1 0xA0 0xBF 0
  else if n = 0xED then sequence 1 0x80 0x9F 0xD
  else if n < 0xF0 then sequence 1 0x80 0xBF (n - 0xE0)
  else if n = 0xF0 then sequence 2 0x90 0xBF 0
  else if n < 0xF4 then sequence 2 0x80 0xBF (n - 0xF0)
  else if n = 0xF4 then sequence 2 0x80 0x8F 4
  else none

/-- Decodes from a position on, inside a sequence or between two. -/
def decodeFrom (position : Nat) : Option Unfinished → List UInt8 → Except Fault Text
  | none, [] => .ok []
  | some pending, [] => .error (pending.fault .unexpectedEnd)
  | none, byte :: rest =>
    if byte.toNat < 0x80 then
      (decodeFrom (position + 1) none rest).map (Char.ofNat byte.toNat :: ·)
    else
      match begin? position byte with
      | none => .error ⟨position, byte, 0, .invalidStart⟩
      | some pending => decodeFrom (position + 1) (some pending) rest
  | some pending, byte :: rest =>
    if byte < pending.low ∨ pending.high < byte then
      .error (pending.fault .invalidContinuation)
    else
      let bits := pending.bits * 64 + (byte.toNat - 0x80)
      match pending.owedAfter with
      | 0 => (decodeFrom (position + 1) none rest).map (Char.ofNat bits :: ·)
      | owedAfter + 1 =>
        decodeFrom (position + 1)
          (some ⟨pending.start, pending.lead, pending.more + 1, owedAfter, 0x80, 0xBF, bits⟩) rest

/-- The text of a sequence of bytes, or the first fault in it. -/
def decode (bytes : List UInt8) : Except Fault Text :=
  decodeFrom 0 none bytes

/-- The text of a file: its bytes decoded, with line feeds for all line endings. -/
def decodeFile (bytes : List UInt8) : Except Fault Text :=
  (decode bytes).map Text.unifyLineEnds

/-- The bytes of a text. -/
def encode (text : Text) : List UInt8 :=
  text.flatMap String.utf8EncodeChar

/-- How many bytes a text takes. -/
def size (text : Text) : Nat :=
  text.foldl (fun bytes c => bytes + c.utf8Size) 0

theorem length_encode (text : Text) : (encode text).length = size text := by
  suffices h : ∀ start, start + (encode text).length
      = text.foldl (fun bytes c => bytes + c.utf8Size) start by
    simpa [size] using h 0
  induction text with
  | nil => intro start; rfl
  | cons c later ih =>
    intro start
    rw [List.foldl_cons, ← ih, encode, List.flatMap_cons, List.length_append,
      String.length_utf8EncodeChar, Nat.add_assoc]
    rfl

example : (decode [0x61, 0xC3, 0xA9, 0xE2, 0x82, 0xAC]).toOption = some "aé€".toList := by
  decide +kernel

example : decode [0x61, 0xE2, 0x82, 0x0A] = .error ⟨1, 0xE2, 1, .invalidContinuation⟩ := rfl

end ProtoTypings.Utf8
