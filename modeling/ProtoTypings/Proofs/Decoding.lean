import ProtoTypings.Proofs.LineEnds
import ProtoTypings.Text.Utf8

/-!
# Decoded texts

A sequence of several bytes stands for a number, six bits of it in each byte behind the lead. While
a sequence is read, the numbers that it can still stand for are those whose leading bits have been
read and whose next six bits are in the range of the next byte (`Utf8.Unfinished.Admits`). The
ranges shut out every sequence but the one that encodes a character, so bytes can be decoded exactly
if they are the encoding of a text, and then to that text (`Utf8.decode_eq_ok_iff`).

In an encoding the bytes of ASCII stand for themselves and for nothing else. So a text has a line
feed behind each carriage return if its bytes have (`Utf8.followedBy_of_decode`).
-/

namespace ProtoTypings

namespace Utf8

lemma exists_of_map_eq_ok {result : Except Fault Text} {f : Text → Text} {text : Text}
    (h : result.map f = .ok text) : ∃ decoded, result = .ok decoded ∧ text = f decoded := by
  cases result with
  | error fault => simp [Except.map] at h
  | ok decoded => exact ⟨decoded, rfl, (Except.ok.inj h).symm⟩

/-- Bytes from which no character is decoded are none. -/
lemma decodeFrom_eq_nil {position : Nat} {pending : Option Unfinished}
    {bytes : List UInt8} (h : decodeFrom position pending bytes = .ok []) :
    pending = none ∧ bytes = [] := by
  fun_induction decodeFrom position pending bytes with
  | case1 => exact ⟨rfl, rfl⟩
  | case2 => simp at h
  | case3 position byte rest _ ih =>
    obtain ⟨decoded, -, hText⟩ := exists_of_map_eq_ok h
    simp at hText
  | case4 => simp at h
  | case5 _ _ _ _ _ _ ih => exact absurd (ih h).1 (by simp)
  | case6 => simp at h
  | case7 position _ _ rest =>
    obtain ⟨decoded, -, hText⟩ := exists_of_map_eq_ok h
    simp at hText
  | case8 _ _ _ _ _ _ _ _ ih => exact absurd (ih h).1 (by simp)

/-- The last bytes of the sequence for a number, as many as are asked for. -/
def lastBytes (number : ℕ) : ℕ → List UInt8
  | 0 => []
  | n + 1 => UInt8.ofNat (number / 64 ^ n % 64 + 0x80) :: lastBytes number n

/-- Whether a sequence of which some bytes have been read can stand for a number. -/
structure Unfinished.Admits (pending : Unfinished) (number : ℕ) : Prop where
  bits : number / 64 ^ (pending.owedAfter + 1) = pending.bits
  low_le : pending.low.toNat ≤ number / 64 ^ pending.owedAfter % 64 + 0x80
  le_high : number / 64 ^ pending.owedAfter % 64 + 0x80 ≤ pending.high.toNat

/-- Whether all bytes in the range of the next one carry six bits. -/
structure Unfinished.IsNarrow (pending : Unfinished) : Prop where
  le_low : 0x80 ≤ pending.low.toNat
  high_le : pending.high.toNat ≤ 0xBF

/-! ## Bytes behind a lead -/

lemma toNat_lastByte (n : ℕ) : (UInt8.ofNat (n % 64 + 0x80)).toNat = n % 64 + 0x80 :=
  UInt8.toNat_ofNat_of_lt' (show n % 64 + 0x80 < 256 by omega)

lemma lastBytes_of_toNat_eq {number n : ℕ} {byte : UInt8}
    (h : number / 64 ^ n % 64 + 0x80 = byte.toNat) :
    lastBytes number (n + 1) = byte :: lastBytes number n := by
  rw [lastBytes, h, UInt8.ofNat_toNat]

/-- A byte behind the lead adds six bits to those read before it. -/
lemma div_pow_eq_iff {number bits byte n : ℕ} (hLow : 0x80 ≤ byte) (hHigh : byte ≤ 0xBF) :
    number / 64 ^ n = bits * 64 + (byte - 0x80) ↔
      number / 64 ^ (n + 1) = bits ∧ number / 64 ^ n % 64 + 0x80 = byte := by
  rw [pow_succ, ← Nat.div_div_eq_div_mul]
  omega

variable {position : ℕ} {pending : Unfinished} {bytes : List UInt8} {text : Text}

/-- The byte that completes a sequence. -/
lemma decodeFrom_last_eq_ok_iff (h : pending.owedAfter = 0) :
    decodeFrom position (some pending) bytes = .ok text ↔
      ∃ byte rest decoded, bytes = byte :: rest ∧ pending.low.toNat ≤ byte.toNat ∧
        byte.toNat ≤ pending.high.toNat ∧ decodeFrom (position + 1) none rest = .ok decoded ∧
        text = Char.ofNat (pending.bits * 64 + (byte.toNat - 0x80)) :: decoded := by
  constructor
  · intro hText
    cases bytes with
    | nil => simp [decodeFrom] at hText
    | cons byte rest =>
      rw [decodeFrom, h] at hText
      split at hText
      · simp at hText
      · next hRange =>
        obtain ⟨hLow, hHigh⟩ := not_or.1 hRange
        obtain ⟨decoded, hRest, rfl⟩ := exists_of_map_eq_ok hText
        exact ⟨byte, rest, decoded, rfl, UInt8.not_lt.1 hLow, UInt8.not_lt.1 hHigh, hRest, rfl⟩
  · rintro ⟨byte, rest, decoded, rfl, hLow, hHigh, hRest, rfl⟩
    rw [decodeFrom, h, if_neg (not_or.2 ⟨UInt8.not_lt.2 hLow, UInt8.not_lt.2 hHigh⟩)]
    dsimp only
    rw [hRest]
    rfl

/-- A byte of a sequence behind which more are owed. -/
lemma decodeFrom_next_eq_ok_iff {owedAfter : ℕ} (h : pending.owedAfter = owedAfter + 1) :
    decodeFrom position (some pending) bytes = .ok text ↔
      ∃ byte rest, bytes = byte :: rest ∧ pending.low.toNat ≤ byte.toNat ∧
        byte.toNat ≤ pending.high.toNat ∧
        decodeFrom (position + 1)
          (some ⟨pending.start, pending.lead, pending.more + 1, owedAfter, 0x80, 0xBF,
            pending.bits * 64 + (byte.toNat - 0x80)⟩) rest = .ok text := by
  constructor
  · intro hText
    cases bytes with
    | nil => simp [decodeFrom] at hText
    | cons byte rest =>
      rw [decodeFrom, h] at hText
      split at hText
      · simp at hText
      · next hRange =>
        obtain ⟨hLow, hHigh⟩ := not_or.1 hRange
        exact ⟨byte, rest, rfl, UInt8.not_lt.1 hLow, UInt8.not_lt.1 hHigh, hText⟩
  · rintro ⟨byte, rest, rfl, hLow, hHigh, hText⟩
    rw [decodeFrom, h, if_neg (not_or.2 ⟨UInt8.not_lt.2 hLow, UInt8.not_lt.2 hHigh⟩)]
    exact hText

/-- What is decoded behind a lead begins with a character that the sequence can stand for. -/
lemma decodeFrom_pending_eq_ok_iff (hNarrow : pending.IsNarrow) :
    decodeFrom position (some pending) bytes = .ok text ↔
      ∃ number rest decoded, pending.Admits number ∧
        bytes = lastBytes number (pending.owedAfter + 1) ++ rest ∧
        decodeFrom (position + (pending.owedAfter + 1)) none rest = .ok decoded ∧
        text = Char.ofNat number :: decoded := by
  -- the induction is on the bytes owed: one that does not complete the sequence leaves one fewer
  induction hOwed : pending.owedAfter generalizing position pending bytes with
  | zero =>
    rw [decodeFrom_last_eq_ok_iff hOwed]
    constructor
    · rintro ⟨byte, rest, decoded, rfl, hLow, hHigh, hRest, rfl⟩
      obtain ⟨hBits, hByte⟩ := (div_pow_eq_iff (n := 0) (hNarrow.le_low.trans hLow)
        (hHigh.trans hNarrow.high_le)).1 (Nat.div_one _)
      refine ⟨_, rest, decoded, ⟨?_, ?_, ?_⟩, ?_, hRest, rfl⟩
      · rw [hOwed, hBits]
      · rwa [hOwed, hByte]
      · rwa [hOwed, hByte]
      · rw [lastBytes_of_toNat_eq hByte]
        rfl
    · rintro ⟨number, rest, decoded, ⟨hBits, hLow, hHigh⟩, rfl, hRest, rfl⟩
      rw [hOwed] at hBits hLow hHigh
      have hNumber := (div_pow_eq_iff (hNarrow.le_low.trans hLow) (hHigh.trans hNarrow.high_le)).2
        ⟨hBits, rfl⟩
      refine ⟨_, rest, decoded, rfl, ?_, ?_, hRest, ?_⟩
      · rwa [toNat_lastByte]
      · rwa [toNat_lastByte]
      · rw [toNat_lastByte, ← hNumber, pow_zero, Nat.div_one]
  | succ owedAfter ih =>
    rw [decodeFrom_next_eq_ok_iff hOwed]
    have hNext (byte : UInt8) : Unfinished.IsNarrow ⟨pending.start, pending.lead, pending.more + 1,
        owedAfter, 0x80, 0xBF, pending.bits * 64 + (byte.toNat - 0x80)⟩ := ⟨le_rfl, le_rfl⟩
    constructor
    · rintro ⟨byte, rest, rfl, hLow, hHigh, hText⟩
      obtain ⟨number, later, decoded, hAdmits, rfl, hLater, rfl⟩ := (ih (hNext byte) rfl).1 hText
      obtain ⟨hBits, hByte⟩ := (div_pow_eq_iff (hNarrow.le_low.trans hLow)
        (hHigh.trans hNarrow.high_le)).1 hAdmits.bits
      refine ⟨number, later, decoded, ⟨?_, ?_, ?_⟩, ?_, ?_, rfl⟩
      · rw [hOwed, hBits]
      · rwa [hOwed, hByte]
      · rwa [hOwed, hByte]
      · rw [lastBytes_of_toNat_eq hByte]
        rfl
      · rwa [add_right_comm, add_assoc] at hLater
    · rintro ⟨number, rest, decoded, ⟨hBits, hLow, hHigh⟩, rfl, hRest, rfl⟩
      rw [hOwed] at hBits hLow hHigh
      have hNumber := (div_pow_eq_iff (hNarrow.le_low.trans hLow) (hHigh.trans hNarrow.high_le)).2
        ⟨hBits, rfl⟩
      refine ⟨_, lastBytes number (owedAfter + 1) ++ rest, rfl, ?_, ?_, ?_⟩
      · rwa [toNat_lastByte]
      · rwa [toNat_lastByte]
      · refine (ih (hNext _) rfl).2 ⟨number, rest, decoded, ⟨?_, ?_, ?_⟩, rfl, ?_, rfl⟩
        · dsimp only
          rwa [toNat_lastByte]
        · exact Nat.le_add_left _ _
        · have hLast : number / 64 ^ owedAfter % 64 < 64 := Nat.mod_lt _ (by decide)
          change _ ≤ 0xBF
          omega
        · rwa [add_assoc, add_comm 1]

/-! ## Leads -/

/-- Whether a byte is the lead of the sequence that encodes a character, given by its number, and
how many bytes are owed after the one that follows. -/
inductive Leads (lead : UInt8) (number : ℕ) : ℕ → Prop
  | two (hLow : 0x80 ≤ number) (hHigh : number < 0x800)
      (hLead : lead.toNat = 0xC0 + number / 64 ^ 1) : Leads lead number 0
  | three (hLow : 0x800 ≤ number) (hHigh : number < 0x10000) (hChar : number.isValidChar)
      (hLead : lead.toNat = 0xE0 + number / 64 ^ 2) : Leads lead number 1
  | four (hLow : 0x10000 ≤ number) (hHigh : number < 0x110000)
      (hLead : lead.toNat = 0xF0 + number / 64 ^ 3) : Leads lead number 2

/-- A lead begins a sequence that can stand for the numbers it leads to. -/
lemma Leads.exists_begin? {lead : UInt8} {number owedAfter : ℕ} (h : Leads lead number owedAfter)
    (position : ℕ) : ∃ pending, begin? position lead = some pending ∧
      pending.owedAfter = owedAfter ∧ pending.Admits number := by
  simp only [begin?]
  cases h with
  | two hLow hHigh hLead =>
    rw [if_neg (by omega), if_pos (by omega)]
    refine ⟨_, rfl, rfl, ?_, ?_, ?_⟩
    · change number / 64 ^ 1 = lead.toNat - 0xC0
      omega
    · exact Nat.le_add_left _ _
    · change number / 64 ^ 0 % 64 + 0x80 ≤ 0xBF
      omega
  | three hLow hHigh hChar hLead =>
    rw [if_neg (by omega), if_neg (by omega)]
    have hNext : number / 64 ^ 1 % 64 + 0x80 ≤ 0xBF := by omega
    split
    · refine ⟨_, rfl, rfl, ?_, ?_, hNext⟩
      · change number / 64 ^ 2 = 0
        omega
      · change 0xA0 ≤ number / 64 ^ 1 % 64 + 0x80
        omega
    split
    · refine ⟨_, rfl, rfl, ?_, Nat.le_add_left _ _, ?_⟩
      · change number / 64 ^ 2 = 0xD
        omega
      · change number / 64 ^ 1 % 64 + 0x80 ≤ 0x9F
        -- the numbers that are left out are those of surrogates
        rcases hChar with hChar | hChar <;> omega
    · rw [if_pos (by omega)]
      refine ⟨_, rfl, rfl, ?_, Nat.le_add_left _ _, hNext⟩
      change number / 64 ^ 2 = lead.toNat - 0xE0
      omega
  | four hLow hHigh hLead =>
    rw [if_neg (by omega), if_neg (by omega), if_neg (by omega), if_neg (by omega),
      if_neg (by omega)]
    have hNext : number / 64 ^ 2 % 64 + 0x80 ≤ 0xBF := by omega
    split
    · refine ⟨_, rfl, rfl, ?_, ?_, hNext⟩
      · change number / 64 ^ 3 = 0
        omega
      · change 0x90 ≤ number / 64 ^ 2 % 64 + 0x80
        omega
    split
    · refine ⟨_, rfl, rfl, ?_, Nat.le_add_left _ _, hNext⟩
      change number / 64 ^ 3 = lead.toNat - 0xF0
      omega
    · rw [if_pos (by omega)]
      refine ⟨_, rfl, rfl, ?_, Nat.le_add_left _ _, ?_⟩
      · change number / 64 ^ 3 = 4
        omega
      · change number / 64 ^ 2 % 64 + 0x80 ≤ 0x8F
        omega

/-- The ranges of the bytes that may follow a lead shut out all other numbers. -/
lemma leads_of_begin? {lead : UInt8} {number : ℕ} (hBegin : begin? position lead = some pending)
    (hAdmits : pending.Admits number) : Leads lead number pending.owedAfter := by
  obtain ⟨hBits, hLow, hHigh⟩ := hAdmits
  simp only [begin?] at hBegin
  -- the leads in turn
  split at hBegin
  · simp at hBegin
  split at hBegin
  · obtain rfl := Option.some.inj hBegin
    replace hBits : number / 64 ^ 1 = lead.toNat - 0xC0 := hBits
    exact .two (by omega) (by omega) (by omega)
  split at hBegin
  · obtain rfl := Option.some.inj hBegin
    replace hBits : number / 64 ^ 2 = 0 := hBits
    replace hLow : 0xA0 ≤ number / 64 ^ 1 % 64 + 0x80 := hLow
    exact .three (by omega) (by omega) (.inl (by omega)) (by omega)
  split at hBegin
  · obtain rfl := Option.some.inj hBegin
    replace hBits : number / 64 ^ 2 = 0xD := hBits
    replace hHigh : number / 64 ^ 1 % 64 + 0x80 ≤ 0x9F := hHigh
    exact .three (by omega) (by omega) (.inl (by omega)) (by omega)
  split at hBegin
  · obtain rfl := Option.some.inj hBegin
    replace hBits : number / 64 ^ 2 = lead.toNat - 0xE0 := hBits
    have hChar : number < 0xD800 ∨ 0xDFFF < number ∧ number < 0x110000 := by omega
    exact .three (by omega) (by omega) hChar (by omega)
  split at hBegin
  · obtain rfl := Option.some.inj hBegin
    replace hBits : number / 64 ^ 3 = 0 := hBits
    replace hLow : 0x90 ≤ number / 64 ^ 2 % 64 + 0x80 := hLow
    exact .four (by omega) (by omega) (by omega)
  split at hBegin
  · obtain rfl := Option.some.inj hBegin
    replace hBits : number / 64 ^ 3 = lead.toNat - 0xF0 := hBits
    exact .four (by omega) (by omega) (by omega)
  split at hBegin
  · obtain rfl := Option.some.inj hBegin
    replace hBits : number / 64 ^ 3 = 4 := hBits
    replace hHigh : number / 64 ^ 2 % 64 + 0x80 ≤ 0x8F := hHigh
    exact .four (by omega) (by omega) (by omega)
  · simp at hBegin

lemma isNarrow_of_begin? {lead : UInt8} (h : begin? position lead = some pending) :
    pending.IsNarrow := by
  simp only [begin?] at h
  repeat' split at h
  all_goals first
    | simp at h; done
    | obtain rfl := Option.some.inj h
      exact ⟨by simp, by simp⟩

/-! ## Characters -/

lemma toNat_ofNat_of_isValidChar {number : ℕ} (h : number.isValidChar) :
    (Char.ofNat number).val.toNat = number := by
  have hNat := Char.toNat_ofNat number
  rwa [if_pos h] at hNat

/-- The encoding of a character of ASCII is one byte. -/
lemma utf8EncodeChar_ascii {byte : UInt8} (h : byte.toNat < 0x80) :
    String.utf8EncodeChar (Char.ofNat byte.toNat) = [byte] := by
  have hNat := toNat_ofNat_of_isValidChar (.inl (by omega : byte.toNat < 0xD800))
  rw [String.utf8EncodeChar, hNat, if_pos (by omega), UInt8.ofNat_toNat]

lemma Leads.isValidChar {lead : UInt8} {number owedAfter : ℕ} (h : Leads lead number owedAfter) :
    number.isValidChar := by
  cases h with
  | two hLow hHigh hLead => exact .inl (by omega)
  | three hLow hHigh hChar hLead => exact hChar
  | four hLow hHigh hLead => exact .inr (by omega)

/-- The encoding of another character. -/
lemma Leads.utf8EncodeChar_eq {lead : UInt8} {number owedAfter : ℕ}
    (h : Leads lead number owedAfter) :
    String.utf8EncodeChar (Char.ofNat number) = lead :: lastBytes number (owedAfter + 1) := by
  have hNat := toNat_ofNat_of_isValidChar h.isValidChar
  rw [String.utf8EncodeChar, hNat]
  cases h with
  | two hLow hHigh hLead =>
    have hFirst : number / 64 % 32 + 192 = lead.toNat := by omega
    rw [if_neg (by omega), if_pos (by omega), hFirst, UInt8.ofNat_toNat]
    simp [lastBytes]
  | three hLow hHigh hChar hLead =>
    have hFirst : number / 4096 % 16 + 224 = lead.toNat := by omega
    rw [if_neg (by omega), if_neg (by omega), if_pos (by omega), hFirst, UInt8.ofNat_toNat]
    simp [lastBytes]
  | four hLow hHigh hLead =>
    have hFirst : number / 262144 % 8 + 240 = lead.toNat := by omega
    rw [if_neg (by omega), if_neg (by omega), if_neg (by omega), hFirst, UInt8.ofNat_toNat]
    simp [lastBytes]

/-- Every character behind those of ASCII has a lead. -/
lemma exists_leads {number : ℕ} (hChar : number.isValidChar) (hLow : 0x80 ≤ number) :
    ∃ lead owedAfter, 0x80 ≤ lead.toNat ∧ Leads lead number owedAfter := by
  have hByte {n : ℕ} (h : n < 256) : (UInt8.ofNat n).toNat = n := UInt8.toNat_ofNat_of_lt' h
  have hHigh : number < 0x110000 := by
    rcases hChar with hChar | hChar <;> omega
  by_cases hTwo : number < 0x800
  · have hLead : (UInt8.ofNat (0xC0 + number / 64 ^ 1)).toNat = 0xC0 + number / 64 ^ 1 :=
      hByte (by omega)
    exact ⟨_, 0, by omega, .two hLow hTwo hLead⟩
  by_cases hThree : number < 0x10000
  · have hLead : (UInt8.ofNat (0xE0 + number / 64 ^ 2)).toNat = 0xE0 + number / 64 ^ 2 :=
      hByte (by omega)
    exact ⟨_, 1, by omega, .three (by omega) hThree hChar hLead⟩
  · have hLead : (UInt8.ofNat (0xF0 + number / 64 ^ 3)).toNat = 0xF0 + number / 64 ^ 3 :=
      hByte (by omega)
    exact ⟨_, 2, by omega, .four (by omega) hHigh hLead⟩

/-- A character is encoded by its byte of ASCII, or by a lead and what is owed behind it. -/
lemma utf8EncodeChar_cases (c : Char) :
    (∃ byte : UInt8, byte.toNat < 0x80 ∧ c = Char.ofNat byte.toNat ∧
      String.utf8EncodeChar c = [byte]) ∨
    ∃ lead owedAfter, 0x80 ≤ lead.toNat ∧ Leads lead c.toNat owedAfter ∧
      String.utf8EncodeChar c = lead :: lastBytes c.toNat (owedAfter + 1) := by
  obtain ⟨number, hChar, rfl⟩ : ∃ number : ℕ, number.isValidChar ∧ Char.ofNat number = c :=
    ⟨c.toNat, c.valid, Char.ofNat_toNat c⟩
  have hNat : (Char.ofNat number).toNat = number := toNat_ofNat_of_isValidChar hChar
  rw [hNat]
  by_cases hAscii : number < 0x80
  · have hByte : (UInt8.ofNat number).toNat = number :=
      UInt8.toNat_ofNat_of_lt' (show number < 256 by omega)
    have hEncoded := utf8EncodeChar_ascii (hByte.trans_lt hAscii)
    rw [hByte] at hEncoded
    exact .inl ⟨UInt8.ofNat number, hByte.trans_lt hAscii, by rw [hByte], hEncoded⟩
  · obtain ⟨lead, owedAfter, hLow, hLeads⟩ := exists_leads hChar (Nat.not_lt.1 hAscii)
    exact .inr ⟨lead, owedAfter, hLow, hLeads, hLeads.utf8EncodeChar_eq⟩

/-! ## Texts -/

lemma encode_cons (c : Char) (text : Text) :
    encode (c :: text) = String.utf8EncodeChar c ++ encode text := rfl

lemma decodeFrom_eq_ok_iff {position : ℕ} {bytes : List UInt8} {text : Text} :
    decodeFrom position none bytes = .ok text ↔ bytes = encode text := by
  -- both ways the first character settles the bytes up to the next one
  induction text generalizing position bytes with
  | nil =>
    constructor
    · exact fun h => (decodeFrom_eq_nil h).2
    · rintro rfl
      rfl
  | cons c text ih =>
    rw [encode_cons]
    constructor
    · intro h
      cases bytes with
      | nil => simp [decodeFrom] at h
      | cons byte rest =>
        rw [decodeFrom] at h
        split at h
        · next hAscii =>
          obtain ⟨decoded, hRest, hText⟩ := exists_of_map_eq_ok h
          obtain ⟨rfl, rfl⟩ := List.cons.inj hText
          rw [utf8EncodeChar_ascii hAscii, ih.1 hRest]
          rfl
        · split at h
          · simp at h
          · next pending hBegin =>
            obtain ⟨number, later, decoded, hAdmits, rfl, hLater, hText⟩ :=
              (decodeFrom_pending_eq_ok_iff (isNarrow_of_begin? hBegin)).1 h
            obtain ⟨rfl, rfl⟩ := List.cons.inj hText
            rw [(leads_of_begin? hBegin hAdmits).utf8EncodeChar_eq, ih.1 hLater]
            rfl
    · rintro rfl
      obtain ⟨byte, hAscii, hChar, hEncoded⟩ | ⟨lead, owedAfter, hLow, hLeads, hEncoded⟩ :=
        utf8EncodeChar_cases c
      · rw [hEncoded, List.singleton_append, decodeFrom, if_pos hAscii, ih.2 rfl, hChar]
        rfl
      · obtain ⟨pending, hBegin, rfl, hAdmits⟩ := hLeads.exists_begin? position
        rw [hEncoded, List.cons_append, decodeFrom, if_neg (Nat.not_lt.2 hLow), hBegin]
        exact (decodeFrom_pending_eq_ok_iff (isNarrow_of_begin? hBegin)).2
          ⟨_, encode text, text, hAdmits, rfl, ih.2 rfl, by rw [Char.ofNat_toNat]⟩

/-- **Bytes are decoded to the text whose encoding they are.**  Bytes that are the encoding of no
text are refused. -/
lemma decode_eq_ok_iff {bytes : List UInt8} {text : Text} :
    decode bytes = .ok text ↔ bytes = encode text :=
  decodeFrom_eq_ok_iff

/-- Bytes that are the encoding of no text have a fault. -/
lemma exists_decode_eq_error {bytes : List UInt8} (h : ∀ text, bytes ≠ encode text) :
    ∃ fault, decode bytes = .error fault := by
  cases hDecode : decode bytes with
  | error fault => exact ⟨fault, rfl⟩
  | ok text => exact absurd (decode_eq_ok_iff.1 hDecode) (h text)

/-- Where the line feeds of an encoding are, there are line feeds in the text. -/
lemma head?_of_head?_encode {text : Text} (h : (encode text).head? = some 0x0A) :
    text.head? = some '\n' := by
  cases text with
  | nil => simp [encode] at h
  | cons c text =>
    rw [encode_cons] at h
    obtain ⟨byte, -, rfl, hEncoded⟩ | ⟨lead, _, hLow, -, hEncoded⟩ := utf8EncodeChar_cases c
    · rw [hEncoded] at h
      obtain rfl : byte = 0x0A := by simpa using h
      rfl
    · rw [hEncoded] at h
      obtain rfl : lead = 0x0A := by simpa using h
      exact absurd hLow (by decide)

/-- **Where bytes are paired, their characters are.** -/
lemma followedBy_of_decode {bytes : List UInt8} {text : Text} (h : decode bytes = .ok text)
    (hBytes : FollowedBy 0x0D 0x0A bytes) : FollowedBy '\r' '\n' text := by
  rintro before after rfl
  have hEncoded : bytes = encode before ++ 0x0D :: encode after := by
    rw [decode_eq_ok_iff.1 h, encode, List.flatMap_append]
    rfl
  exact head?_of_head?_encode (hBytes _ _ hEncoded)

end Utf8

lemma Text.eq_nil_of_unifyLineEnds {text : Text} (h : text.unifyLineEnds = []) : text = [] := by
  fun_cases Text.unifyLineEnds text <;> simp_all [Text.unifyLineEnds]

end ProtoTypings
