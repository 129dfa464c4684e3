import ProtoTypings.Proofs.Printed.Schema
import ProtoTypings.Proofs.Reading

/-!
# Names in front of other text

The characters of identifiers, of dotted names and of numerals are neither blank nor marks, and so a
name ends where a blank or a mark follows. What a reader finds at the front of such a text is
therefore settled by the name alone.
-/

namespace ProtoTypings

open Text

/-! ## Characters -/

namespace Name

instance : DecidablePred IsPart := fun c =>
  inferInstanceAs (Decidable (c.isAlphanum = true ∨ c = '_'))

variable {c : Char}

lemma IsPart.isBlank_eq (h : IsPart c) : isBlank c = false := by
  rcases h with h | rfl
  · exact forall_isAlphanum (Q := fun c => isBlank c = false) (by decide +kernel) h
  · decide

lemma IsPart.isWordChar_eq (h : IsPart c) : isWordChar c = true := by
  rcases h with h | rfl
  · exact forall_isAlphanum (Q := fun c => isWordChar c = true) (by decide +kernel) h
  · decide +kernel

/-- The marks that stand directly before or after names in a printed schema. -/
def marks : Text := ['.', ';', '=', '(', ')', '{', '}', '\x22', '/', '\r']

lemma IsPart.not_mem_marks (h : IsPart c) : c ∉ marks := by
  rcases h with h | rfl
  · exact forall_isAlphanum (Q := fun c => c ∉ marks) (by decide +kernel) h
  · decide

end Name

/-- Whether a character may stand in a dotted name or in a numeral: it is no blank, and no mark but
a dot. -/
def IsNameChar (c : Char) : Prop :=
  isBlank c = false ∧ (c ∉ Name.marks ∨ c = '.')

lemma Name.IsPart.isNameChar {c : Char} (h : Name.IsPart c) : IsNameChar c :=
  ⟨h.isBlank_eq, .inl h.not_mem_marks⟩

lemma IsNameChar.ne {c d : Char} (h : IsNameChar c) (hd : d ∈ Name.marks) (hDot : d ≠ '.') :
    c ≠ d := by
  rintro rfl
  exact h.2.elim (fun hc => hc hd) hDot

lemma Identifier.isPart_of_mem {name : Identifier} {c : Char} (h : c ∈ name.text) :
    Name.IsPart c := by
  rcases List.mem_cons.1 h with rfl | h
  · exact .inl (by simp [Char.isAlphanum, name.isAlpha])
  · exact name.isPart c h

lemma DottedName.isNameChar_of_mem {name : DottedName} {c : Char} (h : c ∈ name.text) :
    IsNameChar c := by
  rcases List.mem_append.1 h with h | h
  · exact (Identifier.isPart_of_mem h).isNameChar
  · obtain ⟨part, -, h⟩ := List.mem_flatMap.1 h
    rcases List.mem_cons.1 h with rfl | h
    · exact ⟨by decide, .inr rfl⟩
    · exact (Identifier.isPart_of_mem h).isNameChar

lemma isNameChar_of_mem_numeral {number : ℤ} {c : Char} (h : c ∈ numeral number) :
    IsNameChar c := by
  have hDigits : ∀ n : ℕ, c ∈ Nat.toDigits 10 n → IsNameChar c := by
    intro n hn
    have hDigit : c.isDigit = true := Nat.isDigit_of_mem_toDigits (by decide) (by decide) hn
    have hPart : Name.IsPart c := .inl (by simp [Char.isAlphanum, hDigit])
    exact hPart.isNameChar
  cases number with
  | ofNat n => exact hDigits n h
  | negSucc n =>
    rcases List.mem_cons.1 h with rfl | h
    · exact ⟨by decide, .inl (by decide)⟩
    · exact hDigits (n + 1) h

/-! ## Names as words -/

lemma isWord_of_isNameChar {name : Text} (hne : name ≠ []) (h : ∀ c ∈ name, IsNameChar c) :
    IsWord name :=
  ⟨hne, fun c hc => (h c hc).1⟩

lemma Identifier.text_ne_nil (name : Identifier) : name.text ≠ [] :=
  List.cons_ne_nil _ _

lemma DottedName.text_ne_nil (name : DottedName) : name.text ≠ [] := by
  simp [DottedName.text, Identifier.text]

lemma Identifier.isWord (name : Identifier) : IsWord name.text :=
  ⟨name.text_ne_nil, fun _ hc => (Identifier.isPart_of_mem hc).isBlank_eq⟩

lemma DottedName.isWord (name : DottedName) : IsWord name.text :=
  isWord_of_isNameChar name.text_ne_nil fun _ => DottedName.isNameChar_of_mem

end ProtoTypings
