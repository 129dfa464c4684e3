import ProtoTypings.Proofs.Lines
import ProtoTypings.Proofs.Rendering

/-!
# Line endings

A line may end in a line feed or in a carriage return and a line feed, and a text may mix the two.
This file compares a text without carriage returns with the texts that arise when some of its line
feeds get one in front (`Text.Returned`). Nothing that is read from the two differs: they have the
same lines, since carriage returns are taken off the ends of lines, and they declare the same
dialect, since a carriage return is as blank as the line feed behind it. So the same document is
generated from both (`generate_of_returned`).

Texts of this kind arise in two ways: line feeds of a text are chosen and get a carriage return
(`Text.withReturns`), or the line endings of a text are unified in which a line feed follows each
carriage return (`Text.FollowedBy`).
-/

namespace ProtoTypings

/-! ## Carriage returns in front of line feeds -/

namespace Text

/-- Whether a text is another one with a carriage return in front of some of its line feeds. -/
inductive Returned : Text → Text → Prop
  | nil : Returned [] []
  | cons {c : Char} {other text : Text} (hReturn : c ≠ '\r') (h : Returned other text) :
      Returned (c :: other) (c :: text)
  | lineFeed {other text : Text} (h : Returned other text) :
      Returned ('\r' :: '\n' :: other) ('\n' :: text)

/-- A text with a carriage return in front of the line feeds that are chosen, by their numbers from
the first one on. -/
def withReturns (chosen : ℕ → Bool) : Text → Text
  | [] => []
  | c :: rest =>
    if c = '\n' then
      (if chosen 0 then ['\r', '\n'] else ['\n']) ++ withReturns (fun n => chosen (n + 1)) rest
    else c :: withReturns chosen rest

lemma returned_withReturns (chosen : ℕ → Bool) {text : Text} (h : '\r' ∉ text) :
    Returned (withReturns chosen text) text := by
  induction text generalizing chosen with
  | nil => exact .nil
  | cons c rest ih =>
    have hRest : '\r' ∉ rest := fun hMem => h (List.mem_cons_of_mem _ hMem)
    have hReturn : c ≠ '\r' := fun hEq => h (hEq ▸ List.mem_cons_self)
    rw [withReturns]
    split
    · next hFeed =>
      subst hFeed
      split
      · exact .lineFeed (ih _ hRest)
      · exact .cons hReturn (ih _ hRest)
    · exact .cons hReturn (ih chosen hRest)

end Text

/-- Whether each element of one kind in a list is directly followed by one of another kind. -/
def FollowedBy {α : Type} (first second : α) (list : List α) : Prop :=
  ∀ before after, list = before ++ first :: after → after.head? = some second

lemma followedBy_cons_iff {α : Type} {first second head : α} {rest : List α} :
    FollowedBy first second (head :: rest) ↔
      (head = first → rest.head? = some second) ∧ FollowedBy first second rest := by
  constructor
  · intro h
    refine ⟨fun hFirst => h [] rest (by rw [hFirst]; rfl), fun before after hRest => ?_⟩
    exact h (head :: before) after (by rw [hRest]; rfl)
  · rintro ⟨hHead, hRest⟩ before after h
    cases before with
    | nil =>
      obtain ⟨hFirst, rfl⟩ := List.cons.inj h
      exact hHead hFirst
    | cons other before => exact hRest before after (List.cons.inj h).2

instance decidableFollowedBy {α : Type} [DecidableEq α] (first second : α) :
    (list : List α) → Decidable (FollowedBy first second list)
  | [] => isTrue fun before after h => by simp at h
  | _ :: rest =>
    have := decidableFollowedBy first second rest
    decidable_of_iff' _ followedBy_cons_iff

namespace Text

lemma returned_unifyLineEnds {text : Text} (h : FollowedBy '\r' '\n' text) :
    Returned text text.unifyLineEnds := by
  fun_induction unifyLineEnds text with
  | case1 => exact .nil
  | case2 rest ih =>
    rw [followedBy_cons_iff, followedBy_cons_iff] at h
    exact .lineFeed (ih h.2.2)
  | case3 rest hFeed _ =>
    -- no line feed follows
    obtain ⟨later, rfl⟩ := List.head?_eq_some_iff.1 ((followedBy_cons_iff.1 h).1 rfl)
    exact absurd rfl (hFeed later)
  | case4 c rest hFeed hReturn ih =>
    exact .cons hReturn (ih (followedBy_cons_iff.1 h).2)

/-! ## Lines -/

lemma lines_lineFeed (rest : Text) : lines ('\n' :: rest) = [] :: lines rest := by
  simp [lines, List.splitOn_cons_eq_if_modifyHead, trimEnd]

lemma lines_returned_lineFeed (rest : Text) : lines ('\r' :: '\n' :: rest) = [] :: lines rest := by
  simp [lines, List.splitOn_cons_eq_if_modifyHead, trimEnd]

lemma trimEnd_cons {drops : Char → Bool} {c : Char} (hc : drops c = false) (rest : Text) :
    trimEnd drops (c :: rest) = c :: trimEnd drops rest :=
  trimEnd_append_cons hc [] rest

lemma lines_cons {c : Char} (hReturn : c ≠ '\r') (hFeed : c ≠ '\n') (rest : Text) :
    lines (c :: rest) = (lines rest).modifyHead (c :: ·) := by
  rw [lines, lines, List.splitOn_cons_eq_if_modifyHead, if_neg (by simpa using hFeed)]
  cases rest.splitOn '\n' with
  | nil => rfl
  | cons piece pieces => simp [trimEnd_cons, hReturn]

namespace Returned

variable {text other : Text}

lemma lines_eq (h : Returned other text) : other.lines = text.lines := by
  induction h with
  | nil => rfl
  | @cons c other text hReturn h ih =>
    by_cases hFeed : c = '\n'
    · rw [hFeed, lines_lineFeed, lines_lineFeed, ih]
    · rw [lines_cons hReturn hFeed, lines_cons hReturn hFeed, ih]
  | lineFeed h ih => rw [lines_returned_lineFeed, lines_lineFeed, ih]

lemma eq_nil_iff (h : Returned other text) : other = [] ↔ text = [] := by
  cases h <;> simp

/-! ## Readers -/

lemma skipBlanks (h : Returned other text) :
    Returned (Text.skipBlanks other) (Text.skipBlanks text) := by
  induction h with
  | nil => exact .nil
  | @cons c other text hReturn h ih =>
    rw [Text.skipBlanks, Text.skipBlanks, List.dropWhile_cons, List.dropWhile_cons]
    split
    · exact ih
    · exact .cons hReturn h
  | lineFeed h ih => exact ih

/-- Both texts begin with a literal that holds no line ending, or neither does. -/
lemma after? (h : Returned other text) {lead : Text} (hLead : ∀ c ∈ lead, c ≠ '\r' ∧ c ≠ '\n') :
    Option.Rel Returned (Text.after? lead other) (Text.after? lead text) := by
  induction lead generalizing other text with
  | nil =>
    rw [after?_nil, after?_nil]
    exact .some h
  | cons a lead ih =>
    rw [List.forall_mem_cons] at hLead
    cases h with
    | nil => exact .none
    | @cons c other text hReturn h =>
      rw [Text.after?, Text.after?]
      split
      · exact ih h hLead.2
      · exact .none
    | lineFeed h =>
      rw [Text.after?, Text.after?, if_neg hLead.1.1, if_neg hLead.1.2]
      exact .none

lemma afterQuote? (h : Returned other text) :
    Option.Rel Returned (Dialect.afterQuote? other) (Dialect.afterQuote? text) := by
  cases h with
  | nil => exact .none
  | cons hReturn h =>
    rw [Dialect.afterQuote?, Dialect.afterQuote?]
    split
    · exact .some h
    · exact .none
  | lineFeed h => exact .none

lemma named? (h : Returned other text) :
    Option.Rel (fun found expected => found.1 = expected.1 ∧ Returned found.2 expected.2)
      (Dialect.named? other) (Dialect.named? text) := by
  have hSecond := h.after? (by decide : ∀ c ∈ "proto2".toList, c ≠ '\r' ∧ c ≠ '\n')
  have hThird := h.after? (by decide : ∀ c ∈ "proto3".toList, c ≠ '\r' ∧ c ≠ '\n')
  rw [Dialect.named?, Dialect.named?]
  generalize Text.after? "proto2".toList other = second, Text.after? "proto2".toList text = expected
    at hSecond
  generalize Text.after? "proto3".toList other = third, Text.after? "proto3".toList text = other
    at hThird
  cases hSecond with
  | some h => exact .some ⟨rfl, h⟩
  | none =>
    cases hThird with
    | some h => exact .some ⟨rfl, h⟩
    | none => exact .none

end Returned

end Text

/-! ## Dialects -/

/-- What is made of related answers is the same if it is so for each two of them. -/
lemma bind_eq_of_rel {α β γ : Type} {related : α → β → Prop} {found : Option α}
    {expected : Option β} {f : α → Option γ} {g : β → Option γ}
    (h : Option.Rel related found expected)
    (hEq : ∀ a b, related a b → f a = g b) : found.bind f = expected.bind g := by
  cases h with
  | some h => exact hEq _ _ h
  | none => rfl

namespace Dialect

variable {text other : Text}

lemma declared?_of_returned (h : Text.Returned other text) : declared? other = declared? text := by
  simp only [declared?, Option.bind_eq_bind]
  refine bind_eq_of_rel (h.skipBlanks.after? (by decide)) fun _ _ h => ?_
  refine bind_eq_of_rel (h.skipBlanks.after? (by decide)) fun _ _ h => ?_
  refine bind_eq_of_rel h.skipBlanks.afterQuote? fun _ _ h => ?_
  refine bind_eq_of_rel h.named? fun _ _ ⟨hDialect, h⟩ => ?_
  refine bind_eq_of_rel h.afterQuote? fun _ _ h => ?_
  exact bind_eq_of_rel (h.skipBlanks.after? (by decide)) fun _ _ _ => congrArg some hDialect

lemma detect?_of_returned (h : Text.Returned other text) : detect? other = detect? text := by
  have hLater : ∀ {text other : Text}, Text.Returned other text →
      (Text.fromLineStarts.laterStarts other).findSome? declared?
        = (Text.fromLineStarts.laterStarts text).findSome? declared? := by
    intro text other h
    induction h with
    | nil => rfl
    | @cons c other text hReturn h ih =>
      rw [Text.fromLineStarts.laterStarts, Text.fromLineStarts.laterStarts]
      split
      · rw [List.findSome?_cons, List.findSome?_cons, declared?_of_returned h, ih]
      · exact ih
    | @lineFeed other text h ih =>
      -- in both texts the next line begins behind the line feed
      have hOther : Text.fromLineStarts.laterStarts ('\r' :: '\n' :: other)
          = other :: Text.fromLineStarts.laterStarts other := rfl
      have hText : Text.fromLineStarts.laterStarts ('\n' :: text)
          = text :: Text.fromLineStarts.laterStarts text := rfl
      rw [hOther, hText, List.findSome?_cons, List.findSome?_cons, declared?_of_returned h, ih]
  rw [detect?, detect?, Text.fromLineStarts, Text.fromLineStarts, List.findSome?_cons,
    List.findSome?_cons, declared?_of_returned h, hLater h]

end Dialect

/-! ## Documents -/

variable {text other : Text}

lemma schemaLines_of_returned (h : Text.Returned other text) :
    schemaLines other = schemaLines text := by
  rw [schemaLines, schemaLines, h.lines_eq]

/-- **The line endings of a schema do not show in the document.** -/
lemma generate_of_returned (h : Text.Returned other text) (options : Options) :
    generate options other = generate options text := by
  simp only [generate, producedLines, Dialect.detect?_of_returned h, schemaLines_of_returned h,
    h.eq_nil_iff]

lemma generateWith_of_returned (h : Text.Returned other text) (given : Option Options)
    (overrides : List Setting) :
    generateWith given overrides other = generateWith given overrides text := by
  simp only [generateWith, generate_of_returned h]

end ProtoTypings
