import ProtoTypings.Proofs.Lines

/-!
# Readers

What the readers that statements are read with find at the front of a text, said by how the text
falls into parts: a literal, blanks, a run of accepted characters. Each is read as far as it goes
and no further. A reader that looks through a text for its leftmost answer gives the one at the
first place that has any (`Text.leftmost?_eq_some_iff`).
-/

namespace ProtoTypings

namespace Text

/-! ## Literals -/

/-- A literal at the front of `word ++ rest`, none of whose characters begins `rest`, is a prefix of
the word. -/
lemma prefix_of_after?_append {lead word rest later : Text}
    (h : after? lead (word ++ rest) = some later) (hRest : ∀ c ∈ rest.head?, c ∉ lead) :
    ∃ more, word = lead ++ more ∧ later = more ++ rest := by
  rcases List.append_eq_append_iff.1 (after?_eq_some_iff.1 h) with
    ⟨more, hLead, hMore⟩ | ⟨more, hWord, hLater⟩
  · cases more with
    | nil => exact ⟨[], by simpa using hLead.symm, by simpa using hMore.symm⟩
    | cons c more =>
      -- the literal would reach beyond the word
      refine absurd ?_ (hRest c (by simp [hMore]))
      simp [hLead]
  · exact ⟨more, hWord, hLater⟩

/-! ## Blanks -/

/-- Whether no blank stands at the front of a text. -/
def NotBlankAhead (text : Text) : Prop :=
  ∀ c ∈ text.head?, isBlank c = false

lemma notBlankAhead_skipBlanks (text : Text) : NotBlankAhead (skipBlanks text) := by
  intro c hc
  have hHead := List.head?_dropWhile_not isBlank text
  rw [show List.dropWhile isBlank text = skipBlanks text from rfl, hc] at hHead
  exact hHead

lemma IsWord.notBlankAhead {word : Text} (h : IsWord word) (rest : Text) :
    NotBlankAhead (word ++ rest) := by
  obtain ⟨d, later, rfl⟩ := List.exists_cons_of_ne_nil h.1
  intro c hc
  exact Option.some.inj hc ▸ h.2 d List.mem_cons_self

lemma skipBlanks_eq_self {text : Text} (h : NotBlankAhead text) : skipBlanks text = text := by
  cases text with
  | nil => rfl
  | cons c rest => exact List.dropWhile_cons_of_neg (by simp [h c rfl])

lemma skipBlanks_append {word : Text} (h : IsWord word) (rest : Text) :
    skipBlanks (word ++ rest) = word ++ rest :=
  skipBlanks_eq_self (h.notBlankAhead rest)

lemma skipBlanks_blanks {blanks : Text} (h : ∀ c ∈ blanks, isBlank c = true) (rest : Text) :
    skipBlanks (blanks ++ rest) = skipBlanks rest := by
  induction blanks with
  | nil => rfl
  | cons c blanks ih =>
    have hc : isBlank c = true := h c List.mem_cons_self
    rw [skipBlanks, List.cons_append, List.dropWhile_cons_of_pos hc]
    exact ih fun d hd => h d (List.mem_cons_of_mem _ hd)

lemma skipBlanks_gap (gap : Blanks) {rest : Text} (h : NotBlankAhead rest) :
    skipBlanks (gap.1 ++ rest) = rest := by
  rw [skipBlanks_blanks gap.2, skipBlanks_eq_self h]

lemma skipSomeBlanks?_gap (gap : SomeBlanks) {rest : Text} (h : NotBlankAhead rest) :
    skipSomeBlanks? (gap.1 ++ rest) = some rest := by
  obtain ⟨_ | ⟨c, gap⟩, hNil, hGap⟩ := gap
  · exact absurd rfl hNil
  · rw [List.forall_mem_cons] at hGap
    exact (if_pos hGap.1).trans (congrArg some (skipBlanks_gap ⟨gap, hGap.2⟩ h))

/-- All the blanks in front are skipped, and no more. -/
lemma skipBlanks_eq_iff {text rest : Text} :
    skipBlanks text = rest ↔ NotBlankAhead rest ∧ ∃ gap : Blanks, text = gap.1 ++ rest := by
  constructor
  · rintro rfl
    refine ⟨notBlankAhead_skipBlanks text, ⟨text.takeWhile isBlank, fun c hc => ?_⟩, ?_⟩
    · exact List.mem_takeWhile_imp hc
    · exact List.takeWhile_append_dropWhile.symm
  · rintro ⟨hAhead, gap, rfl⟩
    exact skipBlanks_gap gap hAhead

lemma skipSomeBlanks?_eq_some_iff {text rest : Text} :
    skipSomeBlanks? text = some rest ↔
      NotBlankAhead rest ∧ ∃ gap : SomeBlanks, text = gap.1 ++ rest := by
  constructor
  · intro h
    cases text with
    | nil => simp [skipSomeBlanks?] at h
    | cons c later =>
      rw [skipSomeBlanks?] at h
      split at h
      · next hc =>
        obtain ⟨hAhead, gap, rfl⟩ := skipBlanks_eq_iff.1 (Option.some.inj h)
        exact ⟨hAhead, ⟨c :: gap.1, List.cons_ne_nil _ _, List.forall_mem_cons.2 ⟨hc, gap.2⟩⟩, rfl⟩
      · simp at h
  · rintro ⟨hAhead, gap, rfl⟩
    exact skipSomeBlanks?_gap gap hAhead

/-! ## Runs -/

/-- A run ends where a character follows that is not accepted. -/
lemma span?_append {accepts : Char → Bool} {run rest : Text} (hne : run ≠ [])
    (hRun : ∀ c ∈ run, accepts c = true) (hRest : ∀ c ∈ rest.head?, accepts c = false) :
    (run ++ rest).span? accepts = some (run, rest) := by
  have hTake : rest.takeWhile accepts = [] ∧ rest.dropWhile accepts = rest := by
    cases rest with
    | nil => exact ⟨rfl, rfl⟩
    | cons c rest => simp [hRest c (by simp)]
  rw [span?, List.takeWhile_append_of_pos hRun, List.dropWhile_append_of_pos hRun, hTake.1, hTake.2,
    List.append_nil]
  obtain ⟨c, run, rfl⟩ := List.exists_cons_of_ne_nil hne
  rfl

/-- A run is read up to the first character that it cannot hold. -/
lemma span?_eq_some_iff {accepts : Char → Bool} {text run rest : Text} :
    text.span? accepts = some (run, rest) ↔
      run ≠ [] ∧ (∀ c ∈ run, accepts c = true) ∧ (∀ c ∈ rest.head?, accepts c = false) ∧
        text = run ++ rest := by
  constructor
  · intro h
    rw [span?] at h
    split at h
    · simp at h
    · next hNil =>
      obtain ⟨rfl, rfl⟩ := Prod.mk.inj (Option.some.inj h)
      refine ⟨hNil, fun c hc => List.mem_takeWhile_imp hc, fun c hc => ?_,
        List.takeWhile_append_dropWhile.symm⟩
      have hHead := List.head?_dropWhile_not accepts text
      rw [hc] at hHead
      exact hHead
  · rintro ⟨hNil, hRun, hRest, rfl⟩
    exact span?_append hNil hRun hRest

/-! ## The leftmost answer -/

lemma leftmost?_of_read {α : Type} {read : Text → Option α} {text : Text} {answer : α}
    (h : read text = some answer) : leftmost? read text = some answer := by
  cases text with
  | nil => exact h
  | cons c rest => simp [leftmost?, h]

/-- A reader passes over characters at which it has no answer. -/
lemma leftmost?_append {α : Type} {read : Text → Option α} {before : Text}
    (h : ∀ c ∈ before, ∀ rest, read (c :: rest) = none) (rest : Text) :
    leftmost? read (before ++ rest) = leftmost? read rest := by
  induction before with
  | nil => rfl
  | cons c before ih =>
    rw [List.cons_append, leftmost?, h c List.mem_cons_self]
    exact ih fun d hd => h d (List.mem_cons_of_mem _ hd)

lemma leftmost?_eq_some_iff {α : Type} {read : Text → Option α} {text : Text} {answer : α} :
    leftmost? read text = some answer ↔
      ∃ before rest, text = before ++ rest ∧ read rest = some answer ∧
        ∀ earlier later, text = earlier ++ later → earlier.length < before.length →
          read later = none := by
  induction text with
  | nil =>
    rw [leftmost?]
    constructor
    · intro h
      exact ⟨[], [], rfl, h, fun _ _ _ hLength => absurd hLength (Nat.not_lt_zero _)⟩
    · rintro ⟨before, rest, hText, hRead, -⟩
      obtain ⟨-, rfl⟩ := List.append_eq_nil_iff.1 hText.symm
      exact hRead
  | cons c text ih =>
    rw [leftmost?]
    cases hFirst : read (c :: text) with
    | some first =>
      constructor
      · intro h
        exact ⟨[], c :: text, rfl, hFirst.trans h,
          fun _ _ _ hLength => absurd hLength (Nat.not_lt_zero _)⟩
      · rintro ⟨before, rest, hText, hRead, hNone⟩
        cases before with
        | nil =>
          obtain rfl : rest = c :: text := hText.symm
          exact hFirst.symm.trans hRead
        | cons d before => simp [hNone [] (c :: text) rfl (Nat.succ_pos _)] at hFirst
    | none =>
      rw [ih]
      constructor
      · rintro ⟨before, rest, rfl, hRead, hNone⟩
        refine ⟨c :: before, rest, rfl, hRead, fun earlier later hText hLength => ?_⟩
        cases earlier with
        | nil =>
          obtain rfl : later = c :: (before ++ rest) := hText.symm
          exact hFirst
        | cons d earlier =>
          exact hNone earlier later (List.cons.inj hText).2 (Nat.lt_of_succ_lt_succ hLength)
      · rintro ⟨before, rest, hText, hRead, hNone⟩
        cases before with
        | nil =>
          obtain rfl : rest = c :: text := hText.symm
          simp [hFirst] at hRead
        | cons d before =>
          refine ⟨before, rest, (List.cons.inj hText).2, hRead, ?_⟩
          intro earlier later hLater hLength
          exact hNone (c :: earlier) later (by rw [hLater]; rfl) (Nat.succ_lt_succ hLength)

end Text

end ProtoTypings
