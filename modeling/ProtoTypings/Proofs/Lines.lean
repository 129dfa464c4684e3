import Mathlib
import ProtoTypings.Schema.Line
import ProtoTypings.Schema.Scalar

/-!
# The lines of a text

Facts about how a text falls into lines and a line into words: a text has one line more than it has
line feeds and no line holds one, texts that are joined by line feeds are the lines again, and a
line without words is blank.
-/

namespace ProtoTypings

/-- A search through lists that get shorter finds the answer of the longest one that has any. -/
lemma findSome?_eq_some_iff_of_shorter {α β : Type} {lists : List (List α)}
    (hShorter : lists.Pairwise fun one other => other.length < one.length)
    {read : List α → Option β} {answer : β} :
    lists.findSome? read = some answer ↔
      ∃ found ∈ lists, read found = some answer ∧ ∀ other ∈ lists, found.length < other.length →
        read other = none := by
  rw [List.findSome?_eq_some_iff]
  constructor
  · rintro ⟨front, found, rest, rfl, hRead, hFront⟩
    refine ⟨found, by simp, hRead, fun other hOther hLonger => ?_⟩
    rcases List.mem_append.1 hOther with hOther | hOther
    · exact hFront other hOther
    · -- from the found one on no list is longer
      refine absurd hLonger ?_
      rcases List.mem_cons.1 hOther with rfl | hRest
      · exact lt_irrefl _
      · exact Nat.lt_asymm (List.rel_of_pairwise_cons (List.pairwise_append.1 hShorter).2.1 hRest)
  · rintro ⟨found, hFound, hRead, hNone⟩
    obtain ⟨front, rest, rfl⟩ := List.append_of_mem hFound
    refine ⟨front, found, rest, rfl, hRead, fun other hOther => ?_⟩
    exact hNone other (by simp [hOther])
      ((List.pairwise_append.1 hShorter).2.2 other hOther found List.mem_cons_self)

namespace Text

/-! ## Parts of a text -/

lemma leftmost?_isSome_iff {α : Type} {read : Text → Option α} {text : Text} :
    (leftmost? read text).isSome = true ↔ ∃ rest, rest <:+ text ∧ (read rest).isSome = true := by
  induction text with
  | nil => simp [leftmost?, List.suffix_nil]
  | cons c rest ih =>
    rw [leftmost?]
    cases h : read (c :: rest) with
    | some answer => simpa using ⟨c :: rest, List.suffix_rfl, by simp [h]⟩
    | none =>
      simp only [ih, List.suffix_cons_iff]
      constructor
      · rintro ⟨later, hLater, hRead⟩
        exact ⟨later, .inr hLater, hRead⟩
      · rintro ⟨later, rfl | hLater, hRead⟩
        · simp [h] at hRead
        · exact ⟨later, hLater, hRead⟩

lemma holds_iff {part text : Text} : holds part text = true ↔ part <:+: text := by
  rw [holds, leftmost?_isSome_iff]
  constructor
  · rintro ⟨rest, ⟨before, rfl⟩, h⟩
    obtain ⟨after, h⟩ := Option.isSome_iff_exists.1 h
    obtain rfl := after?_eq_some_iff.1 h
    exact ⟨before, after, by simp⟩
  · rintro ⟨before, after, rfl⟩
    exact ⟨part ++ after, ⟨before, by simp⟩, by simp⟩

lemma trimEnd_isPrefix (drops : Char → Bool) (text : Text) : trimEnd drops text <+: text := by
  have hReverse := List.reverse_prefix.2 (List.dropWhile_suffix (l := text.reverse) drops)
  rwa [List.reverse_reverse] at hReverse

lemma trimEnd_subset (drops : Char → Bool) (text : Text) : trimEnd drops text ⊆ text :=
  (trimEnd_isPrefix drops text).subset

/-- A text whose last character is kept has nothing to lose at its end. -/
lemma trimEnd_eq_self {drops : Char → Bool} {text : Text}
    (h : ∀ c ∈ text.getLast?, drops c = false) : trimEnd drops text = text := by
  rw [trimEnd, List.reverse_eq_iff]
  cases hReverse : text.reverse with
  | nil => rfl
  | cons c rest =>
    have hc : drops c = false := h c (by simp [← List.head?_reverse, hReverse])
    simp [hc]

/-- What stands up to a character that is kept is kept. -/
lemma trimEnd_append_cons {drops : Char → Bool} {c : Char} (hc : drops c = false)
    (front rest : Text) :
    trimEnd drops (front ++ c :: rest) = front ++ c :: trimEnd drops rest := by
  rw [trimEnd, trimEnd, List.reverse_append, List.reverse_cons, List.append_assoc,
    List.dropWhile_append]
  split
  · next hEmpty =>
    rw [List.isEmpty_iff.1 hEmpty]
    simp [hc]
  · simp

/-- Where a mark stands in a text that begins without it, it stands in what comes behind. -/
lemma exists_of_append_eq_mark {mark : Char} {front rest before after : Text}
    (hFront : mark ∉ front) (h : front ++ rest = before ++ mark :: after) :
    ∃ between, before = front ++ between ∧ rest = between ++ mark :: after := by
  obtain ⟨between, hBefore, hRest⟩ | ⟨behind, rfl, hRest⟩ := List.append_eq_append_iff.1 h
  · exact ⟨between, hBefore, hRest⟩
  · cases behind with
    | nil => exact ⟨[], by simp, hRest.symm⟩
    | cons c behind =>
      obtain ⟨rfl, -⟩ := List.cons.inj hRest
      exact absurd (by simp) hFront

/-! ## Pieces between line feeds -/

lemma not_mem_of_mem_splitOn {text piece : Text} {mark : Char} (h : piece ∈ text.splitOn mark) :
    mark ∉ piece := by
  induction text generalizing piece with
  | nil =>
    obtain rfl : piece = [] := by simpa using h
    simp
  | cons c rest ih =>
    rw [List.splitOn_cons_eq_if_modifyHead] at h
    split at h
    · rcases List.mem_cons.1 h with rfl | h
      · simp
      · exact ih h
    · next hc =>
      obtain ⟨first, later, hPieces⟩ := List.exists_cons_of_ne_nil (List.splitOn_ne_nil mark rest)
      rw [hPieces] at h ih
      rcases List.mem_cons.1 h with rfl | h
      · have hFirst : mark ∉ first := ih List.mem_cons_self
        simp only [List.mem_cons, not_or]
        exact ⟨fun hMark => hc (by simp [hMark]), hFirst⟩
      · exact ih (by simp [h])

lemma length_splitOn (text : Text) (mark : Char) :
    (text.splitOn mark).length = text.count mark + 1 := by
  induction text with
  | nil => simp
  | cons c rest ih =>
    rw [List.splitOn_cons_eq_if_modifyHead]
    split
    · next hc =>
      obtain rfl : c = mark := by simpa using hc
      simp [ih]
    · next hc =>
      rw [List.length_modifyHead, ih, List.count_cons_of_ne (by simpa using hc)]

lemma newline_not_mem_of_mem_lines {text line : Text} (h : line ∈ text.lines) : '\n' ∉ line := by
  obtain ⟨piece, hPiece, rfl⟩ := List.mem_map.1 h
  exact fun hc => not_mem_of_mem_splitOn hPiece (trimEnd_subset _ _ hc)

@[simp]
lemma length_lines (text : Text) : text.lines.length = text.count '\n' + 1 := by
  rw [lines, List.length_map, length_splitOn]

/-- Texts without line feeds, joined by line feeds, are the lines of what they are joined to, but
for the carriage returns at their ends. -/
lemma lines_joinWith {rows : List Text} (hRows : ∀ row ∈ rows, '\n' ∉ row) (hne : rows ≠ []) :
    lines (joinWith ['\n'] rows) = rows.map (trimEnd (· = '\r')) := by
  rw [lines, joinWith, List.splitOn_intercalate '\n' hRows hne]

/-! ## Blanks -/

/-- A kept character belongs to some run. -/
lemma runs_ne_nil {keep : Char → Bool} {cuts : Char → Char → Text → Bool} {c : Char}
    (hc : keep c = true) (rest : Text) : runs keep cuts (c :: rest) ≠ [] := by
  rw [runs, if_pos hc]
  split
  · cases runs keep cuts rest <;> simp [consFirst]
  · simp

lemma words_eq_nil_iff {text : Text} : words text = [] ↔ ∀ c ∈ text, isBlank c = true := by
  induction text with
  | nil => simp
  | cons c rest ih =>
    cases hc : isBlank c with
    | true => simp [words_blank hc, ih, hc]
    | false =>
      have hne : words (c :: rest) ≠ [] := runs_ne_nil (by simp [hc]) rest
      simp [hne, hc]

lemma words_append_blanks {blanks : Text} (h : ∀ c ∈ blanks, isBlank c = true) (text : Text) :
    words (text ++ blanks) = words text := by
  induction text with
  | nil => exact words_eq_nil_iff.2 h
  | cons c text ih =>
    have hRunsOn : runsOn (fun c => !isBlank c) (fun _ _ _ => false) c (text ++ blanks)
        = runsOn (fun c => !isBlank c) (fun _ _ _ => false) c text := by
      cases text with
      | nil =>
        cases blanks with
        | nil => rfl
        | cons d blanks => simp [runsOn, h d List.mem_cons_self]
      | cons d text => rfl
    simp only [words] at ih ⊢
    rw [List.cons_append, runs, runs, hRunsOn, ih]

/-- Carriage returns at the end of a line are no part of its words. -/
lemma words_trimEnd (line : Text) : words (trimEnd (· = '\r') line) = words line := by
  have hSplit : line = trimEnd (· = '\r') line ++ (line.reverse.takeWhile (· = '\r')).reverse := by
    rw [trimEnd, ← List.reverse_append, List.takeWhile_append_dropWhile, List.reverse_reverse]
  have hReturns : ∀ c ∈ (line.reverse.takeWhile (· = '\r')).reverse, isBlank c = true := by
    intro c hc
    have hReturn : c = '\r' := by simpa using List.mem_takeWhile_imp (List.mem_reverse.1 hc)
    exact hReturn ▸ by decide
  conv_rhs => rw [hSplit]
  exact (words_append_blanks hReturns _).symm

/-! ## The first word -/

lemma words_blanks {blanks : Text} (h : ∀ c ∈ blanks, isBlank c = true) (rest : Text) :
    words (blanks ++ rest) = words rest := by
  induction blanks with
  | nil => rfl
  | cons c blanks ih =>
    rw [List.cons_append, words_blank (h c List.mem_cons_self)]
    exact ih fun d hd => h d (List.mem_cons_of_mem _ hd)

/-- The characters directly after a word, up to the next blank. -/
def attached (rest : Text) : Text :=
  rest.takeWhile fun c => !isBlank c

/-- The words after the next blank. -/
def following (rest : Text) : List Text :=
  words (rest.dropWhile fun c => !isBlank c)

/-- A word goes on to the next blank. -/
lemma words_append_attached {word : Text} (h : IsWord word) (rest : Text) :
    words (word ++ rest) = (word ++ attached rest) :: following rest := by
  have hWord : IsWord (word ++ attached rest) := by
    refine ⟨by simp [h.1], fun c hc => ?_⟩
    rcases List.mem_append.1 hc with hc | hc
    · exact h.2 c hc
    · simpa using List.mem_takeWhile_imp hc
  have hBlank : ∀ c ∈ (rest.dropWhile fun c => !isBlank c).head?, isBlank c = true := by
    intro c hc
    have hDropped := List.head?_dropWhile_not (fun c => !isBlank c) rest
    rw [hc] at hDropped
    simpa using hDropped
  rw [following, ← words_append hWord hBlank, attached, List.append_assoc,
    List.takeWhile_append_dropWhile]

lemma following_eq_words {rest : Text} (h : attached rest = []) : following rest = words rest := by
  have hAll := List.takeWhile_append_dropWhile (p := fun c => !isBlank c) (l := rest)
  rw [show List.takeWhile _ rest = [] from h, List.nil_append] at hAll
  rw [following, hAll]

end Text

/-- A text of blanks. -/
abbrev Blanks : Type := {text : Text // ∀ c ∈ text, Text.isBlank c = true}

/-- A text of at least one blank. -/
abbrev SomeBlanks : Type := {text : Text // text ≠ [] ∧ ∀ c ∈ text, Text.isBlank c = true}

/-- Blanks end a word. -/
lemma words_gap {word : Text} (hWord : Text.IsWord word) {gap : Blanks} (hGap : gap.1 ≠ [])
    (rest : Text) : Text.words (word ++ (gap.1 ++ rest)) = word :: Text.words rest := by
  rw [Text.words_append hWord, Text.words_blanks gap.2]
  intro c hc
  obtain ⟨d, later, hd⟩ := List.exists_cons_of_ne_nil hGap
  rw [hd] at hc
  obtain rfl := Option.some.inj hc
  exact gap.2 _ (hd ▸ List.mem_cons_self)

/-- A line without types begins with the word `option`, or with a word that begins with `syntax`. -/
lemma words_of_declaresNothing {line : Text} (h : declaresNothing line = true) :
    ∃ first later, line.words = first :: later ∧
      ("syntax".toList <+: first ∨ first = "option".toList) := by
  have hSkip : line.words = (Text.skipBlanks line).words := by
    conv_lhs => rw [← List.takeWhile_append_dropWhile (p := Text.isBlank) (l := line)]
    exact Text.words_blanks (fun c hc => List.mem_takeWhile_imp hc) _
  rw [declaresNothing, Bool.or_eq_true, Option.any_eq_true, Option.any_eq_true] at h
  rcases h with ⟨rest, hRest, -⟩ | ⟨rest, hRest, hEnd⟩
  · rw [hSkip, Text.after?_eq_some_iff.1 hRest, Text.words_append_attached (by decide)]
    exact ⟨_, _, rfl, .inl (List.prefix_append _ _)⟩
  · rw [hSkip, Text.after?_eq_some_iff.1 hRest]
    refine ⟨_, _, Text.words_append (by decide) ?_, .inr rfl⟩
    intro c hc
    rw [hc] at hEnd
    simpa using hEnd

/-- The marks of assignments and declarations. -/
def assignmentMarks : Text := ['=', ';', '\x22', '\x27']

/-- A word that has such a mark in it announces nothing, is no label and names no scalar type. -/
lemma no_keyword_of_mem_mark {mark : Char} (hMark : mark ∈ assignmentMarks) {word : Text}
    (h : mark ∈ word) :
    Keyword.ofWord? word = none ∧ Label.ofWord? word = none ∧ Scalar.ofName? word = none := by
  have hKeywords : ∀ announced : Keyword, ∀ word ∈ announced.words,
      ∀ mark ∈ assignmentMarks, mark ∉ word := by
    rintro (_ | _ | ⟨_ | _⟩ | _ | _) <;> decide
  have hLabels : ∀ label : Label, ∀ mark ∈ assignmentMarks, mark ∉ label.word := by
    rintro (_ | _ | _) <;> decide
  have hScalars : ∀ scalar : Scalar, ∀ mark ∈ assignmentMarks, mark ∉ scalar.name := by
    intro scalar
    cases scalar <;> decide
  refine ⟨?_, ?_, ?_⟩
  · refine Option.eq_none_iff_forall_ne_some.2 fun announced hKeyword => ?_
    exact hKeywords announced word (Keyword.ofWord?_eq_some_iff.1 hKeyword) mark hMark h
  · refine Option.eq_none_iff_forall_ne_some.2 fun label hLabel => ?_
    exact hLabels label mark hMark (Label.ofWord?_eq_some_iff.1 hLabel ▸ h)
  · refine Option.eq_none_iff_forall_ne_some.2 fun scalar hScalar => ?_
    exact hScalars scalar mark hMark (Scalar.ofName?_eq_some_iff.1 hScalar ▸ h)

lemma newline_not_mem_of_mem_schemaLines {schema line : Text} (h : some line ∈ schemaLines schema) :
    '\n' ∉ line := by
  obtain ⟨text, hText, h⟩ := List.mem_map.1 h
  rw [declaring?] at h
  split at h
  · simp at h
  · obtain rfl := Option.some.inj h
    exact Text.newline_not_mem_of_mem_lines hText

@[simp]
lemma length_schemaLines (schema : Text) : (schemaLines schema).length = schema.count '\n' + 1 := by
  rw [schemaLines, List.length_map, Text.length_lines]

end ProtoTypings
