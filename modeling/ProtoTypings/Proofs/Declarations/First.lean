import ProtoTypings.Proofs.Reading
import ProtoTypings.Schema.Dialect

/-!
# The first declaration

How the declaration of the dialect is written is said by `DialectDeclaration`: the keyword, an
equals sign, the name of the dialect between quotation marks and a semicolon, with any blanks
between them, line feeds among the blanks. In front of the keyword only blanks may stand on its
line (`OpensLine`).

The reader starts at the beginning of each line in turn and skips blanks, which may take it across
lines to a keyword that it will come to again from later beginnings. It still finds a declaration
exactly where one stands, and of several the one whose keyword comes first
(`Dialect.detect?_eq_some_iff`): of two keywords that can be reached from line beginnings, the
first is in the way of whoever starts before it.

The main statement is `Dialect.detect?_first`.
-/

namespace ProtoTypings

open Text

/-! ## Beginnings of lines -/

/-- Whether a text is where a line begins: at the start of everything, or after a line feed. -/
def EndsLine (before : Text) : Prop :=
  before = [] ∨ before.getLast? = some '\n'

/-- Whether only blanks stand on the line that a text breaks off in. -/
def OpensLine (before : Text) : Prop :=
  ∃ earlier line, before = earlier ++ line ∧ EndsLine earlier ∧ '\n' ∉ line ∧
    ∀ c ∈ line, isBlank c = true

namespace Text

lemma mem_laterStarts_iff {text rest : Text} :
    rest ∈ fromLineStarts.laterStarts text ↔ ∃ line, text = line ++ '\n' :: rest := by
  induction text with
  | nil => simp [fromLineStarts.laterStarts]
  | cons c text ih =>
    have hCons : (∃ line, c :: text = line ++ '\n' :: rest) ↔
        (c = '\n' ∧ text = rest) ∨ ∃ line, text = line ++ '\n' :: rest := by
      constructor
      · rintro ⟨line, hLine⟩
        cases line with
        | nil => exact .inl (List.cons.inj hLine)
        | cons d line => exact .inr ⟨line, (List.cons.inj hLine).2⟩
      · rintro (⟨rfl, rfl⟩ | ⟨line, rfl⟩)
        · exact ⟨[], rfl⟩
        · exact ⟨c :: line, rfl⟩
    rw [hCons, ← ih, fromLineStarts.laterStarts]
    split
    · next hFeed => simp [hFeed, eq_comm]
    · next hFeed => simp [hFeed]

lemma mem_fromLineStarts_iff {text rest : Text} :
    rest ∈ fromLineStarts text ↔ ∃ earlier, text = earlier ++ rest ∧ EndsLine earlier := by
  rw [fromLineStarts, List.mem_cons, mem_laterStarts_iff]
  constructor
  · rintro (rfl | ⟨line, rfl⟩)
    · exact ⟨[], rfl, .inl rfl⟩
    · exact ⟨line ++ ['\n'], by simp, .inr (by simp)⟩
  · rintro ⟨earlier, rfl, rfl | hFeed⟩
    · exact .inl rfl
    · obtain ⟨line, rfl⟩ := List.getLast?_eq_some_iff.1 hFeed
      exact .inr ⟨line, by simp⟩

/-- Of two beginnings of lines the later one has less text behind it. -/
lemma pairwise_fromLineStarts (text : Text) :
    (fromLineStarts text).Pairwise fun one other => other.length < one.length := by
  have hShorter : ∀ text : Text, ∀ rest ∈ fromLineStarts.laterStarts text,
      rest.length < text.length := by
    intro text rest hRest
    obtain ⟨line, rfl⟩ := mem_laterStarts_iff.1 hRest
    simp only [List.length_append, List.length_cons]
    omega
  rw [fromLineStarts, List.pairwise_cons]
  refine ⟨hShorter text, ?_⟩
  induction text with
  | nil => exact .nil
  | cons c text ih =>
    rw [fromLineStarts.laterStarts]
    split
    · exact List.pairwise_cons.2 ⟨hShorter text, ih⟩
    · exact ih

lemma notBlankAhead_cons {c : Char} (h : isBlank c = false) (rest : Text) :
    NotBlankAhead (c :: rest) := by
  intro d hd
  exact Option.some.inj hd ▸ h

end Text

/-- Blanks that begin a line leave the line open, also where they run across lines. -/
lemma EndsLine.opensLine {earlier blanks : Text} (h : EndsLine earlier)
    (hBlanks : ∀ c ∈ blanks, isBlank c = true) : OpensLine (earlier ++ blanks) := by
  induction blanks using List.reverseRecOn with
  | nil => exact ⟨earlier, [], rfl, h, by simp, by simp⟩
  | append_singleton blanks c ih =>
    rw [List.forall_mem_append, List.forall_mem_singleton] at hBlanks
    by_cases hFeed : c = '\n'
    · subst hFeed
      exact ⟨earlier ++ blanks ++ ['\n'], [], by simp, .inr (by simp), by simp, by simp⟩
    · obtain ⟨ended, line, hText, hEnded, hLine, hBlank⟩ := ih hBlanks.1
      refine ⟨ended, line ++ [c], ?_, hEnded, ?_, ?_⟩
      · rw [← List.append_assoc, hText, List.append_assoc]
      · simp [hLine, Ne.symm hFeed]
      · exact List.forall_mem_append.2 ⟨hBlank, by simpa using hBlanks.2⟩

/-- Text on the line of a keyword, such as the mark of a comment, is in the way. -/
lemma EndsLine.not_opensLine {earlier line : Text} (h : EndsLine earlier) (hLine : '\n' ∉ line)
    (hText : ∃ c ∈ line, isBlank c = false) : ¬ OpensLine (earlier ++ line) := by
  rintro ⟨ended, blanks, hBefore, hEnded, hFeed, hBlanks⟩
  obtain ⟨c, hc, hBlank⟩ := hText
  rcases List.append_eq_append_iff.1 hBefore with ⟨more, rfl, rfl⟩ | ⟨more, rfl, rfl⟩
  · -- the blanks would begin within the line
    rcases hEnded with hNil | hLast
    · obtain ⟨rfl, rfl⟩ := List.append_eq_nil_iff.1 hNil
      simp [hBlanks c hc] at hBlank
    · cases more using List.reverseRecOn with
      | nil => simp [hBlanks c (by simpa using hc)] at hBlank
      | append_singleton more d =>
        obtain rfl : d = '\n' := by simpa [← List.append_assoc] using hLast
        simp at hLine
  · simp [hBlanks c (List.mem_append_right _ hc)] at hBlank

/-! ## Declarations as they are written -/

/-- A quotation mark of either kind. -/
abbrev Quote : Type := {c : Char // c = '\x22' ∨ c = '\x27'}

/-- A declaration of the dialect as it may be written. The two quotation marks need not be of one
kind. -/
structure DialectDeclaration where
  dialect : Dialect
  isNamed : dialect = .proto2 ∨ dialect = .proto3
  /-- The blanks between the keyword and the equals sign. -/
  beforeSign : Blanks
  afterSign : Blanks
  opening : Quote
  closing : Quote
  /-- The blanks between the name and the semicolon. -/
  beforeEnd : Blanks

namespace DialectDeclaration

/-- What a declaration has behind its keyword. -/
def remainder (declaration : DialectDeclaration) : Text :=
  declaration.beforeSign.1 ++ '=' :: (declaration.afterSign.1 ++ declaration.opening.1 ::
    (declaration.dialect.name ++ declaration.closing.1 :: (declaration.beforeEnd.1 ++ [';'])))

/-- The text of a declaration, from the keyword to the semicolon. -/
def text (declaration : DialectDeclaration) : Text :=
  "syntax".toList ++ declaration.remainder

lemma text_append (declaration : DialectDeclaration) (rest : Text) :
    declaration.text ++ rest = "syntax".toList ++ (declaration.remainder ++ rest) :=
  List.append_assoc _ _ _

/-- Whether a declaration stands in a schema behind the text `before`. -/
structure StandsAfter (declaration : DialectDeclaration) (schema before : Text) : Prop where
  opensLine : OpensLine before
  isPrefix : before ++ declaration.text <+: schema

/-- Whether it is the first that stands in a schema. -/
structure IsFirst (declaration : DialectDeclaration) (schema before : Text) : Prop
    extends declaration.StandsAfter schema before where
  length_le : ∀ (other : DialectDeclaration) (earlier : Text), other.StandsAfter schema earlier →
    before.length ≤ earlier.length

end DialectDeclaration

/-! ## Reading a declaration -/

namespace Dialect

lemma isBlank_quote (quote : Quote) : isBlank quote.1 = false := by
  rcases quote.2 with h | h <;> rw [h] <;> decide

lemma afterQuote?_eq_some_iff {text rest : Text} :
    afterQuote? text = some rest ↔ ∃ quote : Quote, text = quote.1 :: rest := by
  constructor
  · intro h
    cases text with
    | nil => simp [afterQuote?] at h
    | cons c later =>
      rw [afterQuote?] at h
      split at h
      · next hQuote => exact ⟨⟨c, hQuote⟩, congrArg (c :: ·) (Option.some.inj h)⟩
      · simp at h
  · rintro ⟨quote, rfl⟩
    exact if_pos quote.2

lemma named?_eq_some_iff {dialect : Dialect} {text rest : Text} :
    named? text = some (dialect, rest) ↔
      (dialect = .proto2 ∨ dialect = .proto3) ∧ text = dialect.name ++ rest := by
  constructor
  · intro h
    rw [named?] at h
    split at h
    · next later hSecond =>
      obtain ⟨rfl, rfl⟩ := Prod.mk.inj (Option.some.inj h)
      exact ⟨.inl rfl, after?_eq_some_iff.1 hSecond⟩
    · obtain ⟨later, hThird, hFound⟩ := Option.map_eq_some_iff.1 h
      obtain ⟨rfl, rfl⟩ := Prod.mk.inj hFound
      exact ⟨.inr rfl, after?_eq_some_iff.1 hThird⟩
  · rintro ⟨rfl | rfl, rfl⟩
    · have hSecond : after? "proto2".toList (Dialect.proto2.name ++ rest) = some rest :=
        after?_append _ _
      rw [named?, hSecond]
    · have hSecond : after? "proto2".toList (Dialect.proto3.name ++ rest) = none := rfl
      have hThird : after? "proto3".toList (Dialect.proto3.name ++ rest) = some rest :=
        after?_append _ _
      rw [named?, hSecond, hThird]
      rfl

/-- The statement at the front of a text declares a dialect exactly if it is written as a
declaration, behind blanks. -/
lemma declared?_eq_some_iff {dialect : Dialect} {text : Text} :
    declared? text = some dialect ↔
      ∃ (gap : Blanks) (declaration : DialectDeclaration) (rest : Text),
        text = gap.1 ++ (declaration.text ++ rest) ∧ declaration.dialect = dialect := by
  simp only [declared?, Option.bind_eq_bind, Option.bind_eq_some_iff, after?_eq_some_iff,
    afterQuote?_eq_some_iff, skipBlanks_eq_iff]
  constructor
  · rintro ⟨_, ⟨-, gap, rfl⟩, _, ⟨-, beforeSign, rfl⟩, _, ⟨opening, -, afterSign, rfl⟩,
      ⟨found, _⟩, hFound, _, ⟨closing, rfl⟩, rest, ⟨-, beforeEnd, rfl⟩, hDialect⟩
    obtain rfl := Option.some.inj hDialect
    obtain ⟨isNamed, rfl⟩ := named?_eq_some_iff.1 hFound
    refine ⟨gap, ⟨found, isNamed, beforeSign, afterSign, opening, closing, beforeEnd⟩, rest, ?_,
      rfl⟩
    simp [DialectDeclaration.text_append, DialectDeclaration.remainder]
  · rintro ⟨gap, declaration, rest, rfl, rfl⟩
    have hKeyword : IsWord "syntax".toList := by decide
    refine ⟨declaration.remainder ++ rest, ⟨?_, gap, ?_⟩, _,
      ⟨notBlankAhead_cons (by decide) _, declaration.beforeSign, ?_⟩, _,
      ⟨declaration.opening, notBlankAhead_cons (isBlank_quote _) _, declaration.afterSign, rfl⟩,
      (declaration.dialect, _), named?_eq_some_iff.2 ⟨declaration.isNamed, rfl⟩, _,
      ⟨declaration.closing, rfl⟩, rest,
      ⟨notBlankAhead_cons (by decide) _, declaration.beforeEnd, rfl⟩, rfl⟩
    · exact hKeyword.notBlankAhead _
    · rw [DialectDeclaration.text_append]
    · simp [DialectDeclaration.remainder]

lemma declared?_text (declaration : DialectDeclaration) (rest : Text) :
    declared? (declaration.text ++ rest) = some declaration.dialect :=
  declared?_eq_some_iff.2 ⟨⟨[], by simp⟩, declaration, rest, rfl, rfl⟩

end Dialect

/-! ## The declaration that comes first -/

/-- Blanks in front of a text end before the first character that is none. -/
lemma isPrefix_of_blanks {blanks front later rest : Text} {c : Char}
    (hBlanks : ∀ c ∈ blanks, isBlank c = true) (hc : isBlank c = false)
    (h : front ++ c :: later = blanks ++ rest) : blanks <+: front := by
  rcases List.append_eq_append_iff.1 h with ⟨more, hMore, hRest⟩ | ⟨more, rfl, -⟩
  · cases more with
    | nil => simp [hMore]
    | cons d more =>
      obtain ⟨rfl, -⟩ := List.cons.inj hRest
      simp [hBlanks c (by simp [hMore])] at hc
  · exact List.prefix_append _ _

namespace DialectDeclaration

variable {declaration other : DialectDeclaration} {schema before earlier : Text}

lemma exists_text_eq (declaration : DialectDeclaration) :
    ∃ later, declaration.text = 's' :: later ∧ 's' ∉ later := by
  have hBlanks : ∀ gap : Blanks, 's' ∉ gap.1 := by
    intro gap hMem
    exact absurd (gap.2 _ hMem) (by decide)
  have hQuote : ∀ quote : Quote, 's' ≠ quote.1 := by
    rintro ⟨c, rfl | rfl⟩ <;> decide
  have hName : 's' ∉ declaration.dialect.name := by
    rcases declaration.isNamed with h | h <;> rw [h] <;> decide
  exact ⟨"yntax".toList ++ declaration.remainder, rfl, by simp [remainder, hBlanks, hQuote, hName]⟩

/-- A declaration that stands in a schema is declared from the beginning of its line. -/
lemma StandsAfter.exists_start (h : declaration.StandsAfter schema before) :
    ∃ start ∈ fromLineStarts schema, Dialect.declared? start = some declaration.dialect ∧
      schema.length ≤ before.length + start.length := by
  obtain ⟨⟨earlier, line, rfl, hEnds, -, hBlank⟩, rest, rfl⟩ := h
  refine ⟨line ++ (declaration.text ++ rest), mem_fromLineStarts_iff.2 ⟨earlier, by simp, hEnds⟩,
    Dialect.declared?_eq_some_iff.2 ⟨⟨line, hBlank⟩, declaration, rest, rfl, rfl⟩, ?_⟩
  simp only [List.length_append]
  omega

lemma StandsAfter.take_drop (h : declaration.StandsAfter schema before) :
    schema.take before.length = before ∧ "syntax".toList <+: schema.drop before.length := by
  obtain ⟨rest, rfl⟩ := h.isPrefix
  rw [List.append_assoc, List.take_left, List.drop_left, text_append]
  exact ⟨rfl, List.prefix_append _ _⟩

/-- There is only one declaration that comes first. -/
lemma IsFirst.dialect_eq (h : declaration.IsFirst schema before)
    (hOther : other.IsFirst schema earlier) : declaration.dialect = other.dialect := by
  have hLength : before.length = earlier.length :=
    le_antisymm (h.length_le _ _ hOther.toStandsAfter) (hOther.length_le _ _ h.toStandsAfter)
  obtain ⟨rest, hRest⟩ := h.isPrefix
  obtain ⟨later, hLater⟩ := hOther.isPrefix
  rw [List.append_assoc] at hRest hLater
  have hTexts := (List.append_inj (hRest.trans hLater.symm) hLength).2
  have hDeclared := Dialect.declared?_text declaration rest
  rw [hTexts, Dialect.declared?_text] at hDeclared
  exact (Option.some.inj hDeclared).symm

/-- What follows the first declaration makes no other one first. -/
lemma IsFirst.followedBy (h : declaration.IsFirst schema before) (rest : Text) :
    declaration.IsFirst (before ++ declaration.text ++ rest) before := by
  refine ⟨⟨h.opensLine, List.prefix_append _ _⟩, fun other earlier hOther => ?_⟩
  by_contra hLength
  suffices hPrefix : earlier ++ other.text <+: before ++ declaration.text from
    hLength (h.length_le other earlier ⟨hOther.opensLine, hPrefix.trans h.isPrefix⟩)
  rcases List.prefix_or_prefix_of_prefix hOther.isPrefix (List.prefix_append _ rest) with
    hShort | hLong
  · exact hShort
  · -- the other one would go on to the end of this one, and so hold a second keyword
    obtain ⟨more, rfl⟩ : earlier <+: before :=
      List.prefix_of_prefix_length_le ((List.prefix_append _ _).trans hOther.isPrefix)
        ((List.prefix_append _ _).trans (List.prefix_append _ rest)) (Nat.le_of_not_le hLength)
    rw [List.append_assoc, List.prefix_append_right_inj] at hLong
    obtain ⟨later, hLater, hNone⟩ := other.exists_text_eq
    obtain ⟨_, hText, -⟩ := declaration.exists_text_eq
    cases more with
    | nil => simp at hLength
    | cons c more =>
      rw [hLater, hText, List.cons_append, List.cons_prefix_cons] at hLong
      exact absurd (hLong.2.subset (by simp)) hNone

end DialectDeclaration

namespace Dialect

variable {schema : Text} {dialect : Dialect}

/-- The search from the beginnings of lines comes upon the first declaration. -/
lemma exists_isFirst_of_detect? (h : detect? schema = some dialect) :
    ∃ (declaration : DialectDeclaration) (before : Text),
      declaration.IsFirst schema before ∧ declaration.dialect = dialect := by
  rw [detect?, findSome?_eq_some_iff_of_shorter (pairwise_fromLineStarts schema)] at h
  obtain ⟨found, hFound, hDeclared, hNone⟩ := h
  obtain ⟨earlier, hSchema, hEnds⟩ := mem_fromLineStarts_iff.1 hFound
  obtain ⟨gap, declaration, rest, rfl, rfl⟩ := declared?_eq_some_iff.1 hDeclared
  have hStands : declaration.StandsAfter schema (earlier ++ gap.1) :=
    ⟨hEnds.opensLine gap.2, rest, by simp [hSchema]⟩
  refine ⟨declaration, earlier ++ gap.1, ⟨hStands, fun other sooner hOther => ?_⟩, rfl⟩
  obtain ⟨start, hStart, hOtherDeclared, hLength⟩ := hOther.exists_start
  -- the other declaration is declared from no earlier line
  have hLater : start.length ≤ (gap.1 ++ (declaration.text ++ rest)).length := by
    by_contra hLonger
    simp [hNone start hStart (Nat.not_le.1 hLonger)] at hOtherDeclared
  have hEarlier : earlier.length ≤ sooner.length := by
    rw [hSchema, List.length_append] at hLength
    omega
  -- and it does not begin among the blanks
  obtain ⟨later, hPrefix⟩ := hOther.isPrefix
  obtain ⟨keyword, hKeyword, -⟩ := other.exists_text_eq
  obtain ⟨more, rfl⟩ : earlier <+: sooner := by
    refine List.prefix_of_prefix_length_le (hSchema ▸ List.prefix_append _ _) ?_ hEarlier
    exact (List.prefix_append _ _).trans hOther.isPrefix
  rw [hSchema, hKeyword] at hPrefix
  simp only [List.append_assoc, List.append_cancel_left_eq, List.cons_append] at hPrefix
  have hBlanks := (isPrefix_of_blanks gap.2 (by decide) hPrefix).length_le
  simpa using hBlanks

lemma detect?_eq_none_iff :
    detect? schema = none ↔
      ∀ (declaration : DialectDeclaration) (before : Text),
        ¬ declaration.StandsAfter schema before := by
  constructor
  · intro h declaration before hStands
    obtain ⟨start, hStart, hDeclared, -⟩ := hStands.exists_start
    rw [detect?, List.findSome?_eq_none_iff] at h
    simp [h start hStart] at hDeclared
  · intro h
    by_contra hSome
    obtain ⟨dialect, hDialect⟩ := Option.ne_none_iff_exists'.1 hSome
    obtain ⟨declaration, before, hFirst, -⟩ := exists_isFirst_of_detect? hDialect
    exact h declaration before hFirst.toStandsAfter

lemma detect?_of_isFirst {declaration : DialectDeclaration} {before : Text}
    (h : declaration.IsFirst schema before) : detect? schema = some declaration.dialect := by
  have hSome : detect? schema ≠ none := fun hNone =>
    detect?_eq_none_iff.1 hNone declaration before h.toStandsAfter
  obtain ⟨dialect, hDialect⟩ := Option.ne_none_iff_exists'.1 hSome
  obtain ⟨found, earlier, hFirst, rfl⟩ := exists_isFirst_of_detect? hDialect
  rw [hDialect, h.dialect_eq hFirst]

/-- **The first declaration counts.**  A schema declares the dialect of the first declaration that
stands in it with nothing but blanks before it on its line, and no dialect if there is none. Text in
front of the keyword on its line takes the declaration out, and what follows the first declaration
makes no difference. -/
theorem detect?_first (schema : Text) :
    (∀ dialect, detect? schema = some dialect ↔
      ∃ (declaration : DialectDeclaration) (before : Text),
        declaration.IsFirst schema before ∧ declaration.dialect = dialect) ∧
    (detect? schema = none ↔
      ∀ (declaration : DialectDeclaration) (before : Text),
        ¬ declaration.StandsAfter schema before) ∧
    (∀ (declaration : DialectDeclaration) (earlier line : Text), EndsLine earlier →
      '\n' ∉ line → (∃ c ∈ line, isBlank c = false) →
      ¬ declaration.StandsAfter schema (earlier ++ line)) ∧
    ∀ (declaration : DialectDeclaration) (before : Text), declaration.IsFirst schema before →
      ∀ rest, detect? (before ++ declaration.text ++ rest) = some declaration.dialect := by
  refine ⟨fun dialect => ⟨exists_isFirst_of_detect?, ?_⟩, detect?_eq_none_iff, ?_, ?_⟩
  · rintro ⟨declaration, before, hFirst, rfl⟩
    exact detect?_of_isFirst hFirst
  · intro declaration earlier line hEnds hLine hText hStands
    exact hEnds.not_opensLine hLine hText hStands.opensLine
  · intro declaration before hFirst rest
    exact detect?_of_isFirst (hFirst.followedBy rest)

/-- The keyword of a comment does not count; the next one does, whose declaration runs on to another
line. -/
theorem detect?_first_behind_comment :
    let before : Text := "// syntax = 'proto2';\n \t".toList
    let declaration : DialectDeclaration :=
      { dialect := .proto3
        isNamed := .inr rfl
        beforeSign := ⟨['\n'], by decide⟩
        afterSign := ⟨[], by decide⟩
        opening := ⟨'\x22', .inl rfl⟩
        closing := ⟨'\x27', .inr rfl⟩
        beforeEnd := ⟨[' '], by decide⟩ }
    let schema : Text := before ++ "syntax\n=\x22proto3' ; syntax = 'proto2';".toList
    (∀ other : DialectDeclaration, ¬ other.StandsAfter schema "// ".toList) ∧
      declaration.IsFirst schema before ∧ detect? schema = some .proto3 ∧
      ∀ rest, detect? (before ++ declaration.text ++ rest) = some .proto3 := by
  intro before declaration schema
  obtain ⟨hSome, -, hComment, hFollowed⟩ := detect?_first schema
  have hOut : ∀ other : DialectDeclaration, ¬ other.StandsAfter schema "// ".toList := fun other =>
    hComment other [] "// ".toList (.inl rfl) (by decide) ⟨'/', by decide, by decide⟩
  have hLine : EndsLine "// syntax = 'proto2';\n".toList := .inr (by decide)
  have hKeywords : ∀ n < before.length, "syntax".toList <+: schema.drop n →
      schema.take n = "// ".toList := by
    decide
  have hFirst : declaration.IsFirst schema before := by
    have hIndentation : ∀ c ∈ [' ', '\t'], isBlank c = true := by decide
    refine ⟨⟨hLine.opensLine hIndentation, ?_⟩, fun other earlier h => ?_⟩
    · exact List.prefix_iff_eq_take.2 (by decide)
    · by_contra hLength
      obtain ⟨hTake, hDrop⟩ := h.take_drop
      have hEarlier : earlier = "// ".toList :=
        hTake.symm.trans (hKeywords _ (Nat.lt_of_not_le hLength) hDrop)
      exact hOut other (hEarlier ▸ h)
  exact ⟨hOut, hFirst, (hSome _).2 ⟨declaration, before, hFirst, rfl⟩,
    hFollowed declaration before hFirst⟩

end Dialect

end ProtoTypings
