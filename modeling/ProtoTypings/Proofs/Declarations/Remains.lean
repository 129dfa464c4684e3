import ProtoTypings.Proofs.Declarations.First
import ProtoTypings.Proofs.Rendering

/-!
# What is left of a declaration

The declaration of the dialect is looked for in the whole text and may run over several lines, while
lines are taken out one by one, by how they begin. So the line of the keyword is taken out, and no
other: the later lines of a declaration are blank or begin with its equals sign, a quotation mark
or its semicolon, and those that are not blank are taken for members of a block. A declaration
leaves nothing behind exactly if it stands on one line.

Lines are numbered by the line feeds before them (`EndsLine.getElem?_lines`). The main statement is
`schemaLines_of_detect?`.
-/

namespace ProtoTypings

open Text

/-! ## Lines by their numbers -/

namespace Text

lemma lines_append_lineFeed (front rest : Text) :
    lines (front ++ '\n' :: rest) = lines front ++ lines rest := by
  rw [lines, List.splitOn_append_cons_self, List.map_append]
  rfl

/-- What a text has in front of any line feed stands on its first line. -/
lemma exists_head?_lines {front : Text} (hFront : '\n' ∉ front) (rest : Text) :
    ∃ more, more <+: rest ∧
      (lines (front ++ rest)).head? = some (trimEnd (· = '\r') (front ++ more)) := by
  by_cases hFeed : '\n' ∈ rest
  · obtain ⟨more, later, rfl, hMore⟩ := List.eq_append_cons_of_mem hFeed
    have hLine : '\n' ∉ front ++ more := by simp [hFront, hMore]
    refine ⟨more, List.prefix_append _ _, ?_⟩
    rw [← List.append_assoc, lines_append_lineFeed, lines, List.splitOn_eq_singleton hLine]
    rfl
  · have hLine : '\n' ∉ front ++ rest := by simp [hFront, hFeed]
    refine ⟨rest, List.prefix_rfl, ?_⟩
    rw [lines, List.splitOn_eq_singleton hLine]
    rfl

/-- Any of the line feeds of a text has as many before it as its number says. -/
lemma exists_of_lt_count {text : Text} {n : ℕ} (h : n < text.count '\n') :
    ∃ before after, text = before ++ '\n' :: after ∧ before.count '\n' = n := by
  induction text generalizing n with
  | nil => simp at h
  | cons c text ih =>
    by_cases hFeed : c = '\n'
    · subst hFeed
      cases n with
      | zero => exact ⟨[], text, rfl, rfl⟩
      | succ n =>
        obtain ⟨before, after, rfl, rfl⟩ := ih (n := n) (by simpa using h)
        exact ⟨'\n' :: before, after, rfl, by simp⟩
    · rw [List.count_cons_of_ne hFeed] at h
      obtain ⟨before, after, rfl, rfl⟩ := ih h
      exact ⟨c :: before, after, rfl, by simp [hFeed]⟩

end Text

/-- A line has as many line feeds in front of it as its number says. -/
lemma EndsLine.getElem?_lines {earlier : Text} (h : EndsLine earlier) (rest : Text) :
    (lines (earlier ++ rest))[earlier.count '\n']? = (lines rest).head? := by
  rcases h with rfl | hFeed
  · simp [List.head?_eq_getElem?]
  · obtain ⟨front, rfl⟩ := List.getLast?_eq_some_iff.1 hFeed
    have hNumber : (front ++ ['\n']).count '\n' = (lines front).length := by simp
    rw [hNumber, List.append_assoc, List.singleton_append, lines_append_lineFeed,
      List.getElem?_append_right le_rfl, Nat.sub_self, List.head?_eq_getElem?]

/-! ## The line of the keyword -/

lemma Ranges.covers_eq_false {one other : Ranges} {c : Char}
    (hApart : ∀ a ∈ one, ∀ b ∈ other, a.2 < b.1 ∨ b.2 < a.1) (h : one.covers c = true) :
    other.covers c = false := by
  obtain ⟨a, ha, hc⟩ := List.any_eq_true.1 h
  refine List.any_eq_false.2 fun b hb hOther => ?_
  simp only [Bool.and_eq_true, decide_eq_true_eq] at hc hOther
  have := hApart a ha b hb
  omega

/-- A blank ends a word. -/
lemma isWordChar_of_isBlank {c : Char} (h : isBlank c = true) : isWordChar c = false :=
  Ranges.covers_eq_false (by decide +kernel) h

/-- A line that begins with the keyword of the dialect, behind blanks, declares nothing. -/
lemma declaresNothing_of_keyword {blanks rest : Text} (hBlanks : ∀ c ∈ blanks, isBlank c = true)
    (hEnd : ∀ c ∈ rest.head?, isWordChar c = false) :
    declaresNothing (blanks ++ ("syntax".toList ++ rest)) = true := by
  rw [declaresNothing, skipBlanks_blanks hBlanks, skipBlanks_append (by decide), after?_append]
  simp only [Option.any_some, Option.all_eq_true, Bool.not_eq_true', Bool.or_eq_true]
  exact .inl hEnd

namespace DialectDeclaration

variable {declaration : DialectDeclaration} {schema before : Text}

/-- Behind the keyword no word goes on. -/
lemma exists_remainder_eq (declaration : DialectDeclaration) :
    ∃ c rest, declaration.remainder = c :: rest ∧ isWordChar c = false := by
  rw [remainder]
  obtain ⟨gap, hGap⟩ := declaration.beforeSign
  cases gap with
  | nil => exact ⟨'=', _, rfl, by decide +kernel⟩
  | cons c gap => exact ⟨c, _, rfl, isWordChar_of_isBlank (hGap c List.mem_cons_self)⟩

/-- The line of the keyword is taken out. -/
lemma StandsAfter.keyword_removed (h : declaration.StandsAfter schema before) :
    (schemaLines schema)[before.count '\n']? = some none := by
  obtain ⟨⟨earlier, line, rfl, hEnds, hFeed, hBlank⟩, rest, rfl⟩ := h
  have hNumber : (earlier ++ line).count '\n' = earlier.count '\n' := by
    simp [List.count_eq_zero.2 hFeed]
  have hSchema : earlier ++ line ++ declaration.text ++ rest
      = earlier ++ (line ++ "syntax".toList ++ (declaration.remainder ++ rest)) := by
    simp only [List.append_assoc, text_append]
  have hKeyword : '\n' ∉ line ++ "syntax".toList := by
    rw [List.mem_append, not_or]
    exact ⟨hFeed, by decide⟩
  obtain ⟨more, hMore, hLine⟩ := exists_head?_lines hKeyword (declaration.remainder ++ rest)
  have hTrim : trimEnd (· = '\r') (line ++ "syntax".toList ++ more)
      = line ++ ("syntax".toList ++ trimEnd (· = '\r') more) := by
    have hLetter : (fun c : Char => decide (c = '\r')) 'x' = false := by decide
    simpa using trimEnd_append_cons hLetter (line ++ "synta".toList) more
  have hEnd : ∀ c ∈ (trimEnd (· = '\r') more).head?, isWordChar c = false := by
    obtain ⟨d, later, hRemainder, hd⟩ := declaration.exists_remainder_eq
    intro c hc
    obtain ⟨behind, hBehind⟩ := List.head?_eq_some_iff.1 hc
    have hPrefix := (trimEnd_isPrefix (· = '\r') more).trans hMore
    rw [hBehind, hRemainder, List.cons_append, List.cons_prefix_cons] at hPrefix
    exact hPrefix.1 ▸ hd
  rw [schemaLines, List.getElem?_map, hNumber, hSchema, hEnds.getElem?_lines, hLine, hTrim,
    Option.map_some, declaring?, if_pos (declaresNothing_of_keyword hBlank hEnd)]

end DialectDeclaration

/-! ## The later lines -/

/-- Whether a line is taken for a field of a message or for a value of an enum. -/
def IsTakenForMember (line : Text) : Prop :=
  (∃ name, Statement.ofLine (some line) = .enumValue name) ∨
    ∃ field, Statement.ofLine (some line) = .field field

/-- Such a line leaves a line in the document, in every session. -/
lemma IsTakenForMember.exists_output {line : Text} (h : IsTakenForMember line) (session : Session) :
    ∃ output, session.renderLine (some line) = (some output, session) := by
  rcases h with ⟨name, hValue⟩ | ⟨field, hField⟩
  · exact ⟨name ++ ",".toList, Session.renderLine_of_ofLine hValue rfl⟩
  · exact ⟨field.render session.dialect, Session.renderLine_of_ofLine hField rfl⟩

lemma declaring?_of_words_eq_nil {line : Text} (h : line.words = []) :
    declaring? line = some line := by
  rw [declaring?, if_neg]
  intro hNothing
  obtain ⟨first, later, hWords, -⟩ := words_of_declaresNothing hNothing
  simp [hWords] at h

/-- A line that begins with one of the marks is kept, and read as a member. -/
lemma isTakenForMember_of_mark {line word : Text} {later : List Text} {mark : Char}
    (hMark : mark ∈ assignmentMarks) (h : line.words = (mark :: word) :: later) :
    declaring? line = some line ∧ IsTakenForMember line := by
  constructor
  · rw [declaring?, if_neg]
    intro hNothing
    obtain ⟨first, others, hWords, hFirst⟩ := words_of_declaresNothing hNothing
    obtain ⟨rfl, -⟩ := List.cons.inj (h.symm.trans hWords)
    have hLetters : mark ≠ 's' ∧ mark ≠ 'o' :=
      (by decide : ∀ c ∈ assignmentMarks, c ≠ 's' ∧ c ≠ 'o') mark hMark
    rcases hFirst with ⟨more, hSyntax⟩ | hOption
    · exact hLetters.1 (List.cons.inj hSyntax).1.symm
    · exact hLetters.2 (List.cons.inj hOption).1
  · obtain ⟨hKeyword, hLabel, -⟩ := no_keyword_of_mem_mark hMark (List.mem_cons_self (l := word))
    rw [IsTakenForMember, Statement.ofLine, h, Statement.ofWords_member hKeyword, hLabel]
    cases later with
    | nil => exact .inr ⟨_, rfl⟩
    | cons second later =>
      dsimp only [Statement.member]
      split
      · exact .inl ⟨_, rfl⟩
      · exact .inr ⟨_, rfl⟩

/-- The first line of a text that begins with one of the marks, behind blanks, is kept. It is blank
if a line feed stands among the blanks, else it is taken for a member. -/
lemma exists_first_line_of_mark (gap : Blanks) {mark : Char} (hMark : mark ∈ assignmentMarks)
    (rest : Text) :
    ∃ line, (lines (gap.1 ++ mark :: rest)).head? = some line ∧ declaring? line = some line ∧
      ((∀ c ∈ line, isBlank c = true) ∨ IsTakenForMember line) ∧
      ('\n' ∉ gap.1 → IsTakenForMember line) := by
  obtain ⟨gap, hGap⟩ := gap
  by_cases hFeed : '\n' ∈ gap
  · obtain ⟨front, behind, rfl, hFront⟩ := List.eq_append_cons_of_mem hFeed
    have hBlank : ∀ c ∈ trimEnd (· = '\r') front, isBlank c = true := fun c hc =>
      hGap c (List.mem_append_left _ (trimEnd_subset _ _ hc))
    refine ⟨trimEnd (· = '\r') front, ?_, declaring?_of_words_eq_nil (words_eq_nil_iff.2 hBlank),
      .inl hBlank, fun h => absurd hFeed h⟩
    rw [List.append_assoc, List.cons_append, lines_append_lineFeed, lines,
      List.splitOn_eq_singleton hFront]
    rfl
  · have hMarks : isBlank mark = false ∧ mark ≠ '\n' :=
      (by decide : ∀ c ∈ assignmentMarks, isBlank c = false ∧ c ≠ '\n') mark hMark
    have hFront : '\n' ∉ gap ++ [mark] := by simp [hFeed, Ne.symm hMarks.2]
    obtain ⟨more, -, hLine⟩ := exists_head?_lines hFront rest
    have hWords : words (trimEnd (· = '\r') (gap ++ [mark] ++ more))
        = (mark :: attached more) :: following more := by
      rw [words_trimEnd, List.append_assoc, words_blanks hGap,
        words_append_attached ⟨by simp, by simpa using hMarks.1⟩]
      rfl
    obtain ⟨hKept, hMember⟩ := isTakenForMember_of_mark hMark hWords
    rw [List.append_assoc, List.singleton_append] at hLine
    exact ⟨_, hLine, hKept, .inr hMember, fun _ => hMember⟩

/-- A line feed behind blanks leaves blanks behind it. -/
lemma exists_blanks_of_append_eq (gap : Blanks) {rest front later : Text}
    (h : gap.1 ++ rest = front ++ '\n' :: later) :
    (∃ inner : Blanks, later = inner.1 ++ rest) ∨ ∃ between, rest = between ++ '\n' :: later := by
  rcases List.append_eq_append_iff.1 h with ⟨between, -, hRest⟩ | ⟨behind, hGap, hRest⟩
  · exact .inr ⟨between, hRest⟩
  · cases behind with
    | nil => exact .inr ⟨[], hRest.symm⟩
    | cons c behind =>
      obtain ⟨rfl, rfl⟩ := List.cons.inj hRest
      exact .inl ⟨⟨behind, fun d hd => gap.2 d (by simp [hGap, hd])⟩, rfl⟩

namespace DialectDeclaration

variable {declaration : DialectDeclaration} {schema before : Text}

/-- A line feed in a declaration stands before one of its marks. -/
lemma exists_mark_of_text_eq {front later : Text}
    (h : declaration.text = front ++ '\n' :: later) :
    ∃ (gap : Blanks) (mark : Char) (more : Text), mark ∈ assignmentMarks ∧
      later = gap.1 ++ mark :: more := by
  have hQuote : ∀ quote : Quote, quote.1 ∈ assignmentMarks ∧ quote.1 ≠ '\n' := by
    rintro ⟨c, rfl | rfl⟩ <;> decide
  have hLetters : '\n' ∉ declaration.dialect.name := by
    rcases declaration.isNamed with h | h <;> rw [h] <;> decide
  have hQuoted : '\n' ∉ declaration.opening.1 :: (declaration.dialect.name
      ++ [declaration.closing.1]) := by
    simp [hLetters, Ne.symm (hQuote declaration.opening).2, Ne.symm (hQuote declaration.closing).2]
  -- no line feed stands in a word, so the blanks that hold it are followed by a mark
  obtain ⟨_, -, hRemainder⟩ := exists_of_append_eq_mark (by decide : '\n' ∉ "syntax".toList) h
  obtain ⟨gap, rfl⟩ | ⟨_, hSign⟩ := exists_blanks_of_append_eq declaration.beforeSign hRemainder
  · exact ⟨gap, '=', _, by decide, rfl⟩
  obtain ⟨_, -, hBehindSign⟩ := exists_of_append_eq_mark (by decide : '\n' ∉ ['=']) hSign
  obtain ⟨gap, rfl⟩ | ⟨_, hName⟩ := exists_blanks_of_append_eq declaration.afterSign hBehindSign
  · exact ⟨gap, _, _, (hQuote declaration.opening).1, rfl⟩
  rw [← List.cons_append, List.append_cons] at hName
  obtain ⟨_, -, hBehindName⟩ := exists_of_append_eq_mark hQuoted hName
  obtain ⟨gap, rfl⟩ | ⟨_, hEnd⟩ := exists_blanks_of_append_eq declaration.beforeEnd hBehindName
  · exact ⟨gap, ';', _, by decide, rfl⟩
  · have hMem : '\n' ∈ [';'] := by rw [hEnd]; simp
    simp at hMem

/-- A later line of a declaration is kept; it is blank or taken for a member, and the last one is
taken for a member. -/
lemma StandsAfter.exists_line (h : declaration.StandsAfter schema before) {n : ℕ}
    (hn : n < declaration.text.count '\n') :
    ∃ line, schema.lines[before.count '\n' + (n + 1)]? = some line ∧
      declaring? line = some line ∧
      ((∀ c ∈ line, isBlank c = true) ∨ IsTakenForMember line) ∧
      (n + 1 = declaration.text.count '\n' → IsTakenForMember line) := by
  obtain ⟨rest, rfl⟩ := h.isPrefix
  obtain ⟨front, later, hText, rfl⟩ := exists_of_lt_count hn
  obtain ⟨gap, mark, more, hMark, rfl⟩ := exists_mark_of_text_eq hText
  have hEnds : EndsLine (before ++ front ++ ['\n']) := .inr (by simp)
  have hNumber : before.count '\n' + (front.count '\n' + 1)
      = (before ++ front ++ ['\n']).count '\n' := by
    simp
  have hSchema : before ++ declaration.text ++ rest
      = (before ++ front ++ ['\n']) ++ (gap.1 ++ mark :: (more ++ rest)) := by
    simp [hText]
  obtain ⟨line, hLine, hKept, hTaken, hMember⟩ := exists_first_line_of_mark gap hMark (more ++ rest)
  refine ⟨line, ?_, hKept, hTaken, fun hLast => hMember ?_⟩
  · rw [hNumber, hSchema, hEnds.getElem?_lines, hLine]
  · -- all the line feeds are in front
    rw [hText, List.count_append, List.count_cons_self, List.count_append] at hLast
    exact List.count_eq_zero.1 (by omega)

end DialectDeclaration

/-- **Of a declaration only the line of the keyword is taken out.**  Where the declaration that sets
the dialect goes on to further lines, these are kept. Each of them is blank or taken for a member of
a block, which leaves a line in the document whatever the options and the dialect, and the one with
the semicolon is not blank. So the lines of a declaration are all taken out exactly if there is only
one. -/
theorem schemaLines_of_detect? {schema : Text} {dialect : Dialect}
    (h : Dialect.detect? schema = some dialect) :
    (∃ (declaration : DialectDeclaration) (before : Text),
      declaration.IsFirst schema before ∧ declaration.dialect = dialect) ∧
    (∀ (declaration : DialectDeclaration) (before : Text), declaration.IsFirst schema before →
      let first := before.count '\n'
      let last := first + declaration.text.count '\n'
      (schemaLines schema)[first]? = some none ∧
      (∀ n, first < n → n ≤ last → ∃ line, schema.lines[n]? = some line ∧
        (schemaLines schema)[n]? = some (some line) ∧
        ((∀ c ∈ line, isBlank c = true) ∨ IsTakenForMember line) ∧
        (n = last → IsTakenForMember line)) ∧
      ((∀ n, first ≤ n → n ≤ last → (schemaLines schema)[n]? = some none) ↔
        '\n' ∉ declaration.text)) ∧
    ∀ line, IsTakenForMember line → ∀ session : Session, ∃ output,
      session.renderLine (some line) = (some output, session) := by
  refine ⟨Dialect.exists_isFirst_of_detect? h, fun declaration before hFirst => ?_,
    fun line hLine session => hLine.exists_output session⟩
  intro first last
  have hRemoved : (schemaLines schema)[first]? = some none := hFirst.keyword_removed
  have hLater : ∀ n, first < n → n ≤ last → ∃ line, schema.lines[n]? = some line ∧
      (schemaLines schema)[n]? = some (some line) ∧
      ((∀ c ∈ line, isBlank c = true) ∨ IsTakenForMember line) ∧
      (n = last → IsTakenForMember line) := by
    intro n hLow hHigh
    obtain ⟨k, rfl⟩ := Nat.exists_eq_add_of_lt hLow
    obtain ⟨line, hLine, hKept, hTaken, hMember⟩ := hFirst.exists_line (n := k) (by omega)
    refine ⟨line, hLine, ?_, hTaken, fun hLast => hMember (by omega)⟩
    rw [schemaLines, List.getElem?_map, add_assoc, hLine, Option.map_some, hKept]
  refine ⟨hRemoved, hLater, fun hAll hFeed => ?_, fun hFeed n hLow hHigh => ?_⟩
  · have hPositive : 0 < declaration.text.count '\n' := List.count_pos_iff.2 hFeed
    obtain ⟨line, -, hLine, -⟩ := hLater _ (Nat.lt_add_of_pos_right hPositive) le_rfl
    rw [hAll _ (Nat.le_add_right _ _) le_rfl] at hLine
    simp at hLine
  · have hLast : last = first := by simp [last, List.count_eq_zero.2 hFeed]
    obtain rfl : n = first := le_antisymm (hLast ▸ hHigh) hLow
    exact hRemoved

/-- Behind the line of its keyword a declaration leaves a field in the document. -/
theorem schemaLines_of_detect?_on_two_lines :
    let declaration : DialectDeclaration :=
      { dialect := .proto2
        isNamed := .inl rfl
        beforeSign := ⟨['\n'], by decide⟩
        afterSign := ⟨[' '], by decide⟩
        opening := ⟨'\x22', .inl rfl⟩
        closing := ⟨'\x22', .inl rfl⟩
        beforeEnd := ⟨[], by decide⟩ }
    let schema : Text := "syntax\n= \x22proto2\x22;\nmessage A \x7b\n\x7d".toList
    Dialect.detect? schema = some .proto2 ∧ declaration.IsFirst schema [] ∧
      schema.lines[1]? = some "= \x22proto2\x22;".toList ∧
      IsTakenForMember "= \x22proto2\x22;".toList ∧
      generate {} schema = .ok "proto2: =\nexport interface A \x7b\n\x7d".toList := by
  intro declaration schema
  have hDetected : Dialect.detect? schema = some .proto2 := by decide
  have hFirst : declaration.IsFirst schema [] :=
    ⟨⟨⟨[], [], rfl, .inl rfl, by decide, by decide⟩, List.prefix_iff_eq_take.2 (by decide)⟩,
      fun _ _ _ => Nat.zero_le _⟩
  have hSecond : schema.lines[1]? = some "= \x22proto2\x22;".toList := by decide
  obtain ⟨-, hLines, -⟩ := schemaLines_of_detect? hDetected
  obtain ⟨-, hLater, -⟩ := hLines declaration [] hFirst
  obtain ⟨line, hLine, -, -, hMember⟩ := hLater 1 (by decide) (by decide)
  obtain rfl : "= \x22proto2\x22;".toList = line := Option.some.inj (hSecond.symm.trans hLine)
  exact ⟨hDetected, hFirst, hSecond, hMember (by decide), by decide +kernel⟩

end ProtoTypings
