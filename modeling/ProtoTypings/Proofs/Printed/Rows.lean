import ProtoTypings.Proofs.Printed.Method

/-!
# Reading printed lines

Each line of a printed schema is read as what was printed on it (`Row.statement`). A line without a
word is nothing; the lines of the other kinds are told by how they begin. `IsLead` collects what the
beginning of such a line is not: the keyword of a line that declares nothing.
-/

namespace ProtoTypings

open Text

/-! ## How lines begin -/

/-- Whether a word may begin a line that is not taken out. -/
structure IsLead (lead : Text) : Prop where
  isWord : IsWord lead
  ne_option : lead ≠ "option".toList
  /-- After the letters of `syntax` the word goes on. -/
  goesOn : ∀ more, lead = "syntax".toList ++ more → ∃ c ∈ more.head?, Name.IsPart c

lemma isLead_of_isPart {lead : Text} (hne : lead ≠ []) (h : ∀ c ∈ lead, Name.IsPart c)
    (hVersion : lead ≠ "syntax".toList) (hOption : lead ≠ "option".toList) : IsLead lead := by
  refine ⟨⟨hne, fun c hc => (h c hc).isBlank_eq⟩, hOption, ?_⟩
  rintro more rfl
  cases more with
  | nil => exact absurd (List.append_nil _) hVersion
  | cons c more => exact ⟨c, rfl, h c (by simp)⟩

lemma isLead_mark {mark : Char} (hBlank : isBlank mark = false) (hLetter : mark ≠ 's' ∧ mark ≠ 'o')
    (later : Text) (hLater : ∀ c ∈ later, isBlank c = false) : IsLead (mark :: later) := by
  refine ⟨⟨List.cons_ne_nil _ _, ?_⟩, ?_, ?_⟩
  · rintro c (_ | ⟨_, hc⟩)
    · exact hBlank
    · exact hLater c hc
  · intro h
    exact hLetter.2 (List.cons.inj h).1
  · intro more h
    exact absurd (List.cons.inj h).1 hLetter.1

section Lead

variable {blanks lead rest : Text}

/-- A keyword is found at the front of such a line only as a part of a longer word. -/
lemma prefix_of_keyword {keyword later : Text} (hRest : ∀ c ∈ rest.head?, ¬ Name.IsPart c)
    (hKeyword : ∀ c ∈ keyword, Name.IsPart c)
    (h : after? keyword (lead ++ rest) = some later) :
    ∃ more, lead = keyword ++ more ∧ later = more ++ rest :=
  prefix_of_after?_append h fun c hc hMem => hRest c hc (hKeyword c hMem)

variable (hBlanks : ∀ c ∈ blanks, isBlank c = true) (hLead : IsLead lead)
  (hRest : ∀ c ∈ rest.head?, ¬ Name.IsPart c)

include hBlanks hLead hRest

lemma IsLead.declaring?_eq :
    declaring? (blanks ++ (lead ++ rest)) = some (blanks ++ (lead ++ rest)) := by
  rw [declaring?, if_neg]
  rw [declaresNothing, skipBlanks_blanks hBlanks, skipBlanks_append hLead.isWord, Bool.or_eq_true,
    Option.any_eq_true, Option.any_eq_true]
  rintro (⟨later, hLater, hEnd⟩ | ⟨later, hLater, hEnd⟩)
  · -- the letters of `syntax` are followed by another letter
    obtain ⟨more, hMore, rfl⟩ := prefix_of_keyword hRest (by decide) hLater
    obtain ⟨c, hc, hPart⟩ := hLead.goesOn more hMore
    obtain ⟨later, rfl⟩ := List.head?_eq_some_iff.1 hc
    simp [hPart.isWordChar_eq] at hEnd
  · -- those of `option` are followed by no blank
    obtain ⟨more, hMore, rfl⟩ := prefix_of_keyword hRest (by decide) hLater
    cases more with
    | nil => exact hLead.ne_option (by simpa using hMore)
    | cons c more =>
      have hBlank : isBlank c = false := hLead.isWord.2 c (by simp [hMore])
      simp [hBlank] at hEnd

/-- Such a line does not declare the dialect, whatever follows it. -/
lemma IsLead.declared?_eq : Dialect.declared? (blanks ++ (lead ++ rest)) = none := by
  rw [Dialect.declared?, skipBlanks_blanks hBlanks, skipBlanks_append hLead.isWord,
    Option.bind_eq_bind]
  cases hLater : after? "syntax".toList (lead ++ rest) with
  | none => rfl
  | some later =>
    obtain ⟨more, hMore, rfl⟩ := prefix_of_keyword hRest (by decide) hLater
    obtain ⟨c, hc, hPart⟩ := hLead.goesOn more hMore
    obtain ⟨later, rfl⟩ := List.head?_eq_some_iff.1 hc
    have hEquals : '=' ≠ c := (hPart.isNameChar.ne (by decide) (by decide)).symm
    simp [skipBlanks, hPart.isBlank_eq, after?, hEquals]

end Lead

/-! ## The beginnings of lines -/

lemma Indentation.isBlank (indentation : Indentation) :
    ∀ c ∈ indentation.1, Text.isBlank c = true :=
  fun c hc => (indentation.2 c hc).1

lemma isLead_comment : IsLead "//".toList :=
  isLead_mark (by decide) (by decide) ['/'] (by decide)

/-- The mark of a comment ends where its note begins. -/
lemma Note.not_isPart_head (note : Note) : ∀ c ∈ note.1.head?, ¬ Name.IsPart c := by
  intro c hc hPart
  exact absurd hPart.isBlank_eq (by simp [note.2.1 c hc])

/-- Whether the author's choice of names does not make a construct begin with a reserved word. -/
def Construct.IsClear (construct : Construct) : Prop :=
  ∀ name ∈ construct.chosenStart?, name.text ∉ reservedWords

lemma Identifier.isLead {name : Identifier} (h : name.text ∉ reservedWords) : IsLead name.text := by
  refine isLead_of_isPart name.text_ne_nil (fun _ => Identifier.isPart_of_mem) ?_ ?_
  · rintro hVersion
    exact h (hVersion ▸ by decide)
  · rintro hOption
    exact h (hOption ▸ by decide)

lemma isLead_of_mem {word : Text}
    (h : word ∈ ["package".toList, "rpc".toList, "message".toList, "service".toList, "enum".toList,
      "required".toList, "optional".toList, "repeated".toList]) : IsLead word := by
  have hParts : ∀ word ∈ ["package".toList, "rpc".toList, "message".toList, "service".toList,
      "enum".toList, "required".toList, "optional".toList, "repeated".toList],
      word ≠ [] ∧ (∀ c ∈ word, Name.IsPart c) ∧ word ≠ "syntax".toList ∧
        word ≠ "option".toList := by
    decide
  obtain ⟨hne, hPart, hVersion, hOption⟩ := hParts word h
  exact isLead_of_isPart hne hPart hVersion hOption

lemma not_isPart_head {c d : Char} {later : Text} (hd : ¬ Name.IsPart d)
    (h : c ∈ (d :: later).head?) : ¬ Name.IsPart c :=
  Option.some.inj h ▸ hd

/-- Every construct but a version begins in a way that keeps its line in. -/
lemma Construct.exists_lead {construct : Construct} (hVersion : ∀ given, construct ≠ .version given)
    (hClear : construct.IsClear) :
    ∃ lead rest, construct.text = lead ++ rest ∧ IsLead lead ∧
      ∀ c ∈ rest.head?, ¬ Name.IsPart c := by
  have hBlank : ¬ Name.IsPart ' ' := by decide
  cases construct with
  | version given => exact absurd rfl (hVersion given)
  | package name =>
    refine ⟨"package".toList, ' ' :: (name.text ++ [';']), ?_, isLead_of_mem (by decide),
      fun c => not_isPart_head hBlank⟩
    unfold Construct.text
    simp only [List.append_assoc]
    rfl
  | opener kind name =>
    refine ⟨kind.keyword, ' ' :: (name.text ++ [' ', '{']), ?_, ?_, fun c => not_isPart_head hBlank⟩
    · unfold Construct.text
      simp only [List.append_assoc]
      rfl
    · cases kind <;> exact isLead_of_mem (by decide)
  | field declared =>
    obtain ⟨label, ⟨first, later⟩, name, number⟩ := declared
    cases label with
    | some label =>
      refine ⟨label.word, ' ' :: (DottedName.text ⟨first, later⟩ ++ ([' '] ++ (name.text
        ++ (" = ".toList ++ (numeral number ++ [';']))))), ?_, ?_, fun c => not_isPart_head hBlank⟩
      · unfold Construct.text
        simp only [Option.elim_some, List.append_assoc]
        rfl
      · cases label <;> exact isLead_of_mem (by decide)
    | none =>
      refine ⟨first.text, (later.flatMap fun part => '.' :: part.text) ++ ([' '] ++ (name.text
        ++ (" = ".toList ++ (numeral number ++ [';'])))), ?_,
        Identifier.isLead (hClear first rfl), ?_⟩
      · unfold Construct.text
        simp only [Option.elim_none, DottedName.text, List.append_assoc, List.nil_append]
      · cases later with
        | nil => exact fun c => not_isPart_head hBlank
        | cons part later => exact fun c => not_isPart_head (by decide : ¬ Name.IsPart '.')
  | value declared =>
    refine ⟨declared.name.text, " = ".toList ++ (numeral declared.number ++ [';']), ?_,
      Identifier.isLead (hClear declared.name rfl), fun c => not_isPart_head hBlank⟩
    unfold Construct.text
    simp only [List.append_assoc]
  | method declared =>
    refine ⟨"rpc".toList, ' ' :: (declared.name.text ++ (declared.request.text
      ++ (" returns ".toList ++ (declared.response.text ++ [';'])))), ?_, isLead_of_mem (by decide),
      fun c => not_isPart_head hBlank⟩
    unfold Construct.text
    simp only [List.append_assoc]
    rfl
  | closer =>
    refine ⟨['}'], [], rfl, isLead_mark (by decide) (by decide) [] (by simp), by simp⟩

/-! ## The characters of a line -/

lemma IsNameChar.ne_lineEnd {c : Char} (h : IsNameChar c) : c ≠ '\n' ∧ c ≠ '\r' := by
  refine ⟨?_, h.ne (by decide) (by decide)⟩
  rintro rfl
  exact absurd h.1 (by decide)

lemma Construct.text_ne_nil (construct : Construct) : construct.text ≠ [] := by
  unfold Construct.text
  cases construct with
  | version given => cases given <;> decide
  | closer => decide
  | _ => exact List.append_ne_nil_of_right_ne_nil _ (List.cons_ne_nil _ _)

/-- No construct is printed with a line feed or a carriage return in it. -/
lemma Construct.ne_lineEnd {construct : Construct} :
    ∀ c ∈ construct.text, c ≠ '\n' ∧ c ≠ '\r' := by
  have hName : ∀ name : Identifier, ∀ c ∈ name.text, c ≠ '\n' ∧ c ≠ '\r' :=
    fun name c hc => (Identifier.isPart_of_mem hc).isNameChar.ne_lineEnd
  have hDotted : ∀ name : DottedName, ∀ c ∈ name.text, c ≠ '\n' ∧ c ≠ '\r' :=
    fun name c hc => (DottedName.isNameChar_of_mem hc).ne_lineEnd
  have hNumeral : ∀ number : ℤ, ∀ c ∈ numeral number, c ≠ '\n' ∧ c ≠ '\r' :=
    fun number c hc => (isNameChar_of_mem_numeral hc).ne_lineEnd
  have hPayload : ∀ payload : PayloadDeclaration, ∀ c ∈ payload.text, c ≠ '\n' ∧ c ≠ '\r' := by
    intro payload
    unfold PayloadDeclaration.text
    simp only [List.forall_mem_append]
    refine ⟨⟨⟨by decide, ?_⟩, hDotted _⟩, by decide⟩
    split <;> decide
  unfold Construct.text
  cases construct with
  | version given =>
    cases given <;> decide
  | package name =>
    simp only [List.forall_mem_append]
    exact ⟨⟨by decide, hDotted name⟩, by decide⟩
  | opener kind name =>
    simp only [List.forall_mem_append]
    refine ⟨⟨⟨?_, by decide⟩, hName name⟩, by decide⟩
    cases kind <;> decide
  | field declared =>
    simp only [List.forall_mem_append]
    refine ⟨⟨⟨⟨⟨⟨?_, hDotted _⟩, by decide⟩, hName _⟩, by decide⟩, hNumeral _⟩, by decide⟩
    rcases declared.label with _ | ⟨_ | _ | _⟩ <;> decide
  | value declared =>
    simp only [List.forall_mem_append]
    exact ⟨⟨⟨hName _, by decide⟩, hNumeral _⟩, by decide⟩
  | method declared =>
    simp only [List.forall_mem_append]
    exact ⟨⟨⟨⟨⟨by decide, hName _⟩, hPayload _⟩, by decide⟩, hPayload _⟩, by decide⟩
  | closer =>
    decide

namespace Row

lemma newline_not_mem (row : Row) : '\n' ∉ row.text := by
  intro h
  cases row with
  | construct indentation held =>
    rcases List.mem_append.1 h with h | h
    · exact (indentation.2 _ h).2 rfl
    · exact (Construct.ne_lineEnd _ h).1 rfl
  | empty blanks => exact (blanks.2 _ h).2 rfl
  | comment indentation note =>
    rcases List.mem_append.1 h with h | h
    · rcases List.mem_append.1 h with h | h
      · exact (indentation.2 _ h).2 rfl
      · exact absurd h (by decide)
    · exact (note.2.2 _ h).1 rfl

/-- The text of a line as it is cut from a schema: without carriage returns at its end. -/
def cut (row : Row) : Text :=
  trimEnd (· = '\r') row.text

lemma trimEnd_append {drops : Char → Bool} {before text : Text} (hne : text ≠ [])
    (h : ∀ c ∈ text, drops c = false) : trimEnd drops (before ++ text) = before ++ text := by
  refine trimEnd_eq_self fun c hc => h c ?_
  rw [List.getLast?_append_of_ne_nil _ hne] at hc
  exact List.mem_of_getLast? hc

lemma cut_construct (indentation : Indentation) (held : Construct) :
    (construct indentation held).cut = indentation.1 ++ held.text := by
  exact trimEnd_append held.text_ne_nil fun c hc => decide_eq_false (Construct.ne_lineEnd c hc).2

lemma cut_comment (indentation : Indentation) (note : Note) :
    (comment indentation note).cut = indentation.1 ++ ("//".toList ++ note.1) := by
  rw [cut, Row.text, List.append_assoc]
  refine trimEnd_append (by simp) fun c hc => decide_eq_false ?_
  rcases List.mem_append.1 hc with hc | hc
  · rintro rfl
    exact absurd hc (by decide)
  · exact (note.2.2 c hc).2

lemma words_cut_empty (blanks : Indentation) : (empty blanks).cut.words = [] :=
  words_eq_nil_iff.2 fun c hc => (blanks.2 c (trimEnd_subset _ _ hc)).1

end Row

end ProtoTypings
