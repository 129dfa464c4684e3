import ProtoTypings.Proofs.Names.Words
import ProtoTypings.Proofs.Printed.Statements

/-!
# Blanks around the number of a member

A field and a value of an enum assign a number to a name. The blanks around the `=` settle into
which words the assignment falls: `x = 1;` is three words, `x =1;` and `x= 1;` are two, `x=1;` is
one. A member is read from its words, whatever they are, and so the four spellings are not read
alike.

A field keeps its name if there is a blank on at least one side of the `=`; without any the number
is taken for a word of the name. A value of an enum is taken for a field unless there are blanks on
both sides. `Session.renderLine_spaced` says what the line for each spelling is.
-/

namespace ProtoTypings

open Text

/-! ## Spellings -/

/-- The digits of a number. -/
def digits (number : ℤ) : Text :=
  Nat.toDigits 10 number.natAbs

/-- An assignment with the given blanks around the `=`. -/
def assignment (name : Text) (before after : Blanks) (number : ℤ) : Text :=
  name ++ before.1 ++ ['='] ++ after.1 ++ numeral number ++ [';']

/-- A field with the given blanks around the `=`. -/
def FieldDeclaration.spaced (declared : FieldDeclaration) (before after : Blanks) : Text :=
  (declared.label.elim [] fun label => label.word ++ [' ']) ++ declared.type.text ++ [' ']
    ++ assignment declared.name.text before after declared.number

/-- A value of an enum with the given blanks around the `=`. -/
def ValueDeclaration.spaced (declared : ValueDeclaration) (before after : Blanks) : Text :=
  assignment declared.name.text before after declared.number

/-- Whether the line of a field does not begin like a line of another kind. -/
def FieldDeclaration.StartsAsMember (declared : FieldDeclaration) : Prop :=
  declared.label = none →
    Keyword.ofWord? declared.type.text = none ∧ Label.ofWord? declared.type.text = none

/-- Whether the line of a value does not begin like a line of another kind. -/
def ValueDeclaration.StartsAsMember (declared : ValueDeclaration) : Prop :=
  Keyword.ofWord? declared.name.text = none ∧ Label.ofWord? declared.name.text = none ∧
    Scalar.ofName? declared.name.text = none

/-- The four spellings: no blanks around the `=`, blanks only behind it, blanks only ahead of it,
blanks on both sides. -/
@[elab_as_elim]
lemma Blanks.around {motive : Blanks → Blanks → Prop} (before after : Blanks)
    (glued : ∀ hBefore hAfter, motive ⟨[], hBefore⟩ ⟨[], hAfter⟩)
    (behind : ∀ a later hBefore hAfter, motive ⟨[], hBefore⟩ ⟨a :: later, hAfter⟩)
    (ahead : ∀ b later hBefore hAfter, motive ⟨b :: later, hBefore⟩ ⟨[], hAfter⟩)
    (parted : ∀ b a before after hBefore hAfter,
      motive ⟨b :: before, hBefore⟩ ⟨a :: after, hAfter⟩) :
    motive before after := by
  obtain ⟨before, hBefore⟩ := before
  obtain ⟨after, hAfter⟩ := after
  match before, after with
  | [], [] => exact glued hBefore hAfter
  | [], a :: later => exact behind a later hBefore hAfter
  | b :: later, [] => exact ahead b later hBefore hAfter
  | b :: before, a :: after => exact parted b a before after hBefore hAfter

/-! ## Names with a number -/

namespace Name

lemma digits_ne_nil (number : ℤ) : digits number ≠ [] :=
  Nat.toDigits_ne_nil

lemma isDigit_of_mem_digits {number : ℤ} {c : Char} (h : c ∈ digits number) : c.isDigit = true :=
  Nat.isDigit_of_mem_toDigits (by decide) (by decide) h

lemma lowerCase_digits (number : ℤ) : lowerCase (digits number) = digits number := by
  conv_rhs => rw [← List.map_id (digits number)]
  exact List.map_congr_left fun c hc => toLower_eq_self (isDigit_of_mem_digits hc)

lemma attached_digits (number : ℤ) : attached (digits number) = '_' :: digits number := by
  have hLower := lowerCase_digits number
  obtain ⟨c, rest, hDigits⟩ := List.exists_cons_of_ne_nil (digits_ne_nil number)
  have hc : c.isDigit = true := isDigit_of_mem_digits (hDigits ▸ List.mem_cons_self)
  rw [hDigits] at hLower ⊢
  have hRest : lowerCase rest = rest := (List.cons.inj hLower).2
  rw [attached, if_pos hc, hRest]

lemma words_digits (number : ℤ) : words (digits number) = [digits number] := by
  obtain ⟨c, rest, hDigits⟩ := List.exists_cons_of_ne_nil (digits_ne_nil number)
  have h : ∀ d ∈ c :: rest, d.isAlphanum = true ∧ d.isUpper = false := by
    intro d hd
    have hDigit : d.isDigit = true := isDigit_of_mem_digits (hDigits ▸ hd)
    exact ⟨by simp [Char.isAlphanum, hDigit], isUpper_of_isDigit hDigit⟩
  rw [List.forall_mem_cons] at h
  rw [hDigits, words_eq_singleton h.1.1 h.2]

/-- The sign and the semicolon of a number belong to no word. -/
lemma words_numeral (number : ℤ) : words (numeral number ++ [';']) = [digits number] := by
  have hMark := words_append_mark (by decide : ';'.isAlphanum = false) (digits number) []
  rw [words_digits] at hMark
  cases number with
  | ofNat n => exact hMark
  | negSucc n => exact (words_append_mark (by decide : '-'.isAlphanum = false) [] _).trans hMark

/-- A number is the last word of the name that it is glued to. -/
lemma camel_append_numeral {name : Text} (hName : words name ≠ []) {mark : Char}
    (hMark : mark.isAlphanum = false) (number : ℤ) :
    camel (name ++ mark :: (numeral number ++ [';'])) = camel name ++ '_' :: digits number := by
  rw [camel, words_append_mark hMark, words_numeral, camel]
  obtain ⟨word, later, hWords⟩ := List.exists_cons_of_ne_nil hName
  simp [hWords, joined, attached_digits]

lemma camel_numeral (number : ℤ) : camel (numeral number ++ [';']) = digits number := by
  rw [camel, words_numeral, joined, lowerCase_digits]
  simp

lemma camel_append_mark {mark : Char} (hMark : mark.isAlphanum = false) (name : Text) :
    camel (name ++ [mark]) = camel name := by
  rw [camel, words_append_mark hMark]
  simp [camel, words, runs]

lemma camel_mark_numeral {mark : Char} (hMark : mark.isAlphanum = false) (number : ℤ) :
    camel (mark :: (numeral number ++ [';'])) = digits number := by
  have hWords := words_append_mark hMark [] (numeral number ++ [';'])
  rw [← camel_numeral number, camel, camel]
  exact congrArg _ hWords

end Name

/-! ## The words of an assignment -/

/-- The words of an assignment, by the blanks around the `=`. -/
def assignmentWords (name : Text) (before after : Blanks) (number : ℤ) : List Text :=
  let numeral := numeral number ++ [';']
  match before.1, after.1 with
  | _ :: _, _ :: _ => [name, ['='], numeral]
  | _ :: _, [] => [name, '=' :: numeral]
  | [], _ :: _ => [name ++ ['='], numeral]
  | [], [] => [name ++ '=' :: numeral]

lemma words_assignment {name : Text} (hName : IsWord name) (before after : Blanks) (number : ℤ) :
    words (assignment name before after number) = assignmentWords name before after number := by
  have hNumeral := isWord_numeral number
  have hGlued : IsWord ('=' :: (numeral number ++ [';'])) :=
    ⟨by simp, List.forall_mem_cons.2 ⟨by decide, hNumeral.2⟩⟩
  have hAssignment : assignment name before after number
      = name ++ (before.1 ++ (['='] ++ (after.1 ++ (numeral number ++ [';'])))) := by
    unfold assignment
    simp only [List.append_assoc]
  rw [hAssignment]
  cases before, after using Blanks.around with
  | glued =>
    refine words_of_isWord ⟨by simp, ?_⟩
    exact List.forall_mem_append.2 ⟨hName.2, hGlued.2⟩
  | behind a later _ hAfter =>
    have hSign : IsWord (name ++ ['=']) := isWord_append hName (by decide)
    have hGap : (⟨a :: later, hAfter⟩ : Blanks).1 ≠ [] := by simp
    have hWords := words_gap hSign hGap (numeral number ++ [';'])
    rw [words_of_isWord hNumeral, List.append_assoc] at hWords
    exact hWords
  | ahead =>
    rw [words_gap hName (by simp)]
    exact congrArg _ (words_of_isWord hGlued)
  | parted =>
    rw [words_gap hName (by simp), words_gap (by decide) (by simp), words_of_isWord hNumeral]
    rfl

/-- The second word of a field is its name, and what is glued to it. -/
lemma exists_assignmentWords (name : Identifier) (before after : Blanks) (number : ℤ) :
    ∃ glued later, assignmentWords name.text before after number = (name.text ++ glued) :: later ∧
      Name.camel (name.text ++ glued) = Name.camel name.text
        ++ if before.1 = [] ∧ after.1 = [] then '_' :: digits number else [] := by
  have hName : Name.words name.text ≠ [] :=
    runs_ne_nil (by simp [Char.isAlphanum, name.isAlpha]) name.rest
  have hSign : '='.isAlphanum = false := by decide
  cases before, after using Blanks.around with
  | glued => exact ⟨_, [], rfl, Name.camel_append_numeral hName hSign number⟩
  | behind => exact ⟨['='], _, rfl, (Name.camel_append_mark hSign name.text).trans (by simp)⟩
  | ahead => exact ⟨[], _, (congrArg (· :: _) (List.append_nil _)).symm, by simp⟩
  | parted => exact ⟨[], _, (congrArg (· :: _) (List.append_nil _)).symm, by simp⟩

lemma FieldDeclaration.words_spaced (declared : FieldDeclaration) (before after : Blanks) :
    (declared.spaced before after).words = declared.label.toList.map Label.word
      ++ declared.type.text :: assignmentWords declared.name.text before after declared.number := by
  obtain ⟨label, type, name, number⟩ := declared
  have hBlank : ∀ rest : Text, ∀ c ∈ (' ' :: rest).head?, isBlank c = true := by
    intro rest c hc
    obtain rfl := Option.some.inj hc
    decide
  have hTyped : Text.words (type.text ++ ' ' :: assignment name.text before after number)
      = type.text :: assignmentWords name.text before after number := by
    rw [words_append type.isWord (hBlank _), words_blank (by decide), words_assignment name.isWord]
  cases label with
  | none =>
    refine Eq.trans ?_ hTyped
    simp [spaced]
  | some label =>
    have hLabel : IsWord label.word := by cases label <;> decide
    have hText : spaced ⟨some label, type, name, number⟩ before after
        = label.word ++ ' ' :: (type.text ++ ' ' :: assignment name.text before after number) := by
      simp [spaced]
    rw [hText, words_append hLabel (hBlank _), words_blank (by decide), hTyped]
    rfl

lemma ValueDeclaration.words_spaced (declared : ValueDeclaration) (before after : Blanks) :
    (declared.spaced before after).words
      = assignmentWords declared.name.text before after declared.number :=
  words_assignment declared.name.isWord before after declared.number

/-! ## What a member says -/

lemma no_keyword_of_mem_sign {word : Text} (h : '=' ∈ word) :
    Keyword.ofWord? word = none ∧ Label.ofWord? word = none ∧ Scalar.ofName? word = none :=
  no_keyword_of_mem_mark (by decide) h

lemma FieldDeclaration.ofLine_spaced {declared : FieldDeclaration}
    (hStart : declared.StartsAsMember) (before after : Blanks) :
    ∃ name, Statement.ofLine (some (declared.spaced before after))
        = .field ⟨declared.label, declared.type.text, name⟩ ∧
      Name.camel name = Name.camel declared.name.text
        ++ if before.1 = [] ∧ after.1 = [] then '_' :: digits declared.number else [] := by
  obtain ⟨glued, later, hWords, hCamel⟩ :=
    exists_assignmentWords declared.name before after declared.number
  refine ⟨declared.name.text ++ glued, ?_, hCamel⟩
  have hMember : Statement.member declared.label
      (declared.type.text :: (declared.name.text ++ glued) :: later)
        = .field ⟨declared.label, declared.type.text, declared.name.text ++ glued⟩ := by
    have hName : declared.name.text ++ glued ≠ ['='] :=
      Identifier.ne_of_not_isPart [] (by decide)
    rw [Statement.member, if_neg (fun h => hName h.2)]
  rw [Statement.ofLine, declared.words_spaced, hWords]
  cases hLabel : declared.label with
  | some label =>
    rw [hLabel] at hMember
    refine (Statement.ofWords_member (Keyword.ofWord?_label label)).trans ?_
    rw [Label.ofWord?_word]
    exact hMember
  | none =>
    rw [hLabel] at hMember
    obtain ⟨hKeyword, hNone⟩ := hStart hLabel
    refine (Statement.ofWords_member hKeyword).trans ?_
    rw [hNone]
    exact hMember

/-- What a value of an enum says, by the blanks around the `=`. -/
def ValueDeclaration.statement (declared : ValueDeclaration) (before after : Blanks) : Statement :=
  let name := declared.name.text
  let numeral := numeral declared.number ++ [';']
  match before.1, after.1 with
  | _ :: _, _ :: _ => .enumValue name
  | _ :: _, [] => .field ⟨none, name, '=' :: numeral⟩
  | [], _ :: _ => .field ⟨none, name ++ ['='], numeral⟩
  | [], [] => .field ⟨none, name ++ '=' :: numeral, []⟩

lemma ValueDeclaration.ofLine_spaced {declared : ValueDeclaration}
    (hStart : declared.StartsAsMember) (before after : Blanks) :
    Statement.ofLine (some (declared.spaced before after)) = declared.statement before after := by
  obtain ⟨hKeyword, hLabel, hScalar⟩ := hStart
  have hGlued : '=' ∈ declared.name.text ++ '=' :: (numeral declared.number ++ [';']) := by simp
  have hMarked : '=' ∈ declared.name.text ++ ['='] := by simp
  -- the number is never taken for the sign
  have hNumeral : ∀ front : Text, front ++ (numeral declared.number ++ [';']) ≠ ['='] := by
    intro front h
    have hLast := congrArg List.getLast? h
    simp [List.getLast?_append] at hLast
  rw [Statement.ofLine, declared.words_spaced]
  cases before, after using Blanks.around with
  | glued =>
    rw [assignmentWords, Statement.ofWords_member (no_keyword_of_mem_sign hGlued).1,
      (no_keyword_of_mem_sign hGlued).2.1]
    rfl
  | behind =>
    rw [assignmentWords, Statement.ofWords_member (no_keyword_of_mem_sign hMarked).1,
      (no_keyword_of_mem_sign hMarked).2.1]
    exact if_neg fun h => hNumeral [] h.2
  | ahead =>
    rw [assignmentWords, Statement.ofWords_member hKeyword, hLabel]
    exact if_neg fun h => hNumeral ['='] h.2
  | parted =>
    rw [assignmentWords, Statement.ofWords_member hKeyword, hLabel]
    exact if_pos ⟨hScalar, rfl⟩

/-! ## The lines of the document -/

/-- What stands behind the name in the line for a field. -/
def FieldDeclaration.annotation (dialect : Dialect) (declared : FieldDeclaration) : Text :=
  (if declared.label = some .optional ∨ declared.label ≠ some .required ∧ dialect.fieldsOptional
      then ['?'] else [])
    ++ ": ".toList ++ fieldType declared.type.text
    ++ if declared.label = some .repeated then "[]".toList else []

/-- The line for a field, by the blanks around the `=`. Without any blank the number is a word of
the name. -/
def FieldDeclaration.line (dialect : Dialect) (declared : FieldDeclaration)
    (before after : Blanks) : Text :=
  Name.camel declared.name.text
    ++ (if before.1 = [] ∧ after.1 = [] then '_' :: digits declared.number else [])
    ++ declared.annotation dialect

/-- The line for a value of an enum, by the blanks around the `=`. Without blanks on both sides it
is that of a field. -/
def ValueDeclaration.line (dialect : Dialect) (declared : ValueDeclaration)
    (before after : Blanks) : Text :=
  let name := declared.name.text
  let annotation := (if dialect.fieldsOptional then ['?'] else []) ++ ": ".toList
  match before.1, after.1 with
  | _ :: _, _ :: _ => name ++ [',']
  | _ :: _, [] => digits declared.number ++ annotation ++ name
  | [], _ :: _ => digits declared.number ++ annotation ++ name ++ ['=']
  | [], [] => annotation ++ name ++ ['='] ++ numeral declared.number ++ [';']

lemma fieldType_of_none {word : Text} (h : Scalar.ofName? word = none) : fieldType word = word := by
  rw [fieldType, primitiveOf?, h]
  rfl

lemma ValueDeclaration.render_statement {declared : ValueDeclaration}
    (hStart : declared.StartsAsMember) (options : Options) (dialect : Dialect)
    (before after : Blanks) :
    (declared.statement before after).render options dialect
      = some (declared.line dialect before after) := by
  have hSign : '='.isAlphanum = false := by decide
  have hName : fieldType declared.name.text = declared.name.text := fieldType_of_none hStart.2.2
  have hMarked : fieldType (declared.name.text ++ ['=']) = declared.name.text ++ ['='] :=
    fieldType_of_none (no_keyword_of_mem_sign (by simp)).2.2
  have hGlued : fieldType (declared.name.text ++ '=' :: (numeral declared.number ++ [';']))
      = declared.name.text ++ '=' :: (numeral declared.number ++ [';']) :=
    fieldType_of_none (no_keyword_of_mem_sign (by simp)).2.2
  have hNameless : Name.camel [] = [] := rfl
  cases before, after using Blanks.around with
  | glued =>
    simp [statement, line, Statement.render, Field.render, Field.isOptional, hGlued, hNameless]
  | behind =>
    simp [statement, line, Statement.render, Field.render, Field.isOptional, hMarked,
      Name.camel_numeral]
  | ahead =>
    simp [statement, line, Statement.render, Field.render, Field.isOptional, hName,
      Name.camel_mark_numeral hSign]
  | parted => rfl

lemma FieldDeclaration.render_field (declared : FieldDeclaration) (name : Text) (options : Options)
    (dialect : Dialect) :
    (Statement.field ⟨declared.label, declared.type.text, name⟩).render options dialect
      = some (Name.camel name ++ declared.annotation dialect) := by
  obtain ⟨_ | _ | _ | _, type, called, number⟩ := declared <;>
    simp [Statement.render, Field.render, Field.isOptional, annotation]

lemma isBlank_space : ∀ c ∈ [' '], isBlank c = true := by decide

/-- One space. -/
def oneSpace : Blanks :=
  ⟨[' '], isBlank_space⟩

/-- A number in the name makes the line longer. -/
lemma FieldDeclaration.line_eq_iff (declared : FieldDeclaration) (dialect : Dialect)
    (before after : Blanks) :
    declared.line dialect before after = declared.line dialect oneSpace oneSpace ↔
      before.1 ≠ [] ∨ after.1 ≠ [] := by
  by_cases hGlued : before.1 = [] ∧ after.1 = []
  · refine iff_of_false (fun hLine => ?_) (by simp [hGlued])
    have hLength := congrArg List.length hLine
    simp [line, hGlued, oneSpace] at hLength
    omega
  · refine iff_of_true ?_ (not_and_or.1 hGlued)
    simp [line, hGlued, oneSpace]

/-- The lines of fields are longer than that of a value. -/
lemma ValueDeclaration.line_eq_iff (declared : ValueDeclaration) (dialect : Dialect)
    (before after : Blanks) :
    declared.line dialect before after = declared.line dialect oneSpace oneSpace ↔
      before.1 ≠ [] ∧ after.1 ≠ [] := by
  have hLength : ∀ {text : Text}, declared.name.text.length + 1 < text.length →
      text ≠ declared.line dialect oneSpace oneSpace := by
    rintro text h rfl
    simp [line, oneSpace] at h
  cases before, after using Blanks.around with
  | glued =>
    refine iff_of_false (hLength ?_) (by simp)
    simp [line]
    omega
  | behind =>
    refine iff_of_false (hLength ?_) (by simp)
    simp [line]
    omega
  | ahead =>
    refine iff_of_false (hLength ?_) (by simp)
    simp [line]
    omega
  | parted => exact iff_of_true rfl (by simp)

lemma ValueDeclaration.namesPackage_statement (declared : ValueDeclaration)
    (before after : Blanks) :
    (declared.statement before after).namesPackage = false := by
  cases before, after using Blanks.around <;> rfl

namespace Session

lemma renderLine_field (session : Session) {declared : FieldDeclaration}
    (hStart : declared.StartsAsMember) (before after : Blanks) :
    session.renderLine (some (declared.spaced before after))
      = (some (declared.line session.dialect before after), session) := by
  obtain ⟨name, hField, hCamel⟩ := FieldDeclaration.ofLine_spaced hStart before after
  rw [renderLine_of_ofLine hField rfl, declared.render_field, hCamel, FieldDeclaration.line]

lemma renderLine_value (session : Session) {declared : ValueDeclaration}
    (hStart : declared.StartsAsMember) (before after : Blanks) :
    session.renderLine (some (declared.spaced before after))
      = (some (declared.line session.dialect before after), session) := by
  rw [renderLine_of_ofLine (ValueDeclaration.ofLine_spaced hStart before after)
    (declared.namesPackage_statement before after), ValueDeclaration.render_statement hStart]

/-- **What becomes of a member in each spelling.**  A field is rendered as with one space on each
side of the `=` exactly if there is a blank on at least one side; without any it is called after its
number too. A value of an enum is rendered so exactly if there are blanks on both sides; otherwise
it is taken for a field, of another kind in each of the three spellings. -/
theorem renderLine_spaced (session : Session) :
    (∀ (declared : FieldDeclaration) (before after : Blanks), declared.StartsAsMember →
      session.renderLine (some (declared.spaced before after))
          = (some (declared.line session.dialect before after), session) ∧
        (session.renderLine (some (declared.spaced before after))
            = session.renderLine (some (declared.spaced oneSpace oneSpace)) ↔
          before.1 ≠ [] ∨ after.1 ≠ [])) ∧
    (∀ (declared : ValueDeclaration) (before after : Blanks), declared.StartsAsMember →
      session.renderLine (some (declared.spaced before after))
          = (some (declared.line session.dialect before after), session) ∧
        (session.renderLine (some (declared.spaced before after))
            = session.renderLine (some (declared.spaced oneSpace oneSpace)) ↔
          before.1 ≠ [] ∧ after.1 ≠ [])) := by
  constructor
  · intro declared before after hStart
    refine ⟨session.renderLine_field hStart before after, ?_⟩
    rw [session.renderLine_field hStart, session.renderLine_field hStart,
      ← declared.line_eq_iff session.dialect]
    simp
  · intro declared before after hStart
    refine ⟨session.renderLine_value hStart before after, ?_⟩
    rw [session.renderLine_value hStart, session.renderLine_value hStart,
      ← declared.line_eq_iff session.dialect]
    simp

/-- A field without a blank around the `=` is called after its number, and a value of an enum is
taken for a field; with single spaces both are what they were declared to be. -/
theorem renderLine_spaced_without_blanks :
    let session : Session := { dialect := .proto2 }
    let empty : Blanks := ⟨[], by decide⟩
    let field : FieldDeclaration :=
      ⟨some .repeated, ⟨⟨'i', "nt32".toList, by decide, by decide⟩, []⟩,
        ⟨'p', "oint_count".toList, by decide, by decide⟩, 12⟩
    let value : ValueDeclaration := ⟨⟨'L', "OW_2".toList, by decide, by decide⟩, -7⟩
    field.StartsAsMember ∧ value.StartsAsMember ∧
      field.spaced empty empty = "repeated int32 point_count=12;".toList ∧
      session.renderLine (some (field.spaced empty empty))
        = (some "pointCount_12: number[]".toList, session) ∧
      value.spaced oneSpace empty = "LOW_2 =-7;".toList ∧
      session.renderLine (some (value.spaced oneSpace empty)) = (some "7: LOW_2".toList, session) ∧
      session.renderLine (some (value.spaced empty empty))
        ≠ session.renderLine (some (value.spaced oneSpace oneSpace)) := by
  intro session empty field value
  have hField : field.StartsAsMember := fun hLabel => absurd hLabel (by decide)
  have hValue : value.StartsAsMember := ⟨by decide, by decide, by decide⟩
  have hSpaced := (renderLine_spaced session).2 value empty empty hValue
  refine ⟨hField, hValue, by decide, ?_, by decide, ?_, fun h => (hSpaced.2.1 h).1 rfl⟩
  · exact ((renderLine_spaced session).1 field empty empty hField).1.trans (by decide)
  · exact ((renderLine_spaced session).2 value oneSpace empty hValue).1.trans (by decide)

end Session

end ProtoTypings
