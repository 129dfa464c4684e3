import ProtoTypings.Proofs.Printed.Rows

/-!
# What printed lines say

The statement that each line of a printed schema makes, and the line of the document that it
becomes. A line is cut into words first; the words of a construct are those that it was printed
with, and the statement is read off them. Only a method is read from its text.
-/

namespace ProtoTypings

open Text

/-- The dialect of a version. -/
def Version.dialect : Version → Dialect
  | .proto2 => .proto2
  | .proto3 => .proto3

/-- The block that a kind of blocks becomes. -/
def BlockKind.block : BlockKind → Block
  | .enum => .enum
  | _ => .interface

@[simp]
lemma Keyword.ofWord?_keyword (kind : BlockKind) :
    Keyword.ofWord? kind.keyword = some (.block kind.block) := by
  cases kind <;> decide

/-- What a construct says. -/
def Construct.statement : Construct → Statement
  | .version _ => .nothing
  | .package name => .package name.text
  | .opener kind name => .header kind.block name.text
  | .field declared => .field ⟨declared.label, declared.type.text, declared.name.text⟩
  | .value declared =>
    if Scalar.ofName? declared.name.text = none then .enumValue declared.name.text
    else .field ⟨none, declared.name.text, ['=']⟩
  | .method declared => .method declared.method
  | .closer => .close

/-- What a line of a printed schema says. -/
def Row.statement : Row → Statement
  | .construct _ held => held.statement
  | .empty _ => .nothing
  | row@(.comment _ _) => .comment row.text

/-! ## Names that are no keywords -/

lemma keyword_eq_none {word : Text} (hReserved : word ∉ reservedWords)
    (hMarks : word ≠ "//".toList ∧ word ≠ ['}']) : Keyword.ofWord? word = none := by
  have hAll : ∀ announced : Keyword, ∀ word ∈ announced.words,
      word ∈ reservedWords ∨ word = "//".toList ∨ word = ['}'] := by
    rintro (_ | _ | ⟨_ | _⟩ | _ | _) <;> decide
  cases hKeyword : Keyword.ofWord? word with
  | none => rfl
  | some announced =>
    rcases hAll announced word (Keyword.ofWord?_eq_some_iff.1 hKeyword) with h | h | h
    · exact absurd h hReserved
    · exact absurd h hMarks.1
    · exact absurd h hMarks.2

lemma label_eq_none {word : Text} (hReserved : word ∉ reservedWords) :
    Label.ofWord? word = none := by
  have hAll : ∀ label : Label, label.word ∈ reservedWords := by
    rintro (_ | _ | _) <;> decide
  cases hLabel : Label.ofWord? word with
  | none => rfl
  | some label => exact absurd (Label.ofWord?_eq_some_iff.1 hLabel ▸ hAll label) hReserved

/-- A text that begins with an identifier begins with no other character. -/
lemma Identifier.ne_of_not_isPart {name : Identifier} {later : Text} {c : Char} (rest : Text)
    (hc : ¬ Name.IsPart c) : name.text ++ later ≠ c :: rest := by
  intro h
  have hFirst : name.first = c := (List.cons.inj h).1
  exact hc (hFirst ▸ Identifier.isPart_of_mem List.mem_cons_self)

lemma Identifier.keyword_eq_none {name : Identifier} {later : Text}
    (hReserved : name.text ++ later ∉ reservedWords) :
    Keyword.ofWord? (name.text ++ later) = none :=
  ProtoTypings.keyword_eq_none hReserved
    ⟨Identifier.ne_of_not_isPart ['/'] (by decide), Identifier.ne_of_not_isPart [] (by decide)⟩

/-- A dotted name is reserved only if it has one part. -/
lemma DottedName.not_mem_reservedWords {name : DottedName} (h : name.first.text ∉ reservedWords) :
    name.text ∉ reservedWords := by
  have hDots : ∀ word ∈ reservedWords, '.' ∉ word := by decide
  intro hMem
  obtain ⟨first, later⟩ := name
  cases later with
  | nil => exact h (by simpa [DottedName.text] using hMem)
  | cons part later => exact hDots _ hMem (by simp [DottedName.text])

/-! ## The words of a construct -/

lemma words_indented {indentation : Indentation} {text : Text} {words : List Text}
    (hText : text = unwords words) (hWords : ∀ w ∈ words, IsWord w) :
    (indentation.1 ++ text).words = words := by
  rw [words_blanks indentation.isBlank, hText, words_unwords hWords]

lemma isWord_append {word : Text} (hWord : IsWord word) {mark : Char}
    (hMark : isBlank mark = false) : IsWord (word ++ [mark]) := by
  refine ⟨by simp, fun c hc => ?_⟩
  rcases List.mem_append.1 hc with hc | hc
  · exact hWord.2 c hc
  · exact List.mem_singleton.1 hc ▸ hMark

lemma isWord_numeral (number : ℤ) : IsWord (numeral number ++ [';']) := by
  refine ⟨by simp, fun c hc => ?_⟩
  rcases List.mem_append.1 hc with hc | hc
  · exact (isNameChar_of_mem_numeral hc).1
  · exact List.mem_singleton.1 hc ▸ by decide

/-- The words behind the label of a field. -/
def FieldDeclaration.words (declared : FieldDeclaration) : List Text :=
  [declared.type.text, declared.name.text, ['='], numeral declared.number ++ [';']]

lemma words_field (indentation : Indentation) (declared : FieldDeclaration) :
    (indentation.1 ++ (Construct.field declared).text).words
      = declared.label.toList.map Label.word ++ declared.words := by
  have hNumber := isWord_numeral declared.number
  have hDeclared : ∀ w ∈ declared.words, IsWord w := by
    rw [FieldDeclaration.words, List.forall_mem_cons, List.forall_mem_cons, List.forall_mem_cons,
      List.forall_mem_singleton]
    exact ⟨declared.type.isWord, declared.name.isWord, by decide, hNumber⟩
  refine words_indented ?_ ?_
  · obtain ⟨label, type, name, number⟩ := declared
    unfold Construct.text FieldDeclaration.words
    cases label <;> simp [unwords_cons_cons]
  · cases declared.label with
    | none => exact hDeclared
    | some label =>
      have hLabels : ∀ label : Label, IsWord label.word := by
        rintro (_ | _ | _) <;> decide
      exact List.forall_mem_cons.2 ⟨hLabels label, hDeclared⟩

lemma words_value (indentation : Indentation) (declared : ValueDeclaration) :
    (indentation.1 ++ (Construct.value declared).text).words
      = [declared.name.text, ['='], numeral declared.number ++ [';']] := by
  refine words_indented ?_ ?_
  · unfold Construct.text
    simp [unwords_cons_cons]
  · rw [List.forall_mem_cons, List.forall_mem_cons, List.forall_mem_singleton]
    exact ⟨declared.name.isWord, by decide, isWord_numeral declared.number⟩

lemma words_opener (indentation : Indentation) (kind : BlockKind) (name : Identifier) :
    (indentation.1 ++ (Construct.opener kind name).text).words
      = [kind.keyword, name.text, ['{']] := by
  refine words_indented ?_ ?_
  · unfold Construct.text
    simp [unwords_cons_cons]
  · rw [List.forall_mem_cons, List.forall_mem_cons, List.forall_mem_singleton]
    exact ⟨by cases kind <;> decide, name.isWord, by decide⟩

lemma words_package (indentation : Indentation) (name : DottedName) :
    (indentation.1 ++ (Construct.package name).text).words
      = ["package".toList, name.text ++ [';']] := by
  refine words_indented ?_ ?_
  · unfold Construct.text
    simp [unwords_cons_cons]
  · rw [List.forall_mem_cons, List.forall_mem_singleton]
    exact ⟨by decide, isWord_append name.isWord (by decide)⟩

lemma words_method (indentation : Indentation) (declared : MethodDeclaration) :
    ∃ later, (indentation.1 ++ (Construct.method declared).text).words = "rpc".toList :: later := by
  obtain ⟨later, hText⟩ :
      ∃ later, (Construct.method declared).text = "rpc".toList ++ ' ' :: later := by
    unfold Construct.text
    simp only [List.append_assoc]
    exact ⟨_, rfl⟩
  rw [words_blanks indentation.isBlank, hText, words_append (by decide)]
  · exact ⟨_, rfl⟩
  · intro c hc
    exact Option.some.inj hc ▸ by decide

lemma words_comment (indentation : Indentation) (note : Note) :
    ∃ later, (indentation.1 ++ ("//".toList ++ note.1)).words = "//".toList :: later := by
  rw [words_blanks indentation.isBlank, words_append (by decide) note.2.1]
  exact ⟨_, rfl⟩

/-! ## The statement of a line -/

lemma declaring?_construct {held : Construct} (indentation : Indentation)
    (hVersion : ∀ given, held ≠ .version given) (hClear : held.IsClear) :
    declaring? (indentation.1 ++ held.text) = some (indentation.1 ++ held.text) := by
  obtain ⟨lead, rest, hText, hLead, hRest⟩ := held.exists_lead hVersion hClear
  rw [hText]
  exact hLead.declaring?_eq indentation.isBlank hRest

lemma declaring?_version (indentation : Indentation) (given : Version) :
    declaring? (indentation.1 ++ (Construct.version given).text) = none := by
  have hStart : skipBlanks (indentation.1 ++ (Construct.version given).text)
      = (Construct.version given).text := by
    rw [skipBlanks_blanks indentation.isBlank]
    cases given <;> decide
  rw [declaring?, if_pos]
  rw [declaresNothing, hStart]
  cases given <;> decide +kernel

namespace Statement

lemma member_field (label : Option Label) (declared : FieldDeclaration) :
    member label declared.words = .field ⟨label, declared.type.text, declared.name.text⟩ := by
  have hName : declared.name.text ≠ ['='] :=
    List.append_nil declared.name.text ▸ Identifier.ne_of_not_isPart [] (by decide)
  rw [FieldDeclaration.words, member, if_neg (fun h => hName h.2)]

lemma ofWords_field {declared : FieldDeclaration} (line : Text)
    (hClear : (Construct.field declared).IsClear) :
    ofWords line (declared.label.toList.map Label.word ++ declared.words)
      = (Construct.field declared).statement := by
  obtain ⟨label, type, name, number⟩ := declared
  cases label with
  | some label =>
    refine (ofWords_member (Keyword.ofWord?_label label)).trans ?_
    rw [Label.ofWord?_word]
    exact member_field (some label) _
  | none =>
    have hType : type.text ∉ reservedWords :=
      DottedName.not_mem_reservedWords (hClear type.first rfl)
    have hKeyword : Keyword.ofWord? type.text = none := Identifier.keyword_eq_none hType
    refine (ofWords_member hKeyword).trans ?_
    rw [label_eq_none hType]
    exact member_field none ⟨none, type, name, number⟩

lemma ofWords_value {declared : ValueDeclaration} (line : Text)
    (hClear : (Construct.value declared).IsClear) :
    ofWords line [declared.name.text, ['='], numeral declared.number ++ [';']]
      = (Construct.value declared).statement := by
  have hName : declared.name.text ∉ reservedWords := hClear declared.name rfl
  have hKeyword : Keyword.ofWord? declared.name.text = none :=
    List.append_nil declared.name.text ▸ Identifier.keyword_eq_none (List.append_nil _ ▸ hName)
  rw [ofWords_member hKeyword, label_eq_none hName, Construct.statement]
  simp only [member, and_true]

lemma ofWords_opener (line : Text) (kind : BlockKind) (name : Identifier) :
    ofWords line [kind.keyword, name.text, ['{']] = (Construct.opener kind name).statement := by
  have hName : name.text.getLast? ≠ some '{' := by
    intro hLast
    exact absurd (Identifier.isPart_of_mem (List.mem_of_getLast? hLast)) (by decide)
  rw [ofWords_block (Keyword.ofWord?_keyword kind), blockHead, if_neg hName]
  rfl

lemma ofWords_package (line : Text) (name : DottedName) :
    ofWords line ["package".toList, name.text ++ [';']] = (Construct.package name).statement := by
  have hName : ∀ c ∈ name.text, c ≠ ';' := fun c hc =>
    (DottedName.isNameChar_of_mem hc).ne (by decide) (by decide)
  have hKeyword : Keyword.ofWord? "package".toList = some .package := by decide
  have hPackage : packageName [name.text ++ [';']] = name.text := by
    simpa [packageName] using hName
  rw [ofWords, hKeyword]
  simp only [hPackage]
  rfl

end Statement

/-- **A printed line says what was printed on it.** -/
lemma Row.ofLine_cut {row : Row} (hClear : ∀ held ∈ row.construct?, held.IsClear) :
    Statement.ofLine (declaring? row.cut) = row.statement := by
  cases row with
  | empty blanks =>
    have hWords := Row.words_cut_empty blanks
    -- a line that is taken out has a first word
    have hKept : declaring? (Row.empty blanks).cut = some (Row.empty blanks).cut := by
      rw [declaring?, if_neg]
      intro hNothing
      obtain ⟨first, later, hFirst, -⟩ := words_of_declaresNothing hNothing
      simp [hWords] at hFirst
    rw [hKept, Statement.ofLine, hWords, Statement.ofWords]
    rfl
  | comment indentation note =>
    obtain ⟨later, hWords⟩ := words_comment indentation note
    have hKeyword : Keyword.ofWord? "//".toList = some .comment := by decide
    rw [Row.cut_comment, isLead_comment.declaring?_eq indentation.isBlank note.not_isPart_head,
      Statement.ofLine, hWords, Statement.ofWords, hKeyword, Row.statement, Row.text,
      List.append_assoc]
  | construct indentation held =>
    have hHeld : held.IsClear := hClear held rfl
    rw [Row.cut_construct]
    cases held with
    | version given =>
      rw [declaring?_version]
      rfl
    | package name =>
      rw [declaring?_construct indentation (by simp) hHeld, Statement.ofLine, words_package]
      exact Statement.ofWords_package _ name
    | opener kind name =>
      rw [declaring?_construct indentation (by simp) hHeld, Statement.ofLine, words_opener]
      exact Statement.ofWords_opener _ kind name
    | field declared =>
      rw [declaring?_construct indentation (by simp) hHeld, Statement.ofLine, words_field]
      exact Statement.ofWords_field _ hHeld
    | value declared =>
      rw [declaring?_construct indentation (by simp) hHeld, Statement.ofLine, words_value]
      exact Statement.ofWords_value _ hHeld
    | method declared =>
      obtain ⟨later, hWords⟩ := words_method indentation declared
      have hKeyword : Keyword.ofWord? "rpc".toList = some .method := by decide
      have hFind := Method.find?_text declared indentation.isBlank
      rw [declaring?_construct indentation (by simp) hHeld, Statement.ofLine, hWords,
        Statement.ofWords, hKeyword]
      simp only [hFind]
      rfl
    | closer =>
      have hWords : (indentation.1 ++ Construct.closer.text).words = [['}']] :=
        words_indented rfl (by decide)
      have hKeyword : Keyword.ofWord? ['}'] = some .close := by decide
      rw [declaring?_construct indentation (by simp) hHeld, Statement.ofLine, hWords,
        Statement.ofWords, hKeyword]
      rfl

/-! ## The line of the document -/

section Typing

variable (options : Options) (mode : StreamMode) (version : Version)

lemma fieldsOptional_dialect : version.dialect.fieldsOptional = decide (version = .proto3) := by
  cases version <;> rfl

lemma isOptional_eq (declared : FieldDeclaration) :
    Field.isOptional version.dialect ⟨declared.label, declared.type.text, declared.name.text⟩
      = declared.mayBeAbsent version := by
  obtain ⟨label, type, name, number⟩ := declared
  rcases label with _ | ⟨_ | _ | _⟩
  · exact fieldsOptional_dialect version
  · rfl
  · rfl
  · exact fieldsOptional_dialect version

lemma render_payload (declared : PayloadDeclaration) :
    declared.payload.render (.mode mode) = declared.typing mode := by
  obtain ⟨streamed, type⟩ := declared
  cases streamed <;> cases mode <;> rfl

lemma signature_eq (declared : MethodDeclaration) :
    declared.method.signature { options with streams := .mode mode }
      = declared.typing options mode := by
  have hMark : (declared.method.request.streamed && !(StreamSetting.mode mode).strips)
      = (declared.request.streamed && decide (mode ≠ .strip)) := by
    cases mode <;> rfl
  unfold Method.signature Method.parameters Method.parameterName Method.result
    MethodDeclaration.typing
  simp only [hMark, ← render_payload, List.append_assoc]
  rfl

/-- **What a construct says is rendered to the line that belongs into the document.** -/
lemma render_statement (held : Construct) :
    held.statement.render { options with streams := .mode mode } version.dialect
      = held.typing options mode version := by
  cases held with
  | version given => rfl
  | package name => rfl
  | opener kind name => cases kind <;> rfl
  | field declared =>
    rw [Construct.statement, Statement.render, Field.render, isOptional_eq]
    rfl
  | value declared =>
    rw [Construct.statement, Construct.typing, primitiveOf?]
    cases hScalar : Scalar.ofName? declared.name.text with
    | none => rfl
    | some scalar =>
      -- the field is called `=`, and nothing is left of that name in camel case
      have hName : Name.camel ['='] = [] := by decide
      rw [if_neg (by simp), Statement.render, Field.render, fieldType, primitiveOf?, hScalar, hName]
      simp [Field.isOptional, fieldsOptional_dialect]
  | method declared => exact congrArg some (signature_eq options mode declared)
  | closer => rfl

lemma render_row (row : Row) :
    row.statement.render { options with streams := .mode mode } version.dialect
      = row.typing options mode version := by
  cases row with
  | construct indentation held => exact render_statement options mode version held
  | empty blanks => rfl
  | comment indentation note => rfl

end Typing

end ProtoTypings
