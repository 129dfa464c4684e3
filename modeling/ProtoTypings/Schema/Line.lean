import ProtoTypings.Text.WordChar
import ProtoTypings.Text.Words

/-!
# Lines of a schema

Lines that begin with a `syntax` or an `option` statement say nothing about the declared types. They
are recognised one by one and taken out; a line that is taken out still counts as a line.

Any other line is told by its first word. A keyword or a mark announces what the line is; the labels
`required`, `optional` and `repeated` are taken off the front of a member, and any other word begins
the type of a member.
-/

namespace ProtoTypings

/-! ## Lines without types -/

/-- Whether a line begins, after blanks, with a `syntax` statement (the keyword as a whole word) or
an `option` statement (the keyword and a blank). -/
def declaresNothing (line : Text) : Bool :=
  let start := Text.skipBlanks line
  let endsWord (rest : Text) : Bool := rest.head?.all fun c => !Text.isWordChar c
  (Text.after? "syntax".toList start).any endsWord
    || (Text.after? "option".toList start).any fun rest => rest.head?.any Text.isBlank

/-- The line itself, unless it declares nothing. -/
def declaring? (line : Text) : Option Text :=
  if declaresNothing line then none else some line

/-- The lines of a schema; `none` stands for a removed line. -/
def schemaLines (schema : Text) : List (Option Text) :=
  schema.lines.map declaring?

example : declaresNothing " syntax= ".toList ∧ ¬ declaresNothing "syntaxes".toList := by
  decide +kernel

/-! ## Kinds of lines -/

/-- A block of the generated document. Messages and services become interfaces. -/
inductive Block where
  | interface
  | enum
  deriving DecidableEq, Repr

/-- What the first word of a line can announce. -/
inductive Keyword where
  /-- A comment, marked by a `//` of its own. -/
  | comment
  /-- The end of a block. -/
  | close
  /-- The header of a block, and perhaps its body. -/
  | block (block : Block)
  /-- A method of a service. -/
  | method
  /-- The package of the schema. -/
  | package
  deriving DecidableEq, Repr

/-- What a word announces at the front of a line. -/
def Keyword.ofWord? (word : Text) : Option Keyword :=
  if word = "//".toList then some .comment
  else if word = ['}'] then some .close
  else if word = "message".toList ∨ word = "service".toList then some (.block .interface)
  else if word = "enum".toList then some (.block .enum)
  else if word = "rpc".toList then some .method
  else if word = "package".toList then some .package
  else none

/-- The words that make an announcement. -/
def Keyword.words : Keyword → List Text
  | .comment => ["//".toList]
  | .close => [['}']]
  | .block .interface => ["message".toList, "service".toList]
  | .block .enum => ["enum".toList]
  | .method => ["rpc".toList]
  | .package => ["package".toList]

theorem Keyword.ofWord?_eq_some_iff {word : Text} {announced : Keyword} :
    ofWord? word = some announced ↔ word ∈ announced.words := by
  constructor
  · intro h
    unfold ofWord? at h
    split at h
    · next hw => cases h; exact List.mem_singleton.2 hw
    split at h
    · next hw => cases h; exact List.mem_singleton.2 hw
    split at h
    · next hw => cases h; exact List.mem_cons.2 (hw.imp id List.mem_singleton.2)
    split at h
    · next hw => cases h; exact List.mem_singleton.2 hw
    split at h
    · next hw => cases h; exact List.mem_singleton.2 hw
    split at h
    · next hw => cases h; exact List.mem_singleton.2 hw
    cases h
  · intro h
    cases announced with
    | block block =>
      cases block with
      | interface =>
        rcases List.mem_cons.1 h with rfl | h
        · decide
        · obtain rfl := List.mem_singleton.1 h; decide
      | enum => obtain rfl := List.mem_singleton.1 h; decide
    | _ => obtain rfl := List.mem_singleton.1 h; decide

/-- The label in front of a field. -/
inductive Label where
  | required
  | optional
  | repeated
  deriving DecidableEq, Repr

/-- The label that a word is, where it is one. -/
def Label.ofWord? (word : Text) : Option Label :=
  if word = "required".toList then some .required
  else if word = "optional".toList then some .optional
  else if word = "repeated".toList then some .repeated
  else none

/-- The word that a label is. -/
def Label.word : Label → Text
  | .required => "required".toList
  | .optional => "optional".toList
  | .repeated => "repeated".toList

@[simp]
theorem Label.ofWord?_word (label : Label) : ofWord? label.word = some label := by
  cases label <;> decide

/-- A label announces nothing. -/
@[simp]
theorem Keyword.ofWord?_label (label : Label) : ofWord? label.word = none := by
  cases label <;> decide

theorem Label.ofWord?_eq_some_iff {word : Text} {label : Label} :
    ofWord? word = some label ↔ word = label.word := by
  constructor
  · intro h
    unfold ofWord? at h
    split at h
    · next hw => cases h; exact hw
    split at h
    · next hw => cases h; exact hw
    split at h
    · next hw => cases h; exact hw
    cases h
  · rintro rfl
    exact ofWord?_word label

/-- What a line is. -/
inductive LineKind where
  /-- Nothing but blanks. -/
  | blank
  /-- A line that was removed. -/
  | removed
  /-- A line that begins with a keyword. -/
  | keyword (keyword : Keyword)
  /-- A field of a message or a value of an enum. -/
  | member (label : Option Label)
  deriving DecidableEq, Repr

/-- What a line with the given words is, and its words without the label of a member. -/
def LineKind.ofWords : List Text → LineKind × List Text
  | [] => (.blank, [])
  | word :: later =>
    match Keyword.ofWord? word with
    | some announced => (.keyword announced, word :: later)
    | none =>
      match Label.ofWord? word with
      | some label => (.member (some label), later)
      | none => (.member none, word :: later)

theorem LineKind.ofWords_of_keyword {word : Text} {later : List Text} {announced : Keyword}
    (h : Keyword.ofWord? word = some announced) :
    ofWords (word :: later) = (.keyword announced, word :: later) := by
  simp [ofWords, h]

/-- Only the label of a member is taken off. -/
theorem LineKind.words_of_keyword {given kept : List Text} {announced : Keyword}
    (h : LineKind.ofWords given = (.keyword announced, kept)) : kept = given := by
  cases given with
  | nil => simp [ofWords] at h
  | cons word later =>
    simp only [ofWords] at h
    split at h
    · exact (Prod.mk.inj h).2.symm
    · split at h <;> simp at h

/-- A line together with what it is. -/
structure ClassifiedLine where
  kind : LineKind
  /-- The line as it stands; empty for a removed one. -/
  text : Text
  /-- Its words, without the label of a member. -/
  words : List Text
  deriving DecidableEq, Repr

/-- Classifies a line; `none` stands for a removed one. -/
def ClassifiedLine.of : Option Text → ClassifiedLine
  | none => ⟨.removed, [], []⟩
  | some line =>
    let (kind, words) := LineKind.ofWords line.words
    ⟨kind, line, words⟩

end ProtoTypings
