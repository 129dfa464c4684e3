import ProtoTypings.Schema.Line
import ProtoTypings.Schema.Method
import ProtoTypings.Schema.Scalar

/-!
# Statements

What a line of a schema says, read from its words. A block may have its body on the line of its
header; the body is then a statement of its own, read from the words between the braces, and may
again be a block.

Only the words matter, with two exceptions. A comment, and an `rpc` line in which no method can be
read, keep the line as it stands; for a body that line is its words joined by single spaces.

A member is a value of an enum when its first word is no scalar type and the second is `=`. Which
block it stands in is not known.
-/

namespace ProtoTypings

/-- A field of a message. -/
structure Field where
  label : Option Label
  type : Text
  /-- The word after the type; empty where there is none. -/
  name : Text
  deriving DecidableEq, Repr

/-- What a line says. -/
inductive Statement where
  /-- A blank or removed line, or a label with nothing after it. -/
  | nothing
  /-- A comment. -/
  | comment (line : Text)
  /-- The end of a block. -/
  | close
  /-- The header of a block whose body follows on later lines. -/
  | header (block : Block) (name : Text)
  /-- A block with its body on the same line. -/
  | oneLine (block : Block) (name : Text) (body : Statement)
  /-- A method of a service. -/
  | method (method : Method)
  /-- An `rpc` line in which no method can be read. -/
  | unread (line : Text)
  /-- The package of the schema. -/
  | package (name : Text)
  /-- A value of an enum. -/
  | enumValue (name : Text)
  /-- A field of a message. -/
  | field (field : Field)
  deriving DecidableEq, Repr

/-- What the words after a block's keyword say: its name, without an opening brace at the end of
it, and the words after the opening brace, which is the next word unless the name brought it. -/
def blockHead : List Text → Text × List Text
  | [] => ([], [])
  | name :: later =>
    if name.getLast? = some '{' then (name.dropLast, later) else (name, later.drop 1)

theorem length_blockHead_le (words : List Text) : (blockHead words).2.length ≤ words.length := by
  cases words with
  | nil => simp [blockHead]
  | cons name later =>
    simp only [blockHead]
    split <;> simp only [List.length_cons, List.length_drop] <;> omega

theorem mem_of_mem_blockHead {words : List Text} {w : Text} (h : w ∈ (blockHead words).2) :
    w ∈ words := by
  cases words with
  | nil => simp [blockHead] at h
  | cons name later =>
    simp only [blockHead] at h
    split at h
    · exact List.mem_cons_of_mem _ h
    · exact List.mem_cons_of_mem _ (List.mem_of_mem_drop h)

/-- The words without the closing brace at their end, if there is one. -/
def withoutCloser (words : List Text) : List Text :=
  if words.getLast? = some ['}'] then words.dropLast else words

theorem length_withoutCloser_le (words : List Text) :
    (withoutCloser words).length ≤ words.length := by
  unfold withoutCloser
  split <;> simp

theorem mem_of_mem_withoutCloser {words : List Text} {w : Text} (h : w ∈ withoutCloser words) :
    w ∈ words := by
  unfold withoutCloser at h
  split at h
  · exact List.dropLast_subset words h
  · exact h

/-- A body that is joined to a line of its own has the same words on that line. -/
theorem words_unwords_body {words inner : List Text} {name : Text}
    (hWords : ∀ w ∈ words, Text.IsWord w) (h : blockHead words = (name, inner)) :
    Text.words (Text.unwords (withoutCloser inner)) = withoutCloser inner := by
  refine Text.words_unwords fun w hw => hWords w (mem_of_mem_blockHead ?_)
  rw [h]
  exact mem_of_mem_withoutCloser hw

/-- The name of a package, from the words after the keyword; the semicolons are left out. -/
def packageName (words : List Text) : Text :=
  (words.head?.getD []).filter (· ≠ ';')

namespace Statement

/-- A member with the given label, from its words. -/
def member (label : Option Label) : List Text → Statement
  | [] => .nothing
  | [type] => .field ⟨label, type, []⟩
  | type :: second :: _ =>
    if Scalar.ofName? type = none ∧ second = ['='] then .enumValue type
    else .field ⟨label, type, second⟩

/-- The statement that the words of a line make. -/
def ofWords (line : Text) (words : List Text) : Statement :=
  match words with
  | [] => .nothing
  | word :: later =>
    match Keyword.ofWord? word with
    | some .comment => .comment line
    | some .close => .close
    | some (.block block) =>
      match _h : blockHead later with
      | (name, []) => .header block name
      | (name, inner :: more) =>
        let body := withoutCloser (inner :: more)
        .oneLine block name (ofWords (Text.unwords body) body)
    | some .method =>
      match Method.find? line with
      | some found => .method found
      | none => .unread line
    | some .package => .package (packageName later)
    | none =>
      match Label.ofWord? word with
      | some label => member (some label) later
      | none => member none (word :: later)
termination_by words.length
decreasing_by
  have hBody := length_withoutCloser_le (inner :: more)
  have hInner := length_blockHead_le later
  rw [_h] at hInner
  simp only [List.length_cons] at hBody hInner ⊢
  omega

/-- The statement of a line; `none` stands for a removed one. -/
def ofLine : Option Text → Statement
  | none => .nothing
  | some line => ofWords line line.words

/-- Whether a statement names the package, itself or in the body of a block. -/
def namesPackage : Statement → Bool
  | .package _ => true
  | .oneLine _ _ body => body.namesPackage
  | _ => false

end Statement

end ProtoTypings
