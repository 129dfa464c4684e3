import ProtoTypings.Proofs.Printed.Names
import ProtoTypings.Proofs.Spacing.Methods

/-!
# Reading printed methods

The statement printed for a method is written in one of the spellings in which a method may be
written: with a space behind the keyword and on both sides of the word `returns`, with one behind a
mark, and with no other blanks. So it is read back as that method, wherever it is indented to.
-/

namespace ProtoTypings

open Text

/-- The payload that is declared. -/
def PayloadDeclaration.payload (declared : PayloadDeclaration) : Payload :=
  ⟨declared.type.text, declared.streamed⟩

/-- The method that is declared. -/
def MethodDeclaration.method (declared : MethodDeclaration) : Method :=
  ⟨declared.name.text, declared.request.payload, declared.response.payload⟩

/-- The blanks that are printed in a payload. -/
def Payload.Spacing.printed : Payload.Spacing :=
  ⟨⟨[], by decide⟩, ⟨[' '], by decide⟩, ⟨[], by decide⟩⟩

/-- The blanks that are printed in a method. -/
def Method.Spacing.printed : Method.Spacing :=
  ⟨⟨[' '], by decide⟩, ⟨[], by decide⟩, .printed, ⟨[' '], by decide⟩, ⟨[' '], by decide⟩, .printed⟩

lemma PayloadDeclaration.text_eq_written (declared : PayloadDeclaration) :
    declared.text = declared.payload.written .printed := by
  obtain ⟨streamed, type⟩ := declared
  cases streamed <;> simp [text, payload, Payload.written, Payload.Spacing.printed]

lemma MethodDeclaration.text_eq_written (declared : MethodDeclaration) :
    (Construct.method declared).text = declared.method.written .printed ++ [';'] := by
  rw [Method.written_append]
  unfold Construct.text
  simp only [PayloadDeclaration.text_eq_written, List.append_assoc]
  rfl

lemma PayloadDeclaration.isType (declared : PayloadDeclaration) :
    Payload.IsType declared.payload.type where
  isWord := declared.type.isWord
  noParenthesis h := (DottedName.isNameChar_of_mem h).ne (by decide) (by decide) rfl

lemma MethodDeclaration.isWritable (declared : MethodDeclaration) :
    declared.method.IsWritable where
  name :=
    { isWord := declared.name.isWord
      noParenthesis h :=
        (Identifier.isPart_of_mem h).isNameChar.ne (by decide) (by decide) rfl }
  request := declared.request.isType
  response := declared.response.isType

/-- **A printed method is read back**, whatever blanks stand before it. -/
theorem Method.find?_text (declared : MethodDeclaration) {blanks : Text}
    (hBlanks : ∀ c ∈ blanks, isBlank c = true) :
    find? (blanks ++ (Construct.method declared).text) = some declared.method := by
  rw [find?_blanks hBlanks, declared.text_eq_written]
  exact leftmost?_of_read (read?_written declared.isWritable .printed [';'])

end ProtoTypings
