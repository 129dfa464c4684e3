import ProtoTypings.Proofs.Choices.SideBySide

/-!
# What the dialect changes

Sessions that differ in nothing but their dialect produce the same lines, except for the fields that
are marked neither `required` nor `optional`: in `proto3` a question mark stands behind the name of
such a field, and in every other dialect none does. The main statement is
`Session.takeLines_question_marks`; there a dialect is given by its name, which may be any text.
-/

namespace ProtoTypings

/-- Whether the dialect decides if a field is optional: it is labelled neither `required` nor
`optional`. -/
def Field.IsOpen (field : Field) : Prop :=
  field.label ≠ some .required ∧ field.label ≠ some .optional

instance : DecidablePred Field.IsOpen := fun field =>
  inferInstanceAs (Decidable (field.label ≠ some .required ∧ field.label ≠ some .optional))

/-- How what the dialects make of a line is related. If its innermost body declares a field that is
left open, the question mark stands between its name and the colon in `proto3` and nowhere else. All
other lines are the same in all dialects. -/
inductive DialectRow : Option Text → (Text → Text) → Prop
  | field {text : Text} {field : Field} {row : Text → Text}
      (hField : declaredField? (innermost text) = some field) (hOpen : field.IsOpen)
      (hWritten : ∀ name, row name = framed (headers text)
        (Name.camel field.name ++ (if name = "proto3".toList then ['?'] else []) ++ ": ".toList
          ++ fieldType field.type
          ++ if field.label = some .repeated then "[]".toList else [])) :
      DialectRow (some text) row
  | other {line : Option Text} {row : Text → Text}
      (hOther : ∀ text ∈ line, ∀ field, declaredField? (innermost text) = some field →
        ¬ field.IsOpen)
      (hSame : ∀ one other, row one = row other) :
      DialectRow line row

/-! ## Fields -/

lemma Dialect.fieldsOptional_ofName {name : Text} :
    (ofName name).fieldsOptional = true ↔ name = "proto3".toList := by
  rw [fieldsOptional_eq_true_iff]
  constructor
  · intro h
    rw [← name_ofName name, h]
    rfl
  · rintro rfl
    decide

namespace Field

lemma isOptional_of_isOpen {field : Field} (h : field.IsOpen) (dialect : Dialect) :
    field.isOptional dialect = dialect.fieldsOptional := by
  obtain ⟨hRequired, hOptional⟩ := h
  rw [isOptional]
  split
  · next hLabel => exact absurd hLabel hRequired
  · next hLabel => exact absurd hLabel hOptional
  · rfl

lemma isOptional_of_not_isOpen {field : Field} (h : ¬ field.IsOpen) (one other : Dialect) :
    field.isOptional one = field.isOptional other := by
  rw [isOptional, isOptional]
  split
  · rfl
  · rfl
  · next hRequired hOptional => exact absurd ⟨hRequired, hOptional⟩ h

lemma render_of_isOpen {field : Field} (h : field.IsOpen) (name : Text) :
    field.render (.ofName name)
      = Name.camel field.name ++ (if name = "proto3".toList then ['?'] else []) ++ ": ".toList
          ++ fieldType field.type
          ++ if field.label = some .repeated then "[]".toList else [] := by
  rw [render, isOptional_of_isOpen h]
  simp only [Dialect.fieldsOptional_ofName]

lemma render_of_not_isOpen {field : Field} (h : ¬ field.IsOpen) (one other : Dialect) :
    field.render one = field.render other := by
  rw [render, render, isOptional_of_not_isOpen h one other]

end Field

/-! ## Rows -/

lemma leftOf_of_declaredField? {text : Text} {field : Field}
    (h : declaredField? text = some field) (options : Options) (dialect : Dialect) :
    leftOf options dialect (some text) = field.render dialect := by
  rw [leftOf, Statement.ofLine_eq_field_iff.2 h]
  rfl

/-- The dialect matters only where a field is declared that is left open. -/
lemma leftOf_eq_of_no_open_field (options : Options) (one other : Dialect) {line : Option Text}
    (h : ∀ text ∈ line, ∀ field, declaredField? (innermost text) = some field → ¬ field.IsOpen) :
    leftOf options one line = leftOf options other line := by
  refine leftOf_congr fun text hText => ?_
  cases hInner : Statement.ofLine (some (innermost text)) with
  | oneLine => exact absurd hInner (Statement.ofLine_innermost_ne_oneLine _ _ _ _)
  | field declared =>
    have hField := Statement.ofLine_eq_field_iff.1 hInner
    rw [leftOf_of_declaredField? hField, leftOf_of_declaredField? hField]
    exact Field.render_of_not_isOpen (h text hText declared hField) one other
  | _ => simp only [leftOf, hInner, Statement.render]

lemma dialectRow_leftOf (options : Options) (line : Option Text) :
    DialectRow line fun name => leftOf options (.ofName name) line := by
  by_cases h : ∃ text ∈ line, ∃ field, declaredField? (innermost text) = some field ∧ field.IsOpen
  · obtain ⟨text, rfl, field, hField, hOpen⟩ := h
    refine .field hField hOpen fun name => ?_
    rw [leftOf_innermost, leftOf_of_declaredField? hField, Field.render_of_isOpen hOpen]
  · have hOther : ∀ text ∈ line, ∀ field, declaredField? (innermost text) = some field →
        ¬ field.IsOpen := by
      intro text hText field hField hOpen
      exact h ⟨text, hText, field, hField, hOpen⟩
    exact .other hOther fun one other => leftOf_eq_of_no_open_field options _ _ hOther

namespace Session

/-- **The dialect moves question marks and nothing else.**  Sessions that differ in the name of
their dialect agree in whether a package has been named, and their lines stand in rows. `DialectRow`
says how the lines of a row differ: a field that is left open has its question mark in `proto3` and
nowhere else. So two dialects that are not `proto3` have the same lines. -/
theorem takeLines_question_marks (session : Session) (lines : List (Option Text)) :
    let run (name : Text) : List Text × Session :=
      Session.takeLines { session with dialect := .ofName name } lines
    let sources := remaining session.options lines
    SideBySide DialectRow sources (fun name => (run name).1) ∧
    (∀ name, (run name).1.length = sources.length) ∧
    (∀ one other, (run one).2.inNamespace = (run other).2.inNamespace) ∧
    ∀ one other, one ≠ "proto3".toList → other ≠ "proto3".toList → (run one).1 = (run other).1 := by
  intro run sources
  have hRows : SideBySide DialectRow sources fun name => (run name).1 := by
    simp only [run, takeLines_output]
    refine sideBySide_typingLines (fun _ => session.options) (fun name => .ofName name)
      (fun _ _ => Iff.rfl) ?_ _
    exact dialectRow_leftOf session.options
  refine ⟨hRows, hRows.length_eq, fun one other => ?_, fun one other hOne hOther => ?_⟩
  · simp only [run, takeLines, renderLines_eq]
  · refine hRows.eq_of_rows fun line row hRow => ?_
    cases hRow with
    | other _ hSame => exact hSame one other
    | field hField hOpen hWritten => rw [hWritten, hWritten, if_neg hOne, if_neg hOther]

/-- A repeated field on the line of its message moves its question mark; a field that is required, a
value of an enum and a label alone do not. -/
theorem takeLines_question_marks_of_fields :
    let session : Session := {}
    let lines : List (Option Text) := ["message M \x7b repeated int32 x_y = 1; \x7d",
      "required string s = 1;", "A = 0;", "repeated"].map fun line => some line.toList
    let run (name : Text) : List Text := (Session.takeLines
      { session with dialect := .ofName name } lines).1
    ("proto2".toList ≠ "proto3".toList ∧ ([] : Text) ≠ "proto3".toList) ∧
    run "proto2".toList = run [] ∧
    run "proto3".toList = ["export interface M \x7bxY?: number[]\x7d", "s: string", "A,"].map
      String.toList ∧
    run "proto2".toList = ["export interface M \x7bxY: number[]\x7d", "s: string", "A,"].map
      String.toList := by
  intro session lines run
  obtain ⟨-, -, -, hSame⟩ := takeLines_question_marks session lines
  refine ⟨by decide, hSame _ _ (by decide) (by decide), ?_, ?_⟩
  · decide +kernel
  · decide +kernel

end Session

end ProtoTypings
