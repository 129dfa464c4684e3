import ProtoTypings.Text.Blank

/-!
# Dialects

A schema says in a `syntax` declaration which dialect of the language it is written in. The
declaration is looked for in the whole text, since the blanks in it may run across lines; the first
one counts, and the keyword has to be the first thing on its line.
-/

namespace ProtoTypings

/-- The dialect of a schema. In `proto3` a field without a label may be absent; in every other
dialect it is present. -/
inductive Dialect where
  | proto2
  | proto3
  /-- A dialect of another name. -/
  | other (name : Text)
  deriving DecidableEq, Repr

namespace Dialect

/-- The dialect of a name. -/
def ofName (name : Text) : Dialect :=
  if name = "proto2".toList then .proto2
  else if name = "proto3".toList then .proto3
  else .other name

/-- The name of a dialect. -/
def name : Dialect → Text
  | .proto2 => "proto2".toList
  | .proto3 => "proto3".toList
  | .other name => name

@[simp]
theorem name_ofName (n : Text) : (ofName n).name = n := by
  unfold ofName
  split
  · next h => exact h.symm
  · split
    · next h => exact h.symm
    · rfl

/-- Whether a field without a label may be absent. -/
def fieldsOptional : Dialect → Bool
  | .proto3 => true
  | _ => false

@[simp]
theorem fieldsOptional_eq_true_iff {d : Dialect} : d.fieldsOptional = true ↔ d = .proto3 := by
  cases d <;> simp [fieldsOptional]

/-! ## The declaration -/

/-- What follows a quotation mark of either kind. -/
def afterQuote? : Text → Option Text
  | [] => none
  | c :: rest => if c = '\x22' ∨ c = '\x27' then some rest else none

/-- The dialect whose name a text begins with, and what follows the name. -/
def named? (text : Text) : Option (Dialect × Text) :=
  match Text.after? "proto2".toList text with
  | some rest => some (.proto2, rest)
  | none => (Text.after? "proto3".toList text).map (.proto3, ·)

/-- The dialect declared by the statement that a text begins with, after blanks. The two quotation
marks need not be of one kind. -/
def declared? (text : Text) : Option Dialect := do
  let rest ← Text.after? "syntax".toList (Text.skipBlanks text)
  let rest ← Text.after? ['='] (Text.skipBlanks rest)
  let rest ← afterQuote? (Text.skipBlanks rest)
  let (dialect, rest) ← named? rest
  let rest ← afterQuote? rest
  let _ ← Text.after? [';'] (Text.skipBlanks rest)
  return dialect

/-- The dialect that a schema declares: that of the first declaration at the start of a line. -/
def detect? (schema : Text) : Option Dialect :=
  (Text.fromLineStarts schema).findSome? declared?

example : detect? "// x\n syntax\t=\n'proto2\";".toList = some .proto2 := by decide +kernel

end Dialect

end ProtoTypings
