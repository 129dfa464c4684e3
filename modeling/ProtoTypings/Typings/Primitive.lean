import ProtoTypings.Schema.Scalar

/-!
# Primitive types

The scalar types of a schema become primitive types of the generated document. Any other type is a
reference and keeps its name.
-/

namespace ProtoTypings

/-- A primitive type of the generated document. -/
inductive Primitive where
  | number
  | boolean
  | string
  deriving DecidableEq, Repr

/-- The name of a primitive type. -/
def Primitive.name : Primitive → Text
  | .number => "number".toList
  | .boolean => "boolean".toList
  | .string => "string".toList

/-- The primitive type that a scalar type becomes. -/
def Scalar.primitive : Scalar → Primitive
  | .bool => .boolean
  | .string => .string
  | .bytes => .string
  | _ => .number

/-- The primitive type that a word becomes; `none` where the word is no scalar type. -/
def primitiveOf? (word : Text) : Option Primitive :=
  (Scalar.ofName? word).map Scalar.primitive

/-- The type of a field in the generated document. -/
def fieldType (word : Text) : Text :=
  match primitiveOf? word with
  | some primitive => primitive.name
  | none => word

end ProtoTypings
