import ProtoTypings.Text.Basic

/-!
# Scalar types

The types of a schema that are not declared in one. A field of any other type refers to a message or
an enum; a value of an enum begins with a word that is no scalar type.
-/

namespace ProtoTypings

/-- A scalar type. -/
inductive Scalar where
  | double
  | float
  | int32
  | int64
  | uint32
  | uint64
  | sint32
  | sint64
  | fixed32
  | fixed64
  | sfixed32
  | sfixed64
  | bool
  | string
  | bytes
  deriving DecidableEq, Repr

namespace Scalar

/-- All scalar types. -/
def all : List Scalar :=
  [double, float, int32, int64, uint32, uint64, sint32, sint64, fixed32, fixed64, sfixed32,
   sfixed64, bool, string, bytes]

/-- The name of a scalar type. -/
def name : Scalar → Text
  | double => "double".toList
  | float => "float".toList
  | int32 => "int32".toList
  | int64 => "int64".toList
  | uint32 => "uint32".toList
  | uint64 => "uint64".toList
  | sint32 => "sint32".toList
  | sint64 => "sint64".toList
  | fixed32 => "fixed32".toList
  | fixed64 => "fixed64".toList
  | sfixed32 => "sfixed32".toList
  | sfixed64 => "sfixed64".toList
  | bool => "bool".toList
  | string => "string".toList
  | bytes => "bytes".toList

/-- The scalar type of a name. -/
def ofName? (name : Text) : Option Scalar :=
  all.find? fun scalar => scalar.name = name

@[simp]
theorem ofName?_name (scalar : Scalar) : ofName? scalar.name = some scalar := by
  cases scalar <;> decide

theorem ofName?_eq_some_iff {name : Text} {scalar : Scalar} :
    ofName? name = some scalar ↔ name = scalar.name := by
  refine ⟨fun h => ?_, fun h => h ▸ ofName?_name scalar⟩
  simpa [eq_comm] using List.find?_some h

end Scalar

end ProtoTypings
