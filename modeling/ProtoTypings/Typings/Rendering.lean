import ProtoTypings.Schema.Dialect
import ProtoTypings.Schema.Statement
import ProtoTypings.Typings.Primitive
import ProtoTypings.Typings.Signature

/-!
# Rendering

The line of the generated document that a statement becomes, if it becomes one. The options decide
what happens to comments and empty lines and how methods are written; the dialect decides whether a
field without a label is optional. Nothing else depends on either.
-/

namespace ProtoTypings

/-- Whether a field is optional in the generated document. -/
def Field.isOptional (dialect : Dialect) (field : Field) : Bool :=
  match field.label with
  | some .required => false
  | some .optional => true
  | _ => dialect.fieldsOptional

/-- The line for a field. -/
def Field.render (dialect : Dialect) (field : Field) : Text :=
  Name.camel field.name ++ (if field.isOptional dialect then ['?'] else []) ++ ": ".toList
    ++ fieldType field.type ++ if field.label = some .repeated then "[]".toList else []

/-- The keyword of a block. -/
def Block.keyword : Block → Text
  | .interface => "interface".toList
  | .enum => "enum".toList

/-- The line that opens a block. -/
def Block.opening (block : Block) (name : Text) : Text :=
  "export ".toList ++ block.keyword ++ [' '] ++ name ++ [' ', '{']

/-- The line that opens the namespace of a package. -/
def packageOpening (name : Text) : Text :=
  "export namespace ".toList ++ Name.pascal name ++ [' ', '{']

/-- The line that a statement becomes; `none` where it leaves no line. The body of a block on one
line stands between the braces, or nothing where it leaves no line. -/
def Statement.render (options : Options) (dialect : Dialect) : Statement → Option Text
  | .nothing => if options.stripEmptyLines then none else some []
  | .comment line => if options.keepComments then some line else none
  | .close => some ['}']
  | .header block name => some (block.opening name)
  | .oneLine block name body =>
    some (block.opening name ++ (body.render options dialect).getD [] ++ ['}'])
  | .method declared => some (declared.signature options)
  | .unread line => some line
  | .package name => some (packageOpening name)
  | .enumValue name => some (name ++ [','])
  | .field declared => some (declared.render dialect)

end ProtoTypings
