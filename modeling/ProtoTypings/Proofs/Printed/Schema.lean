import Mathlib
import ProtoTypings.Proofs.Characters

/-!
# Printed schemas

A schema as its author thinks of it: a version, a package and a list of messages, enums and
services. It is printed one construct to a line; the lines may be indented, and empty lines and
comments may stand anywhere between them. Next to what is printed for a construct stands the line
that belongs into the generated document for it (`Construct.typing`).

Nothing here refers to how schemas are read. That a printed schema is read back construct by
construct is shown in the files that follow.
-/

namespace ProtoTypings

/-! ## Names and numbers -/

/-- An identifier: a letter, and then letters, digits and underscores, all of them ASCII. -/
structure Identifier where
  first : Char
  rest : Text
  isAlpha : first.isAlpha = true
  isPart : ∀ c ∈ rest, Name.IsPart c

/-- The text of an identifier. -/
def Identifier.text (name : Identifier) : Text := name.first :: name.rest

/-- One identifier, or several with dots between them. -/
structure DottedName where
  first : Identifier
  later : List Identifier

/-- The text of a dotted name. -/
def DottedName.text (name : DottedName) : Text :=
  name.first.text ++ name.later.flatMap fun part => '.' :: part.text

/-- A number in decimal. -/
def numeral : ℤ → Text
  | .ofNat n => Nat.toDigits 10 n
  | .negSucc n => '-' :: Nat.toDigits 10 (n + 1)

/-! ## Schemas -/

/-- A version of the language. -/
inductive Version where
  | proto2
  | proto3
  deriving DecidableEq, Repr

/-- The name of a version. -/
def Version.name : Version → Text
  | .proto2 => "proto2".toList
  | .proto3 => "proto3".toList

/-- A field of a message. -/
structure FieldDeclaration where
  label : Option Label
  type : DottedName
  name : Identifier
  number : ℕ

/-- A value of an enum. -/
structure ValueDeclaration where
  name : Identifier
  number : ℤ

/-- What a method takes or gives. -/
structure PayloadDeclaration where
  streamed : Bool
  type : DottedName

/-- A method of a service. -/
structure MethodDeclaration where
  name : Identifier
  request : PayloadDeclaration
  response : PayloadDeclaration

/-- A message, an enum or a service. -/
inductive Definition where
  | message (name : Identifier) (fields : List FieldDeclaration)
  | enum (name : Identifier) (values : List ValueDeclaration)
  | service (name : Identifier) (methods : List MethodDeclaration)

/-- A schema. -/
structure Schema where
  version : Option Version
  package : Option DottedName
  definitions : List Definition

/-- The kinds of blocks in a schema. -/
inductive BlockKind where
  | message
  | enum
  | service
  deriving DecidableEq, Repr

/-- The keyword of a kind of blocks. -/
def BlockKind.keyword : BlockKind → Text
  | .message => "message".toList
  | .enum => "enum".toList
  | .service => "service".toList

/-- What is printed on one line. -/
inductive Construct where
  | version (version : Version)
  | package (name : DottedName)
  | opener (kind : BlockKind) (name : Identifier)
  | field (field : FieldDeclaration)
  | value (value : ValueDeclaration)
  | method (method : MethodDeclaration)
  | closer

/-- The constructs of a definition, in their order. -/
def Definition.constructs : Definition → List Construct
  | .message name fields => .opener .message name :: fields.map .field ++ [.closer]
  | .enum name values => .opener .enum name :: values.map .value ++ [.closer]
  | .service name methods => .opener .service name :: methods.map .method ++ [.closer]

/-- The constructs of a schema, in their order. -/
def Schema.constructs (schema : Schema) : List Construct :=
  schema.version.toList.map .version ++ schema.package.toList.map .package
    ++ schema.definitions.flatMap Definition.constructs

/-! ## Printing -/

/-- A payload in its parentheses. -/
def PayloadDeclaration.text (payload : PayloadDeclaration) : Text :=
  ['('] ++ (if payload.streamed then "stream ".toList else []) ++ payload.type.text ++ [')']

/-- What is printed for a construct. -/
def Construct.text : Construct → Text
  | .version given => "syntax = \x22".toList ++ given.name ++ "\x22;".toList
  | .package name => "package ".toList ++ name.text ++ [';']
  | .opener kind name => kind.keyword ++ [' '] ++ name.text ++ [' ', '{']
  | .field declared =>
    (declared.label.elim [] fun label => label.word ++ [' ']) ++ declared.type.text ++ [' ']
      ++ declared.name.text ++ " = ".toList ++ numeral declared.number ++ [';']
  | .value declared =>
    declared.name.text ++ " = ".toList ++ numeral declared.number ++ [';']
  | .method declared =>
    "rpc ".toList ++ declared.name.text ++ declared.request.text ++ " returns ".toList
      ++ declared.response.text ++ [';']
  | .closer => ['}']

/-- Blanks other than line feeds. -/
abbrev Indentation : Type := {text : Text // ∀ c ∈ text, Text.isBlank c = true ∧ c ≠ '\n'}

/-- What stands behind the mark of a comment: nothing, or a blank and a text on the same line. -/
abbrev Note : Type :=
  {text : Text // (∀ c ∈ text.head?, Text.isBlank c = true) ∧ ∀ c ∈ text, c ≠ '\n' ∧ c ≠ '\r'}

/-- A line of a printed schema. -/
inductive Row where
  | construct (indentation : Indentation) (construct : Construct)
  | empty (blanks : Indentation)
  | comment (indentation : Indentation) (note : Note)

namespace Row

/-- The text of a line. -/
def text : Row → Text
  | .construct indentation held => indentation.1 ++ held.text
  | .empty blanks => blanks.1
  | .comment indentation note => indentation.1 ++ "//".toList ++ note.1

/-- The construct on a line. -/
def construct? : Row → Option Construct
  | .construct _ held => some held
  | _ => none

end Row

/-- The text of several lines. -/
def printed (rows : List Row) : Text :=
  Text.joinWith ['\n'] (rows.map Row.text)

/-- Whether lines are those of a schema: they hold its constructs in their order, and nothing else
but empty lines and comments. -/
def Schema.IsPrintedOn (schema : Schema) (rows : List Row) : Prop :=
  rows.filterMap Row.construct? = schema.constructs

/-! ## The document -/

/-- Whether a field may be absent: by its label, or else by the version. -/
def FieldDeclaration.mayBeAbsent (version : Version) (field : FieldDeclaration) : Bool :=
  match field.label with
  | some .required => false
  | some .optional => true
  | _ => version = .proto3

/-- The type of a payload in the document. -/
def PayloadDeclaration.typing (mode : StreamMode) (payload : PayloadDeclaration) : Text :=
  match payload.streamed, mode with
  | false, _ => payload.type.text
  | true, .strip => payload.type.text
  | true, .generic => "Stream<".toList ++ payload.type.text ++ ['>']
  | true, .native => "Stream".toList

/-- The signature of a method in the document. -/
def MethodDeclaration.typing (options : Options) (mode : StreamMode) (method : MethodDeclaration) :
    Text :=
  let parameter := Name.camel method.request.type.text
    ++ if method.request.streamed && mode ≠ .strip then "Stream".toList else []
  let metadata := if options.useMetadata then ", metadata: any".toList else []
  let result := method.response.typing mode
  Name.camel method.name.text ++ " (".toList ++ parameter ++ ": ".toList
    ++ method.request.typing mode ++ metadata ++ "): ".toList
    ++ if options.useObservable then "Observable<".toList ++ result ++ ['>'] else result

/-- The line for a construct in the document. A value of an enum that is called like a scalar type
is taken for a field of that type without a name. -/
def Construct.typing (options : Options) (mode : StreamMode) (version : Version) :
    Construct → Option Text
  | .version _ => if options.stripEmptyLines then none else some []
  | .package name => some ("export namespace ".toList ++ Name.pascal name.text ++ [' ', '{'])
  | .opener kind name =>
    let keyword := if kind = .enum then "enum".toList else "interface".toList
    some ("export ".toList ++ keyword ++ [' '] ++ name.text ++ [' ', '{'])
  | .field declared =>
    some (Name.camel declared.name.text ++ (if declared.mayBeAbsent version then ['?'] else [])
      ++ ": ".toList ++ fieldType declared.type.text
      ++ if declared.label = some .repeated then "[]".toList else [])
  | .value declared =>
    match primitiveOf? declared.name.text with
    | none => some (declared.name.text ++ [','])
    | some primitive =>
      some ((if version = .proto3 then ['?'] else []) ++ ": ".toList ++ primitive.name)
  | .method declared => some (declared.typing options mode)
  | .closer => some ['}']

/-- The line for a line of a printed schema in the document. -/
def Row.typing (options : Options) (mode : StreamMode) (version : Version) : Row → Option Text
  | .construct _ held => held.typing options mode version
  | .empty _ => if options.stripEmptyLines then none else some []
  | row@(.comment _ _) => if options.keepComments then some row.text else none

/-! ## Lines that could be taken for others -/

/-- The words that begin lines of their own kinds. -/
def reservedWords : List Text :=
  ["message".toList, "service".toList, "enum".toList, "rpc".toList, "package".toList,
   "required".toList, "optional".toList, "repeated".toList, "syntax".toList, "option".toList]

/-- The identifier that a line begins with, if it begins with one that its author chose: the first
of the type of a field without a label, or the name of a value. -/
def Construct.chosenStart? : Construct → Option Identifier
  | .field declared => if declared.label = none then some declared.type.first else none
  | .value declared => some declared.name
  | _ => none

/-- Whether no line of a schema begins, by its author's choice, with a reserved word. -/
def Schema.IsUnambiguous (schema : Schema) : Prop :=
  ∀ construct ∈ schema.constructs, ∀ name ∈ construct.chosenStart?, name.text ∉ reservedWords

instance (schema : Schema) : Decidable schema.IsUnambiguous :=
  inferInstanceAs (Decidable (∀ construct ∈ schema.constructs, ∀ name ∈ construct.chosenStart?,
    name.text ∉ reservedWords))

end ProtoTypings
