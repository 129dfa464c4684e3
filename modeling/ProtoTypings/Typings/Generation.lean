import ProtoTypings.Typings.Session

/-!
# Generation

The document generated from the text of a schema. The options are resolved first and an empty schema
is refused next; nothing can go wrong after that. Every schema is taken by a session of its own,
which starts in the dialect that the schema declares, or in `proto3`.
-/

namespace ProtoTypings

/-- The lines produced from a schema, and the session after them. -/
def producedLines (options : Options) (schema : Text) : List Text × Session :=
  let dialect := (Dialect.detect? schema).getD .proto3
  Session.renderLines { options, dialect } (schemaLines schema)

/-- The text of the document generated from a schema. -/
def generate (options : Options) (schema : Text) : Except ConfigurationFault Text := do
  let mode ← options.streams.resolve
  if schema = [] then throw .noSchema
  let (lines, session) := producedLines { options with streams := .mode mode } schema
  let document : Document :=
    ⟨options.useObservable, mode.neededLibrary? lines, lines, session.inNamespace⟩
  return document.text

/-- The text generated from a schema with the options chosen for a call. -/
def generateWith (given : Option Options) (overrides : List Setting) (schema : Text) :
    Except ConfigurationFault Text := do
  let options ← Options.choose given overrides
  generate options schema

end ProtoTypings
