import ProtoTypings.Typings.Document
import ProtoTypings.Typings.Rendering

/-!
# Sessions

A session takes the lines of a schema one after the other. It carries the options and the dialect,
which its user may change between two lines, whether a package has been named, and the lines
produced so far.

The body of a block on one line is joined to a line of its own and rendered by the same session,
which is how a `package` statement inside such a body comes to name the package.
-/

namespace ProtoTypings

/-- The state between two lines. -/
structure Session where
  options : Options := {}
  dialect : Dialect := .proto3
  /-- Whether a package has been named. -/
  inNamespace : Bool := false
  /-- The lines produced so far, the first one first. -/
  produced : List Text := []
  deriving DecidableEq, Repr

namespace Session

/-- What is left of a line that declares no type. -/
def emptyLine (session : Session) : Option Text :=
  if session.options.stripEmptyLines then none else some []

/-- Renders a line that was not removed, and gives the session after it. -/
def renderText (session : Session) (line : Text) : Option Text × Session :=
  match _hKind : LineKind.ofWords line.words with
  | (.blank, _) => (session.emptyLine, session)
  | (.removed, _) => (session.emptyLine, session)
  | (.keyword .comment, _) => (if session.options.keepComments then some line else none, session)
  | (.keyword .close, _) => (some ['}'], session)
  | (.keyword (.block block), words) =>
    match _hHead : blockHead words.tail with
    | (name, []) => (some (block.opening name), session)
    | (name, inner :: more) =>
      match _hBody : withoutCloser (inner :: more) with
      | [] => (some (block.opening name ++ ['}']), session)
      | word :: later =>
        let (inside, after) := session.renderText (Text.unwords (word :: later))
        (some (block.opening name ++ inside.getD [] ++ ['}']), after)
  | (.keyword .method, _) => (some (methodLine session.options line), session)
  | (.keyword .package, words) =>
    (some (packageOpening (packageName words.tail)), { session with inNamespace := true })
  | (.member label, words) =>
    ((Statement.member label words).render session.options session.dialect, session)
termination_by line.words.length
decreasing_by
  obtain rfl := LineKind.words_of_keyword _hKind
  have hInner := length_blockHead_le line.words.tail
  have hBody := length_withoutCloser_le (inner :: more)
  have hWords := words_unwords_body
    (fun _ hw => Text.isWord_of_mem_words (List.mem_of_mem_tail hw)) _hHead
  rw [_hBody] at hWords hBody
  rw [hWords]
  rw [_hHead] at hInner
  simp only [List.length_tail, List.length_cons] at hInner hBody ⊢
  omega

/-- Renders a line, `none` for a removed one, and gives the session after it. -/
def renderLine (session : Session) : Option Text → Option Text × Session
  | none => (session.emptyLine, session)
  | some line => session.renderText line

/-- Renders several lines one after the other, leaving out those of which nothing is left. -/
def renderLines (session : Session) : List (Option Text) → List Text × Session
  | [] => ([], session)
  | line :: later =>
    let (output, next) := session.renderLine line
    let (outputs, last) := next.renderLines later
    (output.toList ++ outputs, last)

/-- Takes one line, `none` for a removed one, and gives the line produced from it, if any. -/
def takeLine (session : Session) (line : Option Text) : Option Text × Session :=
  let (output, next) := session.renderLine line
  (output, { next with produced := next.produced ++ output.toList })

/-- Takes several lines and gives the lines produced from them. -/
def takeLines (session : Session) (lines : List (Option Text)) : List Text × Session :=
  let (outputs, next) := session.renderLines lines
  (outputs, { next with produced := next.produced ++ outputs })

/-- The document of the lines produced so far. -/
def document (session : Session) : Except StreamSetting Document :=
  Document.assemble session.options session.inNamespace session.produced

end Session

end ProtoTypings
