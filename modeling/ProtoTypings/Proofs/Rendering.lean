import Mathlib
import ProtoTypings.Typings.Generation

/-!
# Rendering by a session is rendering statements

A session renders a line by recursion on its words and changes as it goes. This file separates the
two halves of that recursion: `Statement.ofLine` reads a line without a session, and
`Statement.render` writes a statement without one. The session contributes its options and its
dialect, and all that it keeps of a line is whether the line names the package
(`Session.renderLine_eq`). Every later statement about sessions starts from this one.
-/

namespace ProtoTypings

namespace Statement

/-- What a line says, by its kind. -/
lemma ofWords_eq (line : Text) (words : List Text) :
    ofWords line words =
      match LineKind.ofWords words with
      | (.blank, _) => .nothing
      | (.removed, _) => .nothing
      | (.keyword .comment, _) => .comment line
      | (.keyword .close, _) => .close
      | (.keyword (.block block), kept) =>
        match blockHead kept.tail with
        | (name, []) => .header block name
        | (name, inner :: more) =>
          let body := withoutCloser (inner :: more)
          .oneLine block name (ofWords (Text.unwords body) body)
      | (.keyword .method, _) =>
        match Method.find? line with
        | some found => .method found
        | none => .unread line
      | (.keyword .package, kept) => .package (packageName kept.tail)
      | (.member label, kept) => member label kept := by
  cases words with
  | nil => simp [ofWords, LineKind.ofWords]
  | cons word later =>
    rw [ofWords, LineKind.ofWords]
    cases hKeyword : Keyword.ofWord? word with
    | some announced =>
      cases announced with
      | block block =>
        rcases hHead : blockHead later with ⟨name, _ | ⟨inner, more⟩⟩ <;> simp [hHead]
      | _ => rfl
    | none => cases hLabel : Label.ofWord? word <;> rfl

lemma ofWords_block {line keyword : Text} {later : List Text} {block : Block}
    (h : Keyword.ofWord? keyword = some (.block block)) :
    ofWords line (keyword :: later) =
      match blockHead later with
      | (name, []) => .header block name
      | (name, inner :: more) =>
        let body := withoutCloser (inner :: more)
        .oneLine block name (ofWords (Text.unwords body) body) := by
  rw [ofWords_eq, LineKind.ofWords_of_keyword h]
  rfl

lemma ofWords_member {line word : Text} {later : List Text} (h : Keyword.ofWord? word = none) :
    ofWords line (word :: later) =
      match Label.ofWord? word with
      | some label => member (some label) later
      | none => member none (word :: later) := by
  cases hLabel : Label.ofWord? word <;> simp only [ofWords, h, hLabel]

@[simp]
lemma namesPackage_member (label : Option Label) (words : List Text) :
    (member label words).namesPackage = false := by
  rcases words with _ | ⟨type, _ | ⟨second, later⟩⟩
  · rfl
  · rfl
  · rw [member]
    split <;> rfl

end Statement

/-- The lines that the lines of a schema are rendered to, each on its own. -/
def typingLines (options : Options) (dialect : Dialect) (lines : List (Option Text)) :
    List Text :=
  lines.filterMap fun line => (Statement.ofLine line).render options dialect

/-- Whether one of the lines of a schema names the package. -/
def somePackage (lines : List (Option Text)) : Bool :=
  lines.any fun line => (Statement.ofLine line).namesPackage

namespace Session

/-- What a session becomes when it takes a statement: nothing changes but that the statement may
name the package. -/
def afterStatement (session : Session) (statement : Statement) : Session :=
  { session with inNamespace := session.inNamespace || statement.namesPackage }

/-- **A session renders what a line says.**  The options and the dialect of the moment decide how
the line is rendered; the only trace that the line leaves is whether it names the package. -/
lemma renderText_eq (session : Session) (line : Text) :
    session.renderText line
      = ((Statement.ofWords line line.words).render session.options session.dialect,
          session.afterStatement (Statement.ofWords line line.words)) := by
  fun_induction session.renderText line with
  | case1 line _ hKind =>
    rw [Statement.ofWords_eq, hKind]
    simp [Statement.render, afterStatement, Statement.namesPackage, emptyLine]
  | case2 line _ hKind =>
    rw [Statement.ofWords_eq, hKind]
    simp [Statement.render, afterStatement, Statement.namesPackage, emptyLine]
  | case3 line _ hKind =>
    rw [Statement.ofWords_eq, hKind]
    simp [Statement.render, afterStatement, Statement.namesPackage]
  | case4 line _ hKind =>
    rw [Statement.ofWords_eq, hKind]
    simp [Statement.render, afterStatement, Statement.namesPackage]
  | case5 line block words hKind name hHead =>
    rw [Statement.ofWords_eq, hKind]
    simp [hHead, Statement.render, afterStatement, Statement.namesPackage]
  | case6 line block words hKind name inner more hHead hBody =>
    rw [Statement.ofWords_eq, hKind]
    simp only [hHead, hBody, Statement.ofWords, Statement.render, Statement.namesPackage,
      afterStatement, Bool.or_false]
    -- a body that was only a closing brace is an empty line inside the block
    cases session.options.stripEmptyLines <;> simp
  | case7 line block words hKind name inner more hHead word later hBody inside after hRender ih =>
    obtain rfl := LineKind.words_of_keyword hKind
    -- the body is joined and cut into words again, which gives back the words it was joined from
    have hWords := words_unwords_body
      (fun _ hw => Text.isWord_of_mem_words (List.mem_of_mem_tail hw)) hHead
    rw [hBody] at hWords
    rw [hRender, hWords] at ih
    rw [Statement.ofWords_eq, hKind]
    obtain ⟨rfl, rfl⟩ := Prod.mk.inj ih
    simp [hHead, hBody, Statement.render, afterStatement, Statement.namesPackage]
  | case8 line _ hKind =>
    rw [Statement.ofWords_eq, hKind, methodLine]
    cases Method.find? line <;>
      simp [Statement.render, afterStatement, Statement.namesPackage]
  | case9 line words hKind =>
    rw [Statement.ofWords_eq, hKind]
    simp [Statement.render, afterStatement, Statement.namesPackage]
  | case10 line label words hKind =>
    rw [Statement.ofWords_eq, hKind]
    simp [afterStatement]

/-- The same for any line, removed ones included. -/
lemma renderLine_eq (session : Session) (line : Option Text) :
    session.renderLine line
      = ((Statement.ofLine line).render session.options session.dialect,
          session.afterStatement (Statement.ofLine line)) := by
  cases line with
  | none => simp [renderLine, Statement.ofLine, Statement.render, afterStatement,
      Statement.namesPackage, emptyLine]
  | some line => exact session.renderText_eq line

/-- A line that names no package leaves the session as it is. -/
lemma renderLine_of_ofLine {session : Session} {line : Option Text} {statement : Statement}
    (h : Statement.ofLine line = statement) (hPackage : statement.namesPackage = false) :
    session.renderLine line = (statement.render session.options session.dialect, session) := by
  rw [renderLine_eq, h, afterStatement, hPackage, Bool.or_false]

/-- The lines that several lines are rendered to, and whether one of them names the package. -/
lemma renderLines_eq (session : Session) (lines : List (Option Text)) :
    session.renderLines lines
      = (typingLines session.options session.dialect lines,
          { session with inNamespace := session.inNamespace || somePackage lines }) := by
  induction lines generalizing session with
  | nil => simp [renderLines, typingLines, somePackage]
  | cons line later ih =>
    simp only [renderLines, renderLine_eq, ih]
    cases h : (Statement.ofLine line).render session.options session.dialect <;>
      simp [typingLines, somePackage, afterStatement, h, Bool.or_assoc]

end Session

/-- What is generated from a schema that is not empty, once the stream mode is resolved. -/
lemma generate_eq {options : Options} {mode : StreamMode} {schema : Text}
    (hMode : options.streams.resolve = .ok mode) (hSchema : schema ≠ []) :
    generate options schema =
      let lines := typingLines { options with streams := .mode mode }
        ((Dialect.detect? schema).getD .proto3) (schemaLines schema)
      .ok (Document.text ⟨options.useObservable, mode.neededLibrary? lines, lines,
        somePackage (schemaLines schema)⟩) := by
  simp [generate, hMode, hSchema, producedLines, Session.renderLines_eq, bind, Except.bind,
    pure, Except.pure]

end ProtoTypings
