import ProtoTypings.Proofs.Nesting
import ProtoTypings.Proofs.Printed.Statements

/-!
# Blocks inside each other on one line

A line may open blocks inside each other and close them all behind a body. It is rendered from the
outside in, one block at a time: the words of a body are joined to a line of their own, which is
rendered in the same way. Each block takes one closing brace off the end, so as many braces as
blocks leave exactly the body (`blockOnLine?_of_words_eq`), and what is produced are the openings,
the rendered body and the closing braces (`Session.renderLine_nestedWords`).
-/

namespace ProtoTypings

open Text

/-- The header of a block as it is written on a line. -/
structure WrittenHeader where
  kind : BlockKind
  name : Text
  /-- Whether the brace is glued to the name; otherwise it is a word of its own. -/
  glued : Bool
  name_getLast? : name.getLast? ≠ some '{'

namespace WrittenHeader

/-- The words behind the keyword of a header. -/
def nameWords (written : WrittenHeader) : List Text :=
  if written.glued then [written.name ++ ['{']] else [written.name, ['{']]

/-- The words of a header. -/
def words (written : WrittenHeader) : List Text :=
  written.kind.keyword :: written.nameWords

/-- What a written header says. -/
def header (written : WrittenHeader) : Header :=
  ⟨written.kind.block, written.name⟩

lemma blockHead_nameWords_append (written : WrittenHeader) (later : List Text) :
    blockHead (written.nameWords ++ later) = (written.name, later) := by
  cases hGlued : written.glued with
  | true => simp [blockHead, nameWords, hGlued]
  | false => simp [blockHead, nameWords, hGlued, written.name_getLast?]

end WrittenHeader

/-- The words of a body with headers before it and the braces that close them behind it. -/
def nestedWords (heads : List WrittenHeader) (body : List Text) : List Text :=
  heads.flatMap WrittenHeader.words ++ body ++ List.replicate heads.length ['}']

@[simp]
lemma nestedWords_nil (body : List Text) : nestedWords [] body = body := by
  simp [nestedWords]

lemma nestedWords_cons (written : WrittenHeader) (heads : List WrittenHeader) (body : List Text) :
    nestedWords (written :: heads) body = written.words ++ nestedWords heads body ++ [['}']] := by
  simp [nestedWords, List.replicate_succ']

/-- A block takes its own header and the last closing brace, and leaves what is between them. -/
lemma blockOnLine?_of_words_eq {line : Text} {written : WrittenHeader} {body : List Text}
    (h : line.words = written.words ++ body ++ [['}']]) :
    blockOnLine? line = some (written.header, unwords body) := by
  have hKeyword := Keyword.ofWord?_keyword written.kind
  have hKind : LineKind.ofWords line.words
      = (.keyword (.block written.kind.block), line.words) := by
    rw [h]
    exact LineKind.ofWords_of_keyword hKeyword
  have hHead : blockHead line.words.tail = (written.name, body ++ [['}']]) := by
    rw [h, List.append_assoc]
    exact written.blockHead_nameWords_append _
  have hCloser : withoutCloser (body ++ [['}']]) = body := by simp [withoutCloser]
  have hne : body ++ [['}']] ≠ [] := by simp
  obtain ⟨inner, more, hBody⟩ := List.exists_cons_of_ne_nil hne
  rw [hBody] at hHead hCloser
  simp [blockOnLine?, hKind, hHead, hCloser, WrittenHeader.header]

namespace Session

variable (session : Session)

/-- A block with its body is rendered around what its body is rendered to, and leaves the state that
its body leaves. -/
lemma renderLine_of_blockOnLine? {line body : Text} {header : Header}
    (h : blockOnLine? line = some (header, body)) :
    session.renderLine (some line)
      = (some (framed [header] ((session.renderLine (some body)).1.getD [])),
          (session.renderLine (some body)).2) := by
  rw [renderLine_eq, renderLine_eq, Statement.ofLine_of_blockOnLine? h, framed_cons, framed_nil]
  rfl

/-- **Blocks on one line are rendered inside out.**  A line with headers, any body and as many
closing braces gives the openings of the headers, what the body is rendered to as a line of its own,
and the closing braces. A body without words, or one that leaves no line, leaves nothing between
them. The state afterwards is the one that the body leaves. -/
theorem renderLine_nestedWords {heads : List WrittenHeader} {body : List Text} {line : Text}
    (hHeads : heads ≠ []) (hLine : line.words = nestedWords heads body) :
    session.renderLine (some line)
        = (some (framed (heads.map WrittenHeader.header)
              ((session.renderLine (some (unwords body))).1.getD [])),
            (session.renderLine (some (unwords body))).2) ∧
      (body = [] → (session.renderLine (some (unwords body))).1.getD [] = [] ∧
        (session.renderLine (some (unwords body))).2 = session) := by
  constructor
  · induction heads generalizing line with
    | nil => exact absurd rfl hHeads
    | cons written heads ih =>
      rw [nestedWords_cons] at hLine
      rw [session.renderLine_of_blockOnLine? (blockOnLine?_of_words_eq hLine)]
      cases heads with
      | nil => rw [nestedWords_nil, List.map_singleton]
      | cons next others =>
        -- the body is cut into the words that it was joined from
        have hWords : (unwords (nestedWords (next :: others) body)).words
            = nestedWords (next :: others) body := by
          refine words_unwords fun w hw => ?_
          have hMem : w ∈ line.words := by
            rw [hLine]
            exact List.mem_append_left _ (List.mem_append_right _ hw)
          exact isWord_of_mem_words hMem
        rw [ih (List.cons_ne_nil _ _) hWords, Option.getD_some, framed_cons, framed_nil,
          List.map_cons, ← framed_cons]
        rfl
  · rintro rfl
    have hNothing : Statement.ofLine (some (unwords [])) = .nothing := by
      simp [Statement.ofLine, Statement.ofWords]
    rw [renderLine_of_ofLine hNothing rfl]
    refine ⟨?_, rfl⟩
    cases hStrip : session.options.stripEmptyLines <;> simp [Statement.render, hStrip]

/-- A package that is named three blocks deep, and how the braces stand to the names. -/
theorem renderLine_nestedWords_package :
    let heads : List WrittenHeader :=
      [⟨.message, ['A'], true, by decide⟩, ⟨.enum, ['B'], false, by decide⟩,
        ⟨.service, "C.D".toList, true, by decide⟩]
    let line : Text :=
      "message A\x7b\tenum  B \x7b service C.D\x7b package x.y; \x7d \x7d\n\x7d".toList
    let session : Session := {}
    (heads ≠ [] ∧ line.words = nestedWords heads ["package".toList, "x.y;".toList]) ∧
      session.renderLine (some line)
        = (some ("export interface A \x7bexport enum B \x7bexport interface C.D \x7b"
            ++ "export namespace XY \x7b\x7d\x7d\x7d").toList,
          { session with inNamespace := true }) := by
  intro heads line session
  have hWords : line.words = nestedWords heads ["package".toList, "x.y;".toList] := by
    decide +kernel
  refine ⟨⟨List.cons_ne_nil _ _, hWords⟩, ?_⟩
  rw [(session.renderLine_nestedWords (List.cons_ne_nil _ _) hWords).1]
  decide +kernel

end Session

end ProtoTypings
