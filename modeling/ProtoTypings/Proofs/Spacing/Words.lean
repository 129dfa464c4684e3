import ProtoTypings.Proofs.Nesting
import ProtoTypings.Proofs.Spacing.Methods

/-!
# Lines with the same words

Lines that have the same words differ in the blanks at their ends and between their words only. They
say the same (`Statement.ofLine_of_words_eq`), although a method is read from the text of its line
and not from its words. The reason is that a method that is written in a text is written in every
respaced text too, in another spacing: the parts of a method that need a blank between them have one
in both texts, and parts that stand in one word in the first text stand in one word in the other
(`Method.exists_written_of_respaced`).

The main statement is `Session.renderLine_of_words_eq`.
-/

namespace ProtoTypings

open Text

/-! ## Respaced texts -/

namespace Text

lemma attached_append {front : Text} (h : ∀ c ∈ front, isBlank c = false) (rest : Text) :
    attached (front ++ rest) = front ++ attached rest :=
  List.takeWhile_append_of_pos (by simpa using h)

lemma following_append {front : Text} (h : ∀ c ∈ front, isBlank c = false) (rest : Text) :
    following (front ++ rest) = following rest := by
  rw [following, List.dropWhile_append_of_pos (by simpa using h)]
  rfl

lemma IsWord.attached_ne_nil {word : Text} (h : IsWord word) (rest : Text) :
    attached (word ++ rest) ≠ [] := by
  rw [attached_append h.2]
  exact List.append_ne_nil_of_left_ne_nil h.1 _

lemma attached_ne_nil_iff {text : Text} : attached text ≠ [] ↔ text ≠ [] ∧ NotBlankAhead text := by
  cases text with
  | nil => simp [attached]
  | cons c rest => simp [attached, NotBlankAhead, List.takeWhile_cons]

/-- A text that begins in a word has this word for its first. -/
lemma words_of_attached_ne_nil {text : Text} (h : attached text ≠ []) :
    words text = attached text :: following text := by
  obtain ⟨hNil, hAhead⟩ := attached_ne_nil_iff.1 h
  obtain ⟨c, rest, rfl⟩ := List.exists_cons_of_ne_nil hNil
  have hFront : IsWord [c] := ⟨by simp, by simpa [NotBlankAhead] using hAhead⟩
  have hWords := words_append_attached hFront rest
  rwa [← attached_append hFront.2, ← following_append hFront.2] at hWords

/-- Whether two texts differ in their blanks only: they begin in the same word, or in none, and have
the same words after it. -/
structure Respaced (text other : Text) : Prop where
  attached : attached text = attached other
  following : following text = following other

namespace Respaced

variable {text other front rest : Text}

lemma symm (h : Respaced text other) : Respaced other text :=
  ⟨h.attached.symm, h.following.symm⟩

/-- A text that begins in a word is respaced to what stands behind the first blanks of any text with
the same words. -/
lemma of_words_eq (h : text.words = other.words) (hText : Text.attached text ≠ []) :
    Respaced text (skipBlanks other) := by
  have hWords : text.words = (skipBlanks other).words := by
    obtain ⟨-, gap, hOther⟩ := skipBlanks_eq_iff.1 (rfl : skipBlanks other = _)
    rw [hOther, words_blanks gap.2] at h
    exact h
  have hNil : skipBlanks other ≠ [] := by
    intro hNil
    rw [words_of_attached_ne_nil hText, hNil] at hWords
    simp at hWords
  have hOther : Text.attached (skipBlanks other) ≠ [] :=
    attached_ne_nil_iff.2 ⟨hNil, notBlankAhead_skipBlanks other⟩
  rw [words_of_attached_ne_nil hText, words_of_attached_ne_nil hOther] at hWords
  exact ⟨(List.cons.inj hWords).1, (List.cons.inj hWords).2⟩

lemma words_eq (h : Respaced text other) : text.words = other.words := by
  by_cases hText : Text.attached text = []
  · have hOther : Text.attached other = [] := h.attached ▸ hText
    rw [← following_eq_words hText, ← following_eq_words hOther, h.following]
  · have hOther : Text.attached other ≠ [] := h.attached ▸ hText
    rw [words_of_attached_ne_nil hText, words_of_attached_ne_nil hOther, h.attached, h.following]

/-- What stands in a word at the front stands there in a respaced text. -/
lemma exists_append (h : Respaced (front ++ rest) other) (hFront : ∀ c ∈ front, isBlank c = false) :
    ∃ later, other = front ++ later ∧ Respaced rest later := by
  have hAttached : front ++ Text.attached rest = Text.attached other :=
    (attached_append hFront rest).symm.trans h.attached
  let later := Text.attached rest ++ other.dropWhile fun c => !isBlank c
  have hOther : other = front ++ later := by
    rw [← List.append_assoc, hAttached]
    exact List.takeWhile_append_dropWhile.symm
  refine ⟨later, hOther, List.append_cancel_left (?_ : front ++ _ = front ++ _), ?_⟩
  · rw [← attached_append hFront later, ← hOther, hAttached]
  · rw [← following_append hFront rest, ← following_append hFront later, ← hOther, h.following]

/-- Where blanks stand in front of a word, blanks stand in a respaced text. -/
lemma exists_someBlanks {gap : SomeBlanks} (h : Respaced (gap.1 ++ rest) other)
    (hRest : Text.attached rest ≠ []) :
    ∃ (between : SomeBlanks) (later : Text), other = between.1 ++ later ∧ Respaced rest later := by
  have hAttached : Text.attached (gap.1 ++ rest) = [] := by
    obtain ⟨c, blanks, hGap⟩ := List.exists_cons_of_ne_nil gap.2.1
    have hc : isBlank c = true := gap.2.2 c (hGap ▸ List.mem_cons_self)
    simp [hGap, Text.attached, hc]
  have hLater : Respaced rest (skipBlanks other) :=
    of_words_eq ((words_blanks gap.2.2 rest).symm.trans h.words_eq) hRest
  obtain ⟨-, between, hOther⟩ := skipBlanks_eq_iff.1 (rfl : skipBlanks other = _)
  refine ⟨⟨between.1, ?_, between.2⟩, skipBlanks other, hOther, hLater⟩
  -- without a blank the respaced text would begin in a word
  intro hBetween
  rw [hBetween, List.nil_append] at hOther
  rw [← hOther] at hLater
  exact hRest (hLater.attached.trans (h.attached.symm.trans hAttached))

/-- Blanks that may be left out are respaced to such. -/
lemma exists_blanks {gap : Blanks} (h : Respaced (gap.1 ++ rest) other)
    (hRest : Text.attached rest ≠ []) :
    ∃ (between : Blanks) (later : Text), other = between.1 ++ later ∧ Respaced rest later := by
  by_cases hGap : gap.1 = []
  · rw [hGap, List.nil_append] at h
    exact ⟨⟨[], by simp⟩, other, rfl, h⟩
  · let someGap : SomeBlanks := ⟨gap.1, hGap, gap.2⟩
    have hSome : Respaced (someGap.1 ++ rest) other := h
    obtain ⟨between, later, hOther, hLater⟩ := hSome.exists_someBlanks hRest
    exact ⟨⟨between.1, between.2.2⟩, later, hOther, hLater⟩

end Respaced

end Text

/-! ## Methods -/

lemma Payload.attached_written_ne_nil (payload : Payload) (spacing : Payload.Spacing)
    (rest : Text) :
    attached (payload.written spacing ++ rest) ≠ [] := by
  rw [written_append]
  exact (by decide : IsWord ['(']).attached_ne_nil _

/-- **A payload is written in a respaced text.** -/
lemma Payload.exists_written_of_respaced {payload : Payload} {spacing : Payload.Spacing}
    {rest other : Text} (hType : IsType payload.type)
    (h : Respaced (payload.written spacing ++ rest) other) :
    ∃ (otherSpacing : Payload.Spacing) (later : Text),
      other = payload.written otherSpacing ++ later ∧ Respaced rest later := by
  obtain ⟨opening, mark, closing⟩ := spacing
  obtain ⟨type, streamed⟩ := payload
  have hOpen : IsWord ['('] := by decide
  have hClose : IsWord [')'] := by decide
  -- behind the mark, or without one, both texts go on in the same way
  have hTyped : ∀ {other : Text}, Respaced (type ++ (closing.1 ++ ([')'] ++ rest))) other →
      ∃ (otherClosing : Blanks) (later : Text),
        other = type ++ (otherClosing.1 ++ ([')'] ++ later)) ∧ Respaced rest later := by
    intro other hAtType
    obtain ⟨afterType, rfl, hAfterType⟩ := hAtType.exists_append hType.isWord.2
    obtain ⟨otherClosing, atClose, rfl, hAtClose⟩ :=
      hAfterType.exists_blanks (hClose.attached_ne_nil rest)
    obtain ⟨later, rfl, hLater⟩ := hAtClose.exists_append hClose.2
    exact ⟨otherClosing, later, rfl, hLater⟩
  rw [written_append] at h
  obtain ⟨afterOpen, rfl, hAfterOpen⟩ := h.exists_append hOpen.2
  cases streamed with
  | false =>
    obtain ⟨otherOpening, atType, rfl, hAtType⟩ :=
      hAfterOpen.exists_blanks (hType.isWord.attached_ne_nil _)
    obtain ⟨otherClosing, later, rfl, hLater⟩ := hTyped hAtType
    let otherSpacing : Spacing := ⟨otherOpening, mark, otherClosing⟩
    exact ⟨otherSpacing, later, (written_append ⟨type, false⟩ otherSpacing later).symm, hLater⟩
  | true =>
    have hMark : IsWord "stream".toList := by decide
    simp only [if_true, List.append_assoc] at hAfterOpen
    obtain ⟨otherOpening, atMark, rfl, hAtMark⟩ :=
      hAfterOpen.exists_blanks (hMark.attached_ne_nil _)
    obtain ⟨afterMark, rfl, hAfterMark⟩ := hAtMark.exists_append hMark.2
    obtain ⟨otherMark, atType, rfl, hAtType⟩ :=
      hAfterMark.exists_someBlanks (hType.isWord.attached_ne_nil _)
    obtain ⟨otherClosing, later, rfl, hLater⟩ := hTyped hAtType
    let otherSpacing : Spacing := ⟨otherOpening, otherMark, otherClosing⟩
    exact ⟨otherSpacing, later, (written_append ⟨type, true⟩ otherSpacing later).symm, hLater⟩

namespace Method

/-- **A method is written in a respaced text.** -/
lemma exists_written_of_respaced {method : Method} {spacing : Method.Spacing} {tail other : Text}
    (hWritable : method.IsWritable) (h : Respaced (method.written spacing ++ tail) other) :
    ∃ (otherSpacing : Method.Spacing) (otherTail : Text),
      other = method.written otherSpacing ++ otherTail := by
  have hRpc : IsWord "rpc".toList := by decide
  have hReturns : IsWord "returns".toList := by decide
  rw [written_append] at h
  obtain ⟨afterRpc, rfl, hAfterRpc⟩ := h.exists_append hRpc.2
  obtain ⟨keyword, atName, rfl, hAtName⟩ :=
    hAfterRpc.exists_someBlanks (hWritable.name.isWord.attached_ne_nil _)
  obtain ⟨afterName, rfl, hAfterName⟩ := hAtName.exists_append hWritable.name.isWord.2
  obtain ⟨name, atRequest, rfl, hAtRequest⟩ :=
    hAfterName.exists_blanks (Payload.attached_written_ne_nil _ _ _)
  obtain ⟨request, behindRequest, rfl, hBehindRequest⟩ :=
    Payload.exists_written_of_respaced hWritable.request hAtRequest
  obtain ⟨afterRequest, atReturns, rfl, hAtReturns⟩ :=
    hBehindRequest.exists_blanks (hReturns.attached_ne_nil _)
  obtain ⟨afterReturns, rfl, hAfterReturns⟩ := hAtReturns.exists_append hReturns.2
  obtain ⟨returns, atResponse, rfl, hAtResponse⟩ :=
    hAfterReturns.exists_blanks (Payload.attached_written_ne_nil _ _ _)
  obtain ⟨response, otherTail, rfl, -⟩ :=
    Payload.exists_written_of_respaced hWritable.response hAtResponse
  let otherSpacing : Spacing := ⟨keyword, name, request, afterRequest, returns, response⟩
  exact ⟨otherSpacing, otherTail, (written_append method otherSpacing otherTail).symm⟩

lemma read?_of_respaced {text other : Text} (h : Respaced text other) :
    read? text = read? other := by
  have hRead : ∀ {text other : Text} (method : Method), Respaced text other →
      read? text = some method → read? other = some method := by
    intro text other method h hMethod
    obtain ⟨hWritable, spacing, tail, rfl⟩ := read?_eq_some_iff.1 hMethod
    exact read?_eq_some_iff.2 ⟨hWritable, exists_written_of_respaced hWritable h⟩
  exact Option.ext fun method => ⟨hRead method h, hRead method h.symm⟩

/-- **A method is found in a line as in every other line with the same words.** -/
lemma find?_of_words_eq {line other : Text} (h : line.words = other.words) :
    find? line = find? other := by
  induction line generalizing other with
  | nil =>
    have hBlanks := find?_blanks (words_eq_nil_iff.1 h.symm) []
    rw [List.append_nil] at hBlanks
    exact hBlanks.symm
  | cons c rest ih =>
    cases hc : isBlank c with
    | true =>
      have hFind : find? (c :: rest) = find? rest :=
        find?_blanks (List.forall_mem_singleton.2 hc) rest
      exact hFind.trans (ih ((words_blank hc rest).symm.trans h))
    | false =>
      have hFront : IsWord [c] := ⟨by simp, by simpa using hc⟩
      have hRespaced : Respaced ([c] ++ rest) (skipBlanks other) :=
        Respaced.of_words_eq h (hFront.attached_ne_nil rest)
      obtain ⟨later, hLater, hRest⟩ := hRespaced.exists_append hFront.2
      have hFind : find? other = find? ([c] ++ later) := by
        obtain ⟨-, gap, hOther⟩ := skipBlanks_eq_iff.1 hLater
        rw [hOther, find?_blanks gap.2]
      have hRead : read? (c :: rest) = read? (c :: later) := by
        rw [hLater] at hRespaced
        exact read?_of_respaced hRespaced
      rw [hFind, find?, find?, List.singleton_append, leftmost?, leftmost?, hRead]
      cases read? (c :: later) with
      | some found => rfl
      | none => exact ih hRest.words_eq

end Method

/-! ## Statements -/

namespace Statement

/-- The statement that another line with the same words makes. Comments and lines in which no method
can be read keep the line that they stand on. -/
def onLine (line : Text) : Statement → Statement
  | .comment _ => .comment line
  | .unread _ => .unread line
  | statement => statement

@[simp]
lemma namesPackage_onLine (line : Text) (statement : Statement) :
    (statement.onLine line).namesPackage = statement.namesPackage := by
  cases statement <;> rfl

lemma onLine_member (line : Text) (label : Option Label) (words : List Text) :
    (member label words).onLine line = member label words := by
  rcases words with _ | ⟨type, _ | ⟨second, later⟩⟩
  · rfl
  · rfl
  · rw [member]
    split <;> rfl

/-- **Lines with the same words say the same.** -/
lemma ofLine_of_words_eq {line other : Text} (h : line.words = other.words) :
    ofLine (some other) = (ofLine (some line)).onLine other := by
  rw [ofLine, ofLine, ofWords_eq, ofWords_eq, ← h, ← Method.find?_of_words_eq h]
  rcases LineKind.ofWords line.words with ⟨kind, kept⟩
  cases kind with
  | blank => rfl
  | removed => rfl
  | member label => exact (onLine_member other label kept).symm
  | keyword announced =>
    cases announced with
    | comment => rfl
    | close => rfl
    | package => rfl
    | method =>
      dsimp only
      cases Method.find? line <;> rfl
    | block block =>
      -- the body stands on a line of its own that has single spaces in either case
      dsimp only
      rcases blockHead kept.tail with ⟨name, _ | ⟨inner, more⟩⟩ <;> rfl

end Statement

/-! ## Sessions -/

lemma eq_unwords_of_blockOnLine? {line body : Text} {header : Header}
    (h : blockOnLine? line = some (header, body)) : body = unwords body.words := by
  unfold blockOnLine? at h
  split at h
  · next block words hKind =>
    split at h
    · simp at h
    · next name inner more hHead =>
      obtain ⟨-, rfl⟩ := Prod.mk.inj (Option.some.inj h)
      obtain ⟨rfl, -⟩ := LineKind.ofWords_eq_keyword_iff.1 hKind
      rw [words_unwords_body
        (fun _ hw => isWord_of_mem_words (List.mem_of_mem_tail hw)) hHead]
  · simp at h

namespace Session

/-- Whether a line is left as it stands: it is a comment that is kept, or it begins with the keyword
of methods and no method is found in it. -/
def LeavesAsIs (session : Session) (line : Text) : Prop :=
  leadingKeyword? line = some .comment ∧ session.options.keepComments = true ∨
    leadingKeyword? line = some .method ∧ Method.find? line = none

instance (session : Session) (line : Text) : Decidable (session.LeavesAsIs line) :=
  inferInstanceAs (Decidable (_ ∨ _))

/-- A line that is not left as it stands does not show how it is spaced. -/
lemma render_onLine (session : Session) (line other : Text) :
    ((Statement.ofLine (some line)).onLine other).render session.options session.dialect
      = if session.LeavesAsIs line then some other
        else (Statement.ofLine (some line)).render session.options session.dialect := by
  have hRead := Statement.readFrom line
  generalize Statement.ofLine (some line) = statement at hRead
  cases hRead with
  | comment hKeyword =>
    cases hComments : session.options.keepComments <;>
      simp [LeavesAsIs, hKeyword, hComments, Statement.onLine, Statement.render]
  | unread hKeyword hNone =>
    simp [LeavesAsIs, hKeyword, hNone, Statement.onLine, Statement.render]
  | method hKeyword hFound =>
    simp [LeavesAsIs, hKeyword, hFound, Statement.onLine]
  | _ => simp [LeavesAsIs, Statement.onLine, *]

lemma renderLine_of_words (session : Session) {line other : Text} (h : line.words = other.words) :
    session.renderLine (some other)
      = (if session.LeavesAsIs line then some other else (session.renderLine (some line)).1,
          (session.renderLine (some line)).2) := by
  simp only [renderLine_eq, Statement.ofLine_of_words_eq h, render_onLine, afterStatement,
    Statement.namesPackage_onLine]

/-- **Only the words of a line matter.**  In lines with the same words the same method is found, or
none in both; a session renders both alike and is left in the same state by both, except that a line
which is left as it stands keeps its own blanks. So joining the words of a body by single spaces, to
render it on a line of its own, does not change what it says: a block is rendered around the line
that any text with the words of its body is rendered to. -/
theorem renderLine_of_words_eq (session : Session) :
    (∀ line other : Text, line.words = other.words →
      Method.find? other = Method.find? line ∧
      session.renderLine (some other)
        = (if session.LeavesAsIs line then some other else (session.renderLine (some line)).1,
            (session.renderLine (some line)).2)) ∧
    (∀ (line inside body : Text) (header : Header),
      blockOnLine? line = some (header, body) → body.words = inside.words →
        body = unwords inside.words ∧ Method.find? body = Method.find? inside ∧
        session.renderLine (some line)
          = (some (header.opening
              ++ (if session.LeavesAsIs inside then some body
                else (session.renderLine (some inside)).1).getD [] ++ ['}']),
              (session.renderLine (some inside)).2)) := by
  refine ⟨fun line other h => ⟨(Method.find?_of_words_eq h).symm, session.renderLine_of_words h⟩,
    fun line inside body header hBlock h => ?_⟩
  refine ⟨h ▸ eq_unwords_of_blockOnLine? hBlock, Method.find?_of_words_eq h, ?_⟩
  have hLine : session.renderLine (some line)
      = (some (header.opening ++ (session.renderLine (some body)).1.getD [] ++ ['}']),
          (session.renderLine (some body)).2) := by
    rw [renderLine_eq, renderLine_eq, Statement.ofLine_of_blockOnLine? hBlock]
    rfl
  rw [hLine, session.renderLine_of_words h.symm]

/-- A method is rendered alike in two spacings, one of which holds blanks that no ASCII text has. A
comment inside a block is left as it stands, on the line whose words are joined by single spaces. -/
theorem renderLine_of_words_eq_method_and_comment :
    let session : Session := { options := { keepComments := true } }
    let line : Text := "rpc\u2003Get( A )\treturns(stream  B );  ".toList
    let other : Text := " rpc Get( A ) returns(stream B );".toList
    let block : Text := "message A \x7b //\u3000left  right \x7d".toList
    let body : Text := "// left right".toList
    let inside : Text := "//  left\tright ".toList
    line.words = other.words ∧ ¬ session.LeavesAsIs line ∧
      session.renderLine (some other) = session.renderLine (some line) ∧
      blockOnLine? block = some (⟨.interface, ['A']⟩, body) ∧ body.words = inside.words ∧
      session.LeavesAsIs inside ∧
      session.renderLine (some block)
        = (some "export interface A \x7b// left right\x7d".toList, session) := by
  intro session line other block body inside
  have hWords : line.words = other.words := by decide
  have hMethod : ¬ session.LeavesAsIs line := by decide +kernel
  have hBlock : blockOnLine? block = some (⟨.interface, ['A']⟩, body) := by decide +kernel
  have hInside : body.words = inside.words := by decide
  have hComment : session.LeavesAsIs inside := by decide +kernel
  have hLine := ((renderLine_of_words_eq session).1 line other hWords).2
  have hRendered := ((renderLine_of_words_eq session).2 block inside body _ hBlock hInside).2.2
  rw [if_neg hMethod] at hLine
  rw [if_pos hComment] at hRendered
  refine ⟨hWords, hMethod, hLine, hBlock, hInside, hComment, hRendered.trans ?_⟩
  decide +kernel

end Session

end ProtoTypings
