import ProtoTypings.Proofs.InsideOut
import ProtoTypings.Proofs.Spacing.Words

/-!
# How deep the rendering of a line goes

The body of a block on one line is joined to a line of its own, and that line is rendered by the
same session. So the rendering of lines calls itself on lines that are no part of the line it is
working on, and all that can make it end is that the words of the body are found again on the joined
line (`Text.words_unwords_iff`).

To speak about the calls, `Session.lineVia` and `Session.blockVia` render a line and a block with
the recursion left open: lines inside are handed to whatever renderer they are given. Handed to the
session itself, this is the rendering of lines (`Session.lineVia_renderLine`). Handed on with a
limit and a log, it shows every call: `Session.run_renderWithin` says exactly which calls are made,
and that the limit is enough just if it exceeds their number.

The main statement is `Session.renderLine_calls`. Every call is on a line that is neither blank
nor removed, whose words are successive words of the line around it and at least two less. So a line
of `n` words is rendered with at most `n / 2 + 1` renderings inside each other, however its braces
are placed.
-/

namespace ProtoTypings

open Text

/-- **Exactly lists of words survive being joined and cut again.** -/
lemma Text.words_unwords_iff {ws : List Text} : words (unwords ws) = ws ↔ ∀ w ∈ ws, IsWord w := by
  constructor
  · intro h w hw
    exact isWord_of_mem_words (h.symm ▸ hw)
  · exact words_unwords

/-- The words of a line; a removed line has none. -/
def lineWords : Option Text → List Text
  | none => []
  | some line => line.words

/-! ## Rendering with the recursion left open -/

namespace Session

section Via

variable {m : Type → Type} [Monad m] (session : Session)
  (call : Option Text → m (Option Text × Session))

/-- Renders a block from the words of its line. The words of its body, if there are any, are joined
to a line and handed to `call`. -/
def blockVia (block : Block) (words : List Text) : m (Option Text × Session) :=
  match blockHead words.tail with
  | (name, []) => return (some (block.opening name), session)
  | (name, inner :: more) =>
    match withoutCloser (inner :: more) with
    | [] => return (some (block.opening name ++ ['\x7d']), session)
    | word :: later => do
      let (inside, after) ← call (some (unwords (word :: later)))
      return (some (block.opening name ++ inside.getD [] ++ ['\x7d']), after)

/-- Renders a line, `none` for a removed one. A line inside it is handed to `call`. -/
def lineVia (line : Option Text) : m (Option Text × Session) :=
  let classified := ClassifiedLine.of line
  match classified.kind with
  | .blank => return (session.emptyLine, session)
  | .removed => return (session.emptyLine, session)
  | .keyword .comment =>
    return (if session.options.keepComments then some classified.text else none, session)
  | .keyword .close => return (some ['\x7d'], session)
  | .keyword (.block block) => session.blockVia call block classified.words
  | .keyword .method => return (some (methodLine session.options classified.text), session)
  | .keyword .package =>
    return (some (packageOpening (packageName classified.words.tail)),
      { session with inNamespace := true })
  | .member label =>
    return ((Statement.member label classified.words).render session.options session.dialect,
      session)

end Via

end Session

/-- The block that a line holds with its body, where the body has words. -/
def innerBlock? (line : Option Text) : Option (Header × Text) :=
  (line.bind blockOnLine?).filter fun found => found.2.words ≠ []

lemma innerBlock?_eq_some_iff {line : Option Text} {header : Header} {body : Text} :
    innerBlock? line = some (header, body) ↔
      ∃ text, line = some text ∧ blockOnLine? text = some (header, body) ∧ body.words ≠ [] := by
  rw [innerBlock?, Option.filter_eq_some_iff, Option.bind_eq_some_iff]
  simp only [decide_eq_true_eq]
  constructor
  · rintro ⟨⟨text, rfl, hBlock⟩, hWords⟩
    exact ⟨text, rfl, hBlock, hWords⟩
  · rintro ⟨text, rfl, hBlock, hWords⟩
    exact ⟨⟨text, rfl, hBlock⟩, hWords⟩

lemma innerBlock?_of_withoutCloser {text name inner : Text} {more : List Text} {block : Block}
    (hKeyword : leadingKeyword? text = some (.block block))
    (hHead : blockHead text.words.tail = (name, inner :: more))
    (hBody : withoutCloser (inner :: more) ≠ []) :
    innerBlock? (some text) = some (⟨block, name⟩, unwords (withoutCloser (inner :: more))) := by
  have hKind := LineKind.ofWords_eq_keyword_iff.2 ⟨rfl, hKeyword⟩
  have hBlock : blockOnLine? text
      = some (⟨block, name⟩, unwords (withoutCloser (inner :: more))) := by
    simp [blockOnLine?, hKind, hHead]
  have hJoined := words_unwords_body
    (fun _ hw => isWord_of_mem_words (List.mem_of_mem_tail hw)) hHead
  exact innerBlock?_eq_some_iff.2 ⟨text, rfl, hBlock, hJoined.symm ▸ hBody⟩

namespace Session

variable {m : Type → Type} [Monad m] (session : Session)
  (call : Option Text → m (Option Text × Session))

/-- A line that holds a body with words is rendered by one call, on the body. -/
lemma lineVia_of_some {line : Option Text} {header : Header} {body : Text}
    (h : innerBlock? line = some (header, body)) :
    session.lineVia call line = do
      let rendered ← call (some body)
      return (some (framed [header] (rendered.1.getD [])), rendered.2) := by
  obtain ⟨text, rfl, hBlock, hWords⟩ := innerBlock?_eq_some_iff.1 h
  obtain ⟨hKeyword, inner, more, hHead, hBody⟩ := blockOnLine?_eq_some hBlock
  have hKind := LineKind.ofWords_eq_keyword_iff.2 ⟨rfl, hKeyword⟩
  obtain ⟨word, later, hGiven⟩ := List.exists_cons_of_ne_nil hWords
  have hJoined : unwords (word :: later) = body := hGiven ▸ (eq_unwords_of_blockOnLine? hBlock).symm
  rw [hBody] at hGiven
  simp only [lineVia, ClassifiedLine.of, hKind, blockVia, hHead, hGiven, hJoined, framed_cons,
    framed_nil]
  rfl

/-- Any other line is rendered without a call. -/
lemma lineVia_of_none {line : Option Text} (h : innerBlock? line = none) :
    session.lineVia call line = pure (session.renderLine line) := by
  cases line with
  | none => rfl
  | some text =>
    rw [renderLine, renderText]
    simp only [lineVia, ClassifiedLine.of]
    rcases hKind : LineKind.ofWords text.words with ⟨kind, kept⟩
    cases kind with
    | blank => rfl
    | removed => rfl
    | member label => rfl
    | keyword announced =>
      obtain ⟨rfl, hKeyword⟩ := LineKind.ofWords_eq_keyword_iff.1 hKind
      cases announced with
      | comment => rfl
      | close => rfl
      | method => rfl
      | package => rfl
      | block block =>
        dsimp only
        rw [blockVia]
        rcases hHead : blockHead text.words.tail with ⟨name, _ | ⟨inner, more⟩⟩
        · rfl
        · dsimp only
          rcases hBody : withoutCloser (inner :: more) with _ | ⟨word, later⟩
          · rfl
          · -- a body with words is what the hypothesis rules out
            have hSome := innerBlock?_of_withoutCloser hKeyword hHead (by simp [hBody])
            rw [h] at hSome
            cases hSome

/-- **The session itself is what the open recursion describes**: it renders a line as `lineVia` does
when lines inside are rendered by the session. -/
lemma lineVia_renderLine (line : Option Text) :
    Id.run (session.lineVia (fun inner => pure (session.renderLine inner)) line)
      = session.renderLine line := by
  cases h : innerBlock? line with
  | none =>
    rw [lineVia_of_none session _ h]
    rfl
  | some found =>
    obtain ⟨text, rfl, hBlock, -⟩ := innerBlock?_eq_some_iff.1 h
    rw [lineVia_of_some session _ h, renderLine_of_blockOnLine? session hBlock]
    rfl

end Session

/-! ## The calls -/

/-- A call that the rendering of one line makes for another. -/
structure InnerCall where
  /-- The line that is being rendered. -/
  outer : Option Text
  /-- The line that is handed over. -/
  inner : Option Text
  deriving DecidableEq, Repr

namespace InnerCall

/-- The words that the outer line has for the body of a block: those behind the header, without a
closing brace at their end. -/
def given (call : InnerCall) : List Text :=
  withoutCloser (blockHead (lineWords call.outer).tail).2

/-- What holds of every call. The line handed over is joined from the words given for it, finds them
again, and has at least one; they are successive words of the outer line, which has two more. -/
structure IsOnBody (call : InnerCall) : Prop where
  inner_eq : call.inner = some (unwords call.given)
  words_inner : lineWords call.inner = call.given
  given_ne_nil : call.given ≠ []
  given_isInfix : call.given <:+: lineWords call.outer
  length_add_two_le : (lineWords call.inner).length + 2 ≤ (lineWords call.outer).length

end InnerCall

lemma blockHead_isSuffix (words : List Text) : (blockHead words).2 <:+ words := by
  cases words with
  | nil => exact List.suffix_rfl
  | cons name later =>
    rw [blockHead]
    split
    · exact List.suffix_cons name later
    · exact (List.drop_suffix 1 later).trans (List.suffix_cons name later)

lemma withoutCloser_isPrefix (words : List Text) : withoutCloser words <+: words := by
  rw [withoutCloser]
  split
  · exact List.dropLast_prefix words
  · exact List.prefix_rfl

/-- **One call**: what a line hands over is the body of its block. -/
lemma isOnBody_of_innerBlock? {line : Option Text} {header : Header} {body : Text}
    (h : innerBlock? line = some (header, body)) : InnerCall.IsOnBody ⟨line, some body⟩ := by
  obtain ⟨text, rfl, hBlock, hWords⟩ := innerBlock?_eq_some_iff.1 h
  obtain ⟨-, inner, more, hHead, hBody⟩ := blockOnLine?_eq_some hBlock
  have hGiven : InnerCall.given ⟨some text, some body⟩ = body.words := by
    rw [InnerCall.given, lineWords, hHead, hBody]
  have hSuffix := (blockHead_isSuffix text.words.tail).trans (List.tail_suffix text.words)
  exact {
    inner_eq := by rw [hGiven, ← eq_unwords_of_blockOnLine? hBlock]
    words_inner := hGiven.symm
    given_ne_nil := hGiven ▸ hWords
    given_isInfix := (withoutCloser_isPrefix _).isInfix.trans hSuffix.isInfix
    length_add_two_le := length_words_body hBlock }

/-- The calls that the rendering of a line makes, each inside the one before it. -/
def innerCalls (line : Option Text) : List InnerCall :=
  match _h : innerBlock? line with
  | none => []
  | some (_, body) => ⟨line, some body⟩ :: innerCalls (some body)
termination_by (lineWords line).length
decreasing_by
  have := (isOnBody_of_innerBlock? _h).length_add_two_le
  dsimp only at this ⊢
  omega

lemma innerCalls_of_none {line : Option Text} (h : innerBlock? line = none) :
    innerCalls line = [] := by
  rw [innerCalls]
  split
  · rfl
  · next hSome => simp [h] at hSome

lemma innerCalls_of_some {line : Option Text} {header : Header} {body : Text}
    (h : innerBlock? line = some (header, body)) :
    innerCalls line = ⟨line, some body⟩ :: innerCalls (some body) := by
  rw [innerCalls]
  split
  · next hNone => simp [h] at hNone
  · next hSome =>
    obtain ⟨-, rfl⟩ := Prod.mk.inj (Option.some.inj (h.symm.trans hSome))
    rfl

/-- **Every call** is on the body of the line that makes it. -/
lemma isOnBody_of_mem_innerCalls {line : Option Text} {call : InnerCall}
    (h : call ∈ innerCalls line) : call.IsOnBody := by
  fun_induction innerCalls line with
  | case1 line hNone => cases h
  | case2 line header body hSome ih =>
    rcases List.mem_cons.1 h with rfl | h
    · exact isOnBody_of_innerBlock? hSome
    · exact ih h

/-- Each call uses up two words. -/
lemma two_mul_length_innerCalls_le (line : Option Text) :
    2 * (innerCalls line).length ≤ (lineWords line).length := by
  fun_induction innerCalls line with
  | case1 line hNone => exact Nat.zero_le _
  | case2 line header body hSome ih =>
    have hShorter := (isOnBody_of_innerBlock? hSome).length_add_two_le
    dsimp only at hShorter
    rw [List.length_cons]
    omega

namespace Session

/-- Renders a line with at most `limit` renderings inside each other, its own included, and adds the
calls it makes to a log. There is no answer where the limit is not enough. -/
def renderWithin (session : Session) :
    (limit : Nat) → Option Text → StateT (List InnerCall) Option (Option Text × Session)
  | 0, _ => failure
  | limit + 1, line => session.lineVia
    (fun inner => do
      modify (· ++ [⟨line, inner⟩])
      renderWithin session limit inner) line

/-- **The calls of a rendering**: they are `innerCalls`, and the limit is enough if it exceeds their
number, and only then. -/
lemma run_renderWithin (session : Session) (limit : Nat) (line : Option Text)
    (log : List InnerCall) :
    (session.renderWithin limit line).run log
      = if (innerCalls line).length < limit then
          some (session.renderLine line, log ++ innerCalls line)
        else none := by
  induction limit generalizing line log with
  | zero => rfl
  | succ limit ih =>
    rw [renderWithin]
    cases h : innerBlock? line with
    | none =>
      rw [lineVia_of_none session _ h, innerCalls_of_none h]
      simp
    | some found =>
      obtain ⟨header, body⟩ := found
      obtain ⟨text, rfl, hBlock, -⟩ := innerBlock?_eq_some_iff.1 h
      rw [lineVia_of_some session _ h, innerCalls_of_some h,
        renderLine_of_blockOnLine? session hBlock]
      have hInside := ih (some body) (log ++ [⟨some text, some body⟩])
      by_cases hLimit : (innerCalls (some body)).length < limit
      · rw [if_pos hLimit] at hInside
        simp [hInside, hLimit]
      · rw [if_neg hLimit] at hInside
        simp [hInside, hLimit]

/-- **The rendering of a line ends, however its braces are placed.**  Exactly lists of words survive
being joined and cut again. So rendering a line, in any session, makes finitely many calls, each
inside the one before it and each on the body of the line that makes it, which is neither blank nor
removed and has at least two words less. Together with the rendering of the line itself these are at
most `n / 2 + 1` renderings inside each other for a line of `n` words, and a limit of so many gives
what the session renders. -/
theorem renderLine_calls (line : Option Text) :
    (∀ ws : List Text, (unwords ws).words = ws ↔ ∀ w ∈ ws, IsWord w) ∧
    (∀ session : Session,
      Id.run (session.lineVia (fun inner => pure (session.renderLine inner)) line)
        = session.renderLine line) ∧
    ∃ calls : List InnerCall,
      (∀ (session : Session) (limit : Nat) (log : List InnerCall),
        (session.renderWithin limit line).run log
          = if calls.length < limit then some (session.renderLine line, log ++ calls) else none) ∧
      (∀ call ∈ calls, call.IsOnBody) ∧
      calls.length + 1 ≤ (lineWords line).length / 2 + 1 := by
  refine ⟨fun ws => words_unwords_iff, fun session => session.lineVia_renderLine line,
    innerCalls line, fun session limit log => session.run_renderWithin limit line log,
    fun call hCall => isOnBody_of_mem_innerCalls hCall, ?_⟩
  have hTwice := two_mul_length_innerCalls_le line
  omega

/-- Two blocks that nothing closes, the first one without a name. The bound is reached: a limit of
two is not enough. -/
theorem renderLine_calls_of_unclosed_blocks :
    let ws : List Text := ["message".toList, ['\x7b'], "enum".toList, "B\x7b".toList, ['x']]
    let line := some (unwords ws)
    let session : Session := {}
    (∀ w ∈ ws, IsWord w) ∧ lineWords line = ws ∧ ws.length / 2 + 1 = 3 ∧
      (session.renderWithin 2 line).run [] = none ∧
      ∃ calls : List InnerCall, calls.length = 2 ∧ (∀ call ∈ calls, call.IsOnBody) ∧
        (session.renderWithin 3 line).run [] = some (session.renderLine line, calls) := by
  intro ws line session
  obtain ⟨hJoin, -, calls, hRun, hCalls, hBound⟩ := renderLine_calls line
  have hWords : ∀ w ∈ ws, IsWord w := by decide
  have hLine : lineWords line = ws := (hJoin ws).2 hWords
  have hBoundEq : ws.length / 2 + 1 = 3 := by decide
  have hTooDeep : (session.renderWithin 2 line).run [] = none := by decide +kernel
  have hLength : calls.length = 2 := by
    rw [hRun] at hTooDeep
    rw [hLine, hBoundEq] at hBound
    have hMany : ¬ calls.length < 2 := by simpa using hTooDeep
    omega
  refine ⟨hWords, hLine, hBoundEq, hTooDeep, calls, hLength, hCalls, ?_⟩
  rw [hRun, if_pos (by omega), List.nil_append]

end Session

end ProtoTypings
