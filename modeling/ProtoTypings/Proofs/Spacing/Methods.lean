import ProtoTypings.Proofs.Reading
import ProtoTypings.Schema.Method

/-!
# Methods in any spacing

How a method is written, with the blanks that its author chooses between the parts of the statement.
Reading undoes this, whatever the blanks are: `Method.read?_eq_some_iff` says that a method is read
at the front of a text exactly if it is written there. The readers of the parts have equations of
the same form, each of which says what the part may look like and that nothing else is read.

Two things have to be seen for this. A part ends where a character stands that it cannot hold, so it
is never read shorter than it was written. And a type that is called `stream` is not taken for the
mark, since a parenthesis follows it and not another type.

The main statement is `Method.find?_written`.
-/

namespace ProtoTypings

open Text

/-! ## Writing -/

/-- The blanks in a payload: behind the opening parenthesis, behind the mark `stream` where there is
one, and in front of the closing parenthesis. -/
structure Payload.Spacing where
  opening : Blanks
  mark : SomeBlanks
  closing : Blanks

/-- How a payload is written. -/
def Payload.written (payload : Payload) (spacing : Payload.Spacing) : Text :=
  ['('] ++ spacing.opening.1 ++ (if payload.streamed then "stream".toList ++ spacing.mark.1 else [])
    ++ payload.type ++ spacing.closing.1 ++ [')']

/-- The blanks in a method: behind the keyword, behind the name, behind the request and behind the
word `returns`, and those in its payloads. -/
structure Method.Spacing where
  keyword : SomeBlanks
  name : Blanks
  request : Payload.Spacing
  afterRequest : Blanks
  returns : Blanks
  response : Payload.Spacing

/-- How a method is written. -/
def Method.written (method : Method) (spacing : Method.Spacing) : Text :=
  "rpc".toList ++ spacing.keyword.1 ++ method.name ++ spacing.name.1
    ++ method.request.written spacing.request ++ spacing.afterRequest.1 ++ "returns".toList
    ++ spacing.returns.1 ++ method.response.written spacing.response

/-- Whether a text can be written as the type of a payload: it is a word without closing
parentheses. -/
structure Payload.IsType (type : Text) : Prop where
  isWord : IsWord type
  noParenthesis : ')' ∉ type

/-- Whether a text can be written as the name of a method: it is a word without opening
parentheses. -/
structure Method.IsName (name : Text) : Prop where
  isWord : IsWord name
  noParenthesis : '(' ∉ name

/-- Whether a method can be written. -/
structure Method.IsWritable (method : Method) : Prop where
  name : IsName method.name
  request : Payload.IsType method.request.type
  response : Payload.IsType method.response.type

/-! ## Payloads -/

namespace Payload

variable {text type rest : Text}

lemma IsType.isTypeChar (h : IsType type) : ∀ c ∈ type, isTypeChar c = true := by
  intro c hc
  have hParenthesis : c ≠ ')' := fun hEq => h.noParenthesis (hEq ▸ hc)
  simp [Payload.isTypeChar, h.isWord.2 c hc, hParenthesis]

lemma isType_of_isTypeChar (hNil : type ≠ []) (h : ∀ c ∈ type, isTypeChar c = true) :
    IsType type where
  isWord := by
    refine ⟨hNil, fun c hc => ?_⟩
    have hChar := h c hc
    simp only [isTypeChar, Bool.not_eq_true', Bool.or_eq_false_iff] at hChar
    exact hChar.2
  noParenthesis hMem := absurd (h ')' hMem) (by decide)

/-- A type goes on to a blank or to the parenthesis. -/
lemma IsType.span?_eq (h : IsType type) (gap : Blanks) (rest : Text) :
    (type ++ (gap.1 ++ ')' :: rest)).span? Payload.isTypeChar
      = some (type, gap.1 ++ ')' :: rest) := by
  refine span?_append h.isWord.1 h.isTypeChar fun c hc => ?_
  obtain ⟨_ | ⟨d, gap⟩, hGap⟩ := gap
  · obtain rfl := Option.some.inj hc
    decide
  · obtain rfl := Option.some.inj hc
    simp [Payload.isTypeChar, hGap d List.mem_cons_self]

lemma notBlankAhead_closing (rest : Text) : NotBlankAhead (')' :: rest) :=
  (by decide : IsWord [')']).notBlankAhead rest

lemma IsType.closed?_eq (h : IsType type) (gap : Blanks) (rest : Text) :
    closed? (type ++ (gap.1 ++ ')' :: rest)) = some (type, rest) := by
  simp [closed?, h.span?_eq, skipBlanks_gap gap (notBlankAhead_closing rest), after?]

/-- A type is read with the parenthesis behind it. -/
lemma closed?_eq_some_iff :
    closed? text = some (type, rest) ↔
      IsType type ∧ ∃ gap : Blanks, text = type ++ (gap.1 ++ ')' :: rest) := by
  constructor
  · intro h
    simp only [closed?, Option.bind_eq_bind, Option.bind_eq_some_iff, Prod.exists] at h
    obtain ⟨run, later, hRun, last, hLast, h⟩ := h
    obtain ⟨rfl, rfl⟩ := Prod.mk.inj (Option.some.inj h)
    obtain ⟨hNil, hChars, -, rfl⟩ := span?_eq_some_iff.1 hRun
    obtain ⟨-, gap, rfl⟩ := skipBlanks_eq_iff.1 (after?_eq_some_iff.1 hLast)
    exact ⟨isType_of_isTypeChar hNil hChars, gap, rfl⟩
  · rintro ⟨hType, gap, rfl⟩
    exact hType.closed?_eq gap rest

lemma IsType.marked?_eq (h : IsType type) (mark : SomeBlanks) (gap : Blanks) (rest : Text) :
    marked? ("stream".toList ++ (mark.1 ++ (type ++ (gap.1 ++ ')' :: rest))))
      = some (type, rest) := by
  simp only [marked?, after?_append, Option.bind_eq_bind, Option.bind_some,
    skipSomeBlanks?_gap mark (h.isWord.notBlankAhead _)]
  exact h.closed?_eq gap rest

/-- The mark is read with the type and the parenthesis behind it. -/
lemma marked?_eq_some_iff :
    marked? text = some (type, rest) ↔
      IsType type ∧ ∃ (mark : SomeBlanks) (gap : Blanks),
        text = "stream".toList ++ (mark.1 ++ (type ++ (gap.1 ++ ')' :: rest))) := by
  constructor
  · intro h
    simp only [marked?, Option.bind_eq_bind, Option.bind_eq_some_iff] at h
    obtain ⟨later, hLater, inside, hInside, h⟩ := h
    obtain ⟨hType, gap, rfl⟩ := closed?_eq_some_iff.1 h
    obtain ⟨-, mark, rfl⟩ := skipSomeBlanks?_eq_some_iff.1 hInside
    exact ⟨hType, mark, gap, after?_eq_some_iff.1 hLater⟩
  · rintro ⟨hType, mark, gap, rfl⟩
    exact hType.marked?_eq mark gap rest

lemma span?_mark (mark : SomeBlanks) (rest : Text) :
    Text.span? Payload.isTypeChar ("stream".toList ++ (mark.1 ++ rest))
      = some ("stream".toList, mark.1 ++ rest) := by
  have hMark : "stream".toList ≠ [] ∧ ∀ c ∈ "stream".toList, Payload.isTypeChar c = true := by
    decide
  refine span?_append hMark.1 hMark.2 fun c hc => ?_
  obtain ⟨_ | ⟨d, gap⟩, hNil, hGap⟩ := mark
  · exact absurd rfl hNil
  · obtain rfl := Option.some.inj hc
    simp [Payload.isTypeChar, hGap d List.mem_cons_self]

/-- A type is not taken for the mark, not even one that is called `stream`. -/
lemma IsType.marked?_eq_none (h : IsType type) (gap : Blanks) (rest : Text) :
    marked? (type ++ (gap.1 ++ ')' :: rest)) = none := by
  rw [Option.eq_none_iff_forall_ne_some]
  rintro ⟨other, last⟩ hMarked
  obtain ⟨hOther, mark, otherGap, hText⟩ := marked?_eq_some_iff.1 hMarked
  -- the word at the front is the mark in one reading and the type in the other
  have hSpan := span?_mark mark (other ++ (otherGap.1 ++ ')' :: last))
  rw [← hText, h.span?_eq] at hSpan
  have hRest := (Prod.mk.inj (Option.some.inj hSpan)).2
  -- behind the blanks the parenthesis would have to begin another type
  have hSkip := congrArg skipBlanks hRest
  rw [skipBlanks_gap gap (notBlankAhead_closing rest), skipBlanks_blanks mark.2.2,
    skipBlanks_append hOther.isWord] at hSkip
  obtain ⟨d, more, rfl⟩ := List.exists_cons_of_ne_nil hOther.isWord.1
  exact hOther.noParenthesis ((List.cons.inj hSkip).1 ▸ List.mem_cons_self)

lemma written_append (payload : Payload) (spacing : Payload.Spacing) (rest : Text) :
    payload.written spacing ++ rest = ['('] ++ (spacing.opening.1
      ++ ((if payload.streamed then "stream".toList ++ spacing.mark.1 else [])
        ++ (payload.type ++ (spacing.closing.1 ++ ')' :: rest)))) := by
  unfold written
  simp only [List.append_assoc]
  rfl

/-- **A payload is read exactly where it is written.** -/
lemma read?_eq_some_iff {payload : Payload} :
    read? text = some (payload, rest) ↔
      IsType payload.type ∧ ∃ spacing, text = payload.written spacing ++ rest := by
  constructor
  · intro h
    simp only [read?, Option.bind_eq_bind, Option.bind_eq_some_iff] at h
    obtain ⟨later, hLater, h⟩ := h
    obtain rfl : text = '(' :: later := after?_eq_some_iff.1 hLater
    obtain ⟨-, opening, hOpening⟩ := skipBlanks_eq_iff.1 (rfl : skipBlanks later = _)
    split at h
    · next type last hMarked =>
      obtain ⟨rfl, rfl⟩ := Prod.mk.inj (Option.some.inj h)
      obtain ⟨hType, mark, closing, hText⟩ := marked?_eq_some_iff.1 hMarked
      refine ⟨hType, ⟨opening, mark, closing⟩, ?_⟩
      rw [hOpening, hText]
      simp [written]
    · obtain ⟨⟨type, last⟩, hClosed, h⟩ := Option.bind_eq_some_iff.1 h
      obtain ⟨rfl, rfl⟩ := Prod.mk.inj (Option.some.inj h)
      obtain ⟨hType, closing, hText⟩ := closed?_eq_some_iff.1 hClosed
      refine ⟨hType, ⟨opening, ⟨[' '], by decide⟩, closing⟩, ?_⟩
      rw [hOpening, hText]
      simp [written]
  · rintro ⟨hType, ⟨opening, mark, closing⟩, rfl⟩
    obtain ⟨type, streamed⟩ := payload
    cases streamed with
    | false =>
      have hText : written ⟨type, false⟩ ⟨opening, mark, closing⟩ ++ rest
          = '(' :: (opening.1 ++ (type ++ (closing.1 ++ ')' :: rest))) :=
        written_append ..
      simp [hText, read?, after?, skipBlanks_gap opening (hType.isWord.notBlankAhead _),
        hType.marked?_eq_none, hType.closed?_eq]
    | true =>
      have hText : written ⟨type, true⟩ ⟨opening, mark, closing⟩ ++ rest
          = '(' :: (opening.1
            ++ ("stream".toList ++ (mark.1 ++ (type ++ (closing.1 ++ ')' :: rest))))) :=
        written_append ..
      have hMark : IsWord "stream".toList := by decide
      simp only [hText, read?, after?, if_true, Option.bind_eq_bind, Option.bind_some,
        skipBlanks_gap opening (hMark.notBlankAhead _), hType.marked?_eq]
      rfl

end Payload

/-! ## Methods -/

namespace Method

variable {method : Method} {text : Text}

lemma exists_written (payload : Payload) (spacing : Payload.Spacing) (rest : Text) :
    ∃ later, payload.written spacing ++ rest = '(' :: later :=
  ⟨_, rfl⟩

lemma notBlankAhead_written (payload : Payload) (spacing : Payload.Spacing) (rest : Text) :
    NotBlankAhead (payload.written spacing ++ rest) := by
  obtain ⟨later, hLater⟩ := exists_written payload spacing rest
  rw [hLater]
  exact (by decide : IsWord ['(']).notBlankAhead later

lemma isName_of_isNameChar {name : Text} (hNil : name ≠ []) (h : ∀ c ∈ name, isNameChar c = true) :
    IsName name where
  isWord := by
    refine ⟨hNil, fun c hc => ?_⟩
    have hChar := h c hc
    simp only [isNameChar, Bool.not_eq_true', Bool.or_eq_false_iff] at hChar
    exact hChar.2
  noParenthesis hMem := absurd (h '(' hMem) (by decide)

/-- A name goes on to a blank or to the payload behind it. -/
lemma IsName.span?_eq {name : Text} (h : IsName name) (gap : Blanks) (payload : Payload)
    (spacing : Payload.Spacing) (rest : Text) :
    (name ++ (gap.1 ++ (payload.written spacing ++ rest))).span? isNameChar
      = some (name, gap.1 ++ (payload.written spacing ++ rest)) := by
  obtain ⟨later, hLater⟩ := exists_written payload spacing rest
  rw [hLater]
  refine span?_append h.isWord.1 (fun c hc => ?_) fun c hc => ?_
  · have hParenthesis : c ≠ '(' := fun hEq => h.noParenthesis (hEq ▸ hc)
    simp [isNameChar, h.isWord.2 c hc, hParenthesis]
  · obtain ⟨_ | ⟨d, gap⟩, hGap⟩ := gap
    · obtain rfl := Option.some.inj hc
      decide
    · obtain rfl := Option.some.inj hc
      simp [isNameChar, hGap d List.mem_cons_self]

lemma written_append (method : Method) (spacing : Method.Spacing) (tail : Text) :
    method.written spacing ++ tail = "rpc".toList ++ (spacing.keyword.1 ++ (method.name
      ++ (spacing.name.1 ++ (method.request.written spacing.request ++ (spacing.afterRequest.1
        ++ ("returns".toList ++ (spacing.returns.1
          ++ (method.response.written spacing.response ++ tail)))))))) := by
  unfold written
  simp only [List.append_assoc]

/-- What is written is read, whatever follows it. -/
lemma read?_written (hWritable : method.IsWritable) (spacing : Method.Spacing) (tail : Text) :
    read? (method.written spacing ++ tail) = some method := by
  obtain ⟨keyword, nameGap, requestSpacing, requestGap, returnsGap, responseSpacing⟩ := spacing
  obtain ⟨name, request, response⟩ := method
  obtain ⟨hName, hRequestType, hResponseType⟩ := hWritable
  let afterReturns := returnsGap.1 ++ (response.written responseSpacing ++ tail)
  let afterRequest := requestGap.1 ++ ("returns".toList ++ afterReturns)
  let afterName := nameGap.1 ++ (request.written requestSpacing ++ afterRequest)
  have hRun : Text.span? isNameChar (name ++ afterName) = some (name, afterName) :=
    hName.span?_eq nameGap request requestSpacing afterRequest
  have hRequest : Payload.read? (skipBlanks afterName) = some (request, afterRequest) := by
    rw [skipBlanks_gap nameGap (notBlankAhead_written request requestSpacing afterRequest)]
    exact Payload.read?_eq_some_iff.2 ⟨hRequestType, requestSpacing, rfl⟩
  have hReturns : after? "returns".toList (skipBlanks afterRequest) = some afterReturns := by
    have hWord : IsWord "returns".toList := by decide
    rw [skipBlanks_gap requestGap (hWord.notBlankAhead afterReturns), after?_append]
  have hResponse : Payload.read? (skipBlanks afterReturns) = some (response, tail) := by
    rw [skipBlanks_gap returnsGap (notBlankAhead_written response responseSpacing tail)]
    exact Payload.read?_eq_some_iff.2 ⟨hResponseType, responseSpacing, rfl⟩
  rw [written_append, read?, after?_append, Option.bind_eq_bind, Option.bind_some,
    skipSomeBlanks?_gap keyword (hName.isWord.notBlankAhead afterName)]
  simp only [Option.bind_eq_bind, Option.bind_some, hRun, hRequest, hReturns, hResponse]
  rfl

/-- **A method is read exactly where it is written.** -/
lemma read?_eq_some_iff :
    read? text = some method ↔
      method.IsWritable ∧ ∃ spacing tail, text = method.written spacing ++ tail := by
  constructor
  · intro h
    simp only [read?, Option.bind_eq_bind, Option.bind_eq_some_iff, Prod.exists] at h
    obtain ⟨afterRpc, hRpc, start, hStart, name, afterName, hName, request, afterRequest, hRequest,
      afterReturns, hReturns, response, tail, hResponse, h⟩ := h
    obtain rfl := Option.some.inj h
    obtain ⟨-, keyword, rfl⟩ := skipSomeBlanks?_eq_some_iff.1 hStart
    obtain ⟨hNil, hChars, -, rfl⟩ := span?_eq_some_iff.1 hName
    obtain ⟨hRequestType, requestSpacing, hRequest⟩ := Payload.read?_eq_some_iff.1 hRequest
    obtain ⟨-, nameGap, rfl⟩ := skipBlanks_eq_iff.1 hRequest
    obtain ⟨-, requestGap, rfl⟩ := skipBlanks_eq_iff.1 (after?_eq_some_iff.1 hReturns)
    obtain ⟨hResponseType, responseSpacing, hResponse⟩ := Payload.read?_eq_some_iff.1 hResponse
    obtain ⟨-, returnsGap, rfl⟩ := skipBlanks_eq_iff.1 hResponse
    refine ⟨⟨isName_of_isNameChar hNil hChars, hRequestType, hResponseType⟩,
      ⟨keyword, nameGap, requestSpacing, requestGap, returnsGap, responseSpacing⟩, tail, ?_⟩
    rw [after?_eq_some_iff.1 hRpc, written_append]
  · rintro ⟨hWritable, spacing, tail, rfl⟩
    exact read?_written hWritable spacing tail

/-- No method is read at a blank. -/
lemma read?_blank {c : Char} (hc : isBlank c = true) (rest : Text) : read? (c :: rest) = none := by
  have hLetter : 'r' ≠ c := by
    rintro rfl
    exact absurd hc (by decide)
  have hNone : after? "rpc".toList (c :: rest) = none := if_neg hLetter
  rw [read?, hNone]
  rfl

/-- Blanks in front of a statement are passed over. -/
lemma find?_blanks {blanks : Text} (hBlanks : ∀ c ∈ blanks, isBlank c = true) (rest : Text) :
    find? (blanks ++ rest) = find? rest :=
  leftmost?_append (fun c hc => read?_blank (hBlanks c hc)) rest

/-- **Methods are found exactly where they are written.**  A method that is written in any spacing
behind an indentation is found, whatever follows it. A line in which a method is found has one
written in it; where a method is written no other one is, and the one at the leftmost such place is
found. -/
theorem find?_written :
    (∀ (method : Method) (spacing : Method.Spacing) (indentation : Blanks) (tail : Text),
      method.IsWritable →
        find? (indentation.1 ++ method.written spacing ++ tail) = some method) ∧
    (∀ line : Text, (find? line).isSome = true ↔
      ∃ (method : Method) (spacing : Method.Spacing),
        method.IsWritable ∧ method.written spacing <:+: line) ∧
    (∀ (method other : Method) (spacing otherSpacing : Method.Spacing) (tail otherTail : Text),
      method.IsWritable → other.IsWritable →
        method.written spacing ++ tail = other.written otherSpacing ++ otherTail →
          method = other) ∧
    ∀ (line : Text) (method : Method), find? line = some method ↔
      method.IsWritable ∧ ∃ before spacing tail, line = before ++ method.written spacing ++ tail ∧
        ∀ (other : Method) (otherSpacing : Method.Spacing) (earlier later : Text),
          other.IsWritable → line = earlier ++ other.written otherSpacing ++ later →
            before.length ≤ earlier.length := by
  refine ⟨fun method spacing indentation tail hWritable => ?_, fun line => ?_,
    fun method other spacing otherSpacing tail otherTail hMethod hOther hText => ?_,
    fun line method => ?_⟩
  · rw [List.append_assoc, find?_blanks indentation.2]
    exact leftmost?_of_read (read?_written hWritable spacing tail)
  · rw [find?, leftmost?_isSome_iff]
    constructor
    · rintro ⟨rest, ⟨before, rfl⟩, hRead⟩
      obtain ⟨method, hMethod⟩ := Option.isSome_iff_exists.1 hRead
      obtain ⟨hWritable, spacing, tail, rfl⟩ := read?_eq_some_iff.1 hMethod
      exact ⟨method, spacing, hWritable, before, tail, List.append_assoc ..⟩
    · rintro ⟨method, spacing, hWritable, before, tail, rfl⟩
      refine ⟨method.written spacing ++ tail, ⟨before, (List.append_assoc ..).symm⟩, ?_⟩
      rw [read?_written hWritable, Option.isSome_some]
  · have hRead := read?_written hMethod spacing tail
    rw [hText, read?_written hOther] at hRead
    exact (Option.some.inj hRead).symm
  · rw [find?, leftmost?_eq_some_iff]
    constructor
    · rintro ⟨before, rest, rfl, hRead, hNone⟩
      obtain ⟨hWritable, spacing, tail, rfl⟩ := read?_eq_some_iff.1 hRead
      refine ⟨hWritable, before, spacing, tail, (List.append_assoc ..).symm, ?_⟩
      intro other otherSpacing earlier later hOther hLine
      by_contra hLength
      rw [List.append_assoc _ _ later] at hLine
      have hRead := hNone _ _ hLine (Nat.not_le.1 hLength)
      simp [read?_written hOther] at hRead
    · rintro ⟨hWritable, before, spacing, tail, rfl, hLeftmost⟩
      refine ⟨before, method.written spacing ++ tail, List.append_assoc ..,
        read?_written hWritable spacing tail, fun earlier later hLine hLength => ?_⟩
      rw [Option.eq_none_iff_forall_ne_some]
      intro other hRead
      obtain ⟨hOther, otherSpacing, otherTail, rfl⟩ := read?_eq_some_iff.1 hRead
      have hLater := hLeftmost other otherSpacing earlier otherTail hOther
        (by rw [hLine, List.append_assoc])
      exact absurd hLength (Nat.not_lt.2 hLater)

/-- A method called `rpc` that takes a stream of the type `stream` and gives a type that begins
like the mark, spread over blanks of several kinds, is found behind its indentation. -/
theorem find?_written_stream_of_stream :
    let method : Method := ⟨"rpc".toList, ⟨"stream".toList, true⟩, ⟨"stream(x".toList, false⟩⟩
    let empty : Blanks := ⟨[], by decide⟩
    let spacing : Method.Spacing :=
      ⟨⟨" \t".toList, by decide⟩, empty, ⟨empty, ⟨"\u00a0".toList, by decide⟩, ⟨[' '], by decide⟩⟩,
        empty, ⟨['\n'], by decide⟩, ⟨⟨[' '], by decide⟩, ⟨[' '], by decide⟩, empty⟩⟩
    method.IsWritable ∧
      method.written spacing = "rpc \trpc(stream\u00a0stream )returns\n( stream(x)".toList ∧
      find? ("  ".toList ++ method.written spacing ++ " rpc".toList) = some method := by
  intro method empty spacing
  have hWritable : method.IsWritable :=
    ⟨⟨by decide, by decide⟩, ⟨by decide, by decide⟩, ⟨by decide, by decide⟩⟩
  exact ⟨hWritable, by decide,
    find?_written.1 method spacing ⟨"  ".toList, by decide⟩ " rpc".toList hWritable⟩

end Method

end ProtoTypings
