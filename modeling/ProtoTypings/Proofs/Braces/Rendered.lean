import ProtoTypings.Proofs.Braces.Depth
import ProtoTypings.Proofs.LineByLine

/-!
# The depth of rendered lines

How far the line rendered from a statement raises the depth of braces, for the two kinds of lines
whose braces need no attention: those without any, and `rpc` lines, in which they come in pairs.

A line without braces may still be rendered with some. If it begins like a block, the words after
its head count as a body, and a line that ends inside that head leaves the block open;
`leavesOpen` says on the words when this happens.
-/

namespace ProtoTypings

open Text

/-! ## Methods -/

namespace Text.Paired

variable {text rest : Text}

lemma of_after? {lead : Text} (h : Paired text) (hLead : BraceFree lead)
    (hRest : after? lead text = some rest) : Paired rest := by
  obtain rfl := after?_eq_some_iff.1 hRest
  exact h.of_append hLead

lemma skipBlanks (h : Paired text) : Paired text.skipBlanks :=
  (h.span (by decide)).2

lemma of_skipSomeBlanks? (h : Paired text) (hRest : skipSomeBlanks? text = some rest) :
    Paired rest := by
  cases text with
  | nil => simp [skipSomeBlanks?] at hRest
  | cons c later =>
    rw [skipSomeBlanks?] at hRest
    split at hRest
    · next hc =>
      obtain rfl := Option.some.inj hRest
      exact (h.tail (isNoBrace_of_isBlank hc)).skipBlanks
    · simp at hRest

lemma of_span? {accepts : Char → Bool} {run : Text} (h : Paired text)
    (hBraces : accepts '{' = accepts '}') (hRun : text.span? accepts = some (run, rest)) :
    Paired run ∧ Paired rest := by
  rw [span?] at hRun
  split at hRun
  · simp at hRun
  · obtain ⟨rfl, rfl⟩ := Prod.mk.inj (Option.some.inj hRun)
    exact h.span hBraces

lemma of_closed? {type : Text} (h : Paired text)
    (hRead : Payload.closed? text = some (type, rest)) : Paired type ∧ Paired rest := by
  simp only [Payload.closed?, Option.bind_eq_bind, Option.bind_eq_some_iff, Prod.exists] at hRead
  obtain ⟨run, later, hRun, last, hLast, hRead⟩ := hRead
  obtain ⟨rfl, rfl⟩ := Prod.mk.inj (Option.some.inj hRead)
  obtain ⟨hType, hLater⟩ := h.of_span? (by decide) hRun
  exact ⟨hType, hLater.skipBlanks.of_after? (by decide) hLast⟩

lemma of_marked? {type : Text} (h : Paired text)
    (hRead : Payload.marked? text = some (type, rest)) : Paired type ∧ Paired rest := by
  simp only [Payload.marked?, Option.bind_eq_bind, Option.bind_eq_some_iff] at hRead
  obtain ⟨later, hLater, inside, hInside, hRead⟩ := hRead
  exact ((h.of_after? (by decide) hLater).of_skipSomeBlanks? hInside).of_closed? hRead

lemma of_payload {payload : Payload} (h : Paired text)
    (hRead : Payload.read? text = some (payload, rest)) : Paired payload.type ∧ Paired rest := by
  simp only [Payload.read?, Option.bind_eq_bind, Option.bind_eq_some_iff] at hRead
  obtain ⟨later, hLater, hRead⟩ := hRead
  have hInside := (h.of_after? (by decide) hLater).skipBlanks
  split at hRead
  · next type last hMarked =>
    obtain ⟨rfl, rfl⟩ := Prod.mk.inj (Option.some.inj hRead)
    exact hInside.of_marked? hMarked
  · obtain ⟨⟨type, last⟩, hClosed, hRead⟩ := Option.bind_eq_some_iff.1 hRead
    obtain ⟨rfl, rfl⟩ := Prod.mk.inj (Option.some.inj hRead)
    exact hInside.of_closed? hClosed

lemma of_method {method : Method} (h : Paired text) (hRead : Method.read? text = some method) :
    Paired method.request.type ∧ Paired method.response.type := by
  simp only [Method.read?, Option.bind_eq_bind, Option.bind_eq_some_iff, Prod.exists] at hRead
  obtain ⟨afterRpc, hRpc, start, hStart, name, afterName, hName, request, afterRequest, hRequest,
    afterReturns, hReturns, response, last, hResponse, hRead⟩ := hRead
  obtain rfl := Option.some.inj hRead
  have hStart := (h.of_after? (by decide) hRpc).of_skipSomeBlanks? hStart
  obtain ⟨-, hAfterName⟩ := hStart.of_span? (by decide) hName
  obtain ⟨hType, hAfterRequest⟩ := hAfterName.skipBlanks.of_payload hRequest
  have hAfterReturns := hAfterRequest.skipBlanks.of_after? (by decide) hReturns
  exact ⟨hType, (hAfterReturns.skipBlanks.of_payload hResponse).1⟩

/-- The types of a method do not cut a pair of braces: each ends at a blank or a parenthesis. -/
lemma of_find? {method : Method} (h : Paired text) (hRead : Method.find? text = some method) :
    Paired method.request.type ∧ Paired method.response.type := by
  obtain ⟨later, hLater, hRead⟩ := exists_isSuffix_of_leftmost? hRead
  obtain ⟨rest, hRest⟩ : ∃ rest, later = "rpc".toList ++ rest := by
    rw [Method.read?, Option.bind_eq_bind, Option.bind_eq_some_iff] at hRead
    obtain ⟨rest, hRest, -⟩ := hRead
    exact ⟨rest, after?_eq_some_iff.1 hRest⟩
  refine of_method ?_ hRead
  rw [hRest] at hLater ⊢
  exact h.of_isSuffix (by decide) hLater

end Text.Paired

lemma isNoBrace_of_isPlain (c : Char) (h : IsPlain c) : IsNoBrace c :=
  fun hc => h (List.mem_cons_of_mem _ hc)

lemma braceFree_camel (identifier : Text) : BraceFree (Name.camel identifier) :=
  over_camel isNoBrace_of_isPlain identifier

lemma paired_payload (streams : StreamSetting) {payload : Payload} (h : Paired payload.type) :
    Paired (payload.render streams) := by
  rw [Payload.render]
  split
  · exact h
  · split
    · exact BraceFree.paired (by decide)
    · exact (BraceFree.paired_append (by decide) h).append (BraceFree.paired (by decide))

lemma paired_signature (options : Options) {method : Method}
    (hRequest : Paired method.request.type) (hResponse : Paired method.response.type) :
    Paired (method.signature options) := by
  have hParameters : Paired (method.parameters options) := by
    rw [Method.parameters, Method.parameterName]
    have hMark : Paired (if method.request.streamed && !options.streams.strips then
        "Stream".toList else []) := by
      split
      · exact BraceFree.paired (by decide)
      · exact .nil
    have hName := (braceFree_camel method.request.type).paired_append hMark
    refine ((hName.append (BraceFree.paired (by decide))).append
      (paired_payload _ hRequest)).append ?_
    split
    · exact BraceFree.paired (by decide)
    · exact .nil
  have hResult : Paired (method.result options) := by
    rw [Method.result]
    split
    · exact (BraceFree.paired_append (by decide) (paired_payload _ hResponse)).append
        (BraceFree.paired (by decide))
    · exact paired_payload _ hResponse
  rw [Method.signature]
  exact (((((braceFree_camel _).paired.append (BraceFree.paired (by decide))).append
    hParameters).append (BraceFree.paired (by decide))).append hResult)

/-- An `rpc` line whose braces come in pairs is rendered to such a line. -/
lemma paired_rpc (options : Options) {line : Text} (h : Paired line) :
    Paired (methodLine options line) := by
  rw [methodLine]
  split
  · next method hMethod =>
    obtain ⟨hRequest, hResponse⟩ := h.of_find? hMethod
    exact paired_signature options hRequest hResponse
  · exact h

/-! ## Lines without braces -/

/-- Whether a line without braces is rendered to one that leaves a block open: it begins with the
keyword of a block, and either has no words after the head of the block or goes on, in the body,
with words of this kind. The head is the keyword and two words. -/
def leavesOpen : List Text → Bool
  | keyword :: _ :: _ :: inner :: later =>
    blockKeywords.contains keyword && leavesOpen (inner :: later)
  | keyword :: _ => blockKeywords.contains keyword
  | [] => false

/-- Whether a block stays open that has these words in its body: there are none, or they leave a
block open themselves. -/
def staysOpen (body : List Text) : Bool :=
  body.isEmpty || leavesOpen body

lemma leavesOpen_cons (keyword : Text) (later : List Text) :
    leavesOpen (keyword :: later)
      = (decide (keyword ∈ blockKeywords) && staysOpen (later.drop 2)) := by
  rcases later with _ | ⟨name, _ | ⟨brace, _ | ⟨inner, later⟩⟩⟩ <;> simp [leavesOpen, staysOpen]

/-- How far a line without braces raises the depth when it is rendered: by one for a block that it
leaves open, and by one for a namespace. -/
def plainRise (words : List Text) : ℤ :=
  (if leavesOpen words then 1 else 0) + if ReachesPackage words then 1 else 0

lemma reachesPackage_cons_iff {keyword : Text} {later : List Text} (h : keyword ∈ blockKeywords) :
    ReachesPackage (keyword :: later) ↔ ReachesPackage (withoutCloser (blockHead later).2) := by
  constructor
  · rintro (_ | ⟨-, hHead, hBody⟩)
    · exact absurd h (by decide)
    · rwa [hHead]
  · exact fun hBody => .inBody h rfl hBody

lemma not_reachesPackage_nil : ¬ ReachesPackage [] := nofun

@[simp]
lemma plainRise_nil : plainRise [] = 0 := by
  rw [plainRise, if_neg not_reachesPackage_nil]
  rfl

lemma not_reachesPackage_cons {word : Text} {later : List Text} (hBlock : word ∉ blockKeywords)
    (hPackage : word ≠ "package".toList) : ¬ ReachesPackage (word :: later) := by
  rintro (_ | ⟨hKeyword, -, -⟩)
  · exact hPackage rfl
  · exact hBlock hKeyword

/-- Only the keyword of a block and `package` raise the depth. -/
lemma plainRise_of_not_mem {word : Text} {later : List Text} (hBlock : word ∉ blockKeywords)
    (hPackage : word ≠ "package".toList) : plainRise (word :: later) = 0 := by
  rw [plainRise, leavesOpen_cons, if_neg (not_reachesPackage_cons hBlock hPackage),
    decide_eq_false hBlock]
  rfl

lemma not_mem_blockKeywords {word : Text} (h : Keyword.ofWord? word = none) :
    word ∉ blockKeywords := by
  intro hBlock
  obtain ⟨block, hBlock⟩ := mem_blockKeywords_iff.1 hBlock
  simp [h] at hBlock

lemma ne_package {word : Text} (h : Keyword.ofWord? word = none) : word ≠ "package".toList := by
  rintro rfl
  exact absurd h (by decide)

lemma plainRise_of_not_keyword {word : Text} {later : List Text}
    (h : Keyword.ofWord? word = none) : plainRise (word :: later) = 0 :=
  plainRise_of_not_mem (not_mem_blockKeywords h) (ne_package h)

lemma blockHead_of_braceFree {name : Text} (hName : BraceFree name) (later : List Text) :
    blockHead (name :: later) = (name, later.drop 1) := by
  rw [blockHead, if_neg]
  intro hLast
  exact hName '{' (List.mem_of_getLast? hLast) (by decide)

/-- The body of a block begins after the next two words when no word holds a brace. -/
lemma blockHead_body {words : List Text} (h : ∀ w ∈ words, BraceFree w) :
    (blockHead words).2 = words.drop 2 := by
  cases words with
  | nil => rfl
  | cons name later =>
    rw [blockHead_of_braceFree (h name List.mem_cons_self)]
    rfl

lemma withoutCloser_of_braceFree {body : List Text} (h : ∀ w ∈ body, BraceFree w) :
    withoutCloser body = body := by
  rw [withoutCloser, if_neg]
  intro hLast
  exact h ['}'] (List.mem_of_getLast? hLast) '}' (by decide) (by decide)

/-- A block raises the depth as far as its body, or by one if it has none. -/
lemma plainRise_block {keyword : Text} {later : List Text} (hKeyword : keyword ∈ blockKeywords)
    (h : ∀ w ∈ later, BraceFree w) :
    plainRise (keyword :: later)
      = if later.drop 2 = [] then 1 else plainRise (later.drop 2) := by
  have hBody : withoutCloser (later.drop 2) = later.drop 2 :=
    withoutCloser_of_braceFree fun w hw => h w (List.mem_of_mem_drop hw)
  rw [plainRise, leavesOpen_cons, decide_eq_true hKeyword, Bool.true_and, staysOpen]
  simp only [reachesPackage_cons_iff hKeyword, blockHead_body h, hBody]
  generalize later.drop 2 = body
  cases body with
  | nil => simp [not_reachesPackage_nil]
  | cons inner more => simp [plainRise]

/-- The line that opens a block raises the depth by one more than the name in it. -/
lemma raises_opening (block : Block) {name : Text} {rise : ℤ} (hName : Raises rise name)
    (h : 0 ≤ rise) : Raises (rise + 1) (block.opening name) := by
  have hKeyword : BraceFree ("export ".toList ++ block.keyword ++ [' ']) := by
    cases block <;> decide
  have hBrace : Raises 1 [' ', '{'] := raises_open.after_braceFree (a := [' ']) (by decide)
  have hAll := (hKeyword.raises.append hName (by omega)).append hBrace (by omega)
  rw [zero_add] at hAll
  unfold Block.opening
  exact hAll

lemma raises_packageOpening (name : Text) : Raises 1 (packageOpening name) := by
  have hName : BraceFree (Name.pascal name) := over_pascal isNoBrace_of_isPlain name
  have hBrace : Raises 1 [' ', '{'] := raises_open.after_braceFree (a := [' ']) (by decide)
  have hLiteral : BraceFree "export namespace ".toList := by decide
  have hAll := (hLiteral.raises.append hName.raises (by omega)).append hBrace (by omega)
  unfold packageOpening
  exact hAll

/-- A member raises the depth as far as its type does. -/
lemma raises_member (options : Options) (dialect : Dialect) (label : Option Label) {type : Text}
    {rise : ℤ} (hType : Raises rise (fieldType type)) (later : List Text) :
    Raises rise (((Statement.member label (type :: later)).render options dialect).getD []) := by
  have hField : ∀ name, Raises rise (Field.render dialect ⟨label, type, name⟩) := by
    intro name
    have hBefore : BraceFree (Name.camel name ++ (if Field.isOptional dialect ⟨label, type, name⟩
        then ['?'] else []) ++ ": ".toList) := by
      simp only [BraceFree, List.forall_mem_append]
      refine ⟨⟨braceFree_camel name, ?_⟩, by decide⟩
      split <;> decide
    have hAfter : BraceFree (if label = some .repeated then "[]".toList else []) := by
      split <;> decide
    exact (hType.after_braceFree hBefore).before_braceFree hAfter
  rcases later with _ | ⟨second, later⟩
  · exact hField []
  · rw [Statement.member]
    split
    · next h =>
      have hSame : fieldType type = type := by simp [fieldType, primitiveOf?, h.1]
      rw [hSame] at hType
      exact hType.before_braceFree (b := [',']) (by decide)
    · exact hField second

/-- **What a line without braces is rendered to** raises the depth by `plainRise`. -/
lemma raises_plain (options : Options) (dialect : Dialect) {line : Text} {words : List Text}
    (hLine : BraceFree line) (hWords : ∀ w ∈ words, BraceFree w) :
    Raises (plainRise words) (((Statement.ofWords line words).render options dialect).getD []) := by
  fun_induction Statement.ofWords line words with
  | case1 line =>
    rw [plainRise_nil, Statement.render]
    split <;> exact raises_nil
  | case2 line word later hKeyword =>
    obtain rfl := List.mem_singleton.1 (Keyword.ofWord?_eq_some_iff.1 hKeyword)
    rw [plainRise_of_not_mem (by decide) (by decide), Statement.render]
    split
    · exact hLine.raises
    · exact raises_nil
  | case3 line word later hKeyword =>
    -- the keyword would be a brace
    obtain rfl := List.mem_singleton.1 (Keyword.ofWord?_eq_some_iff.1 hKeyword)
    exact absurd (hWords _ List.mem_cons_self '}' (by decide)) (by decide)
  | case4 line word later block hBlock name hHead =>
    have hLater : ∀ w ∈ later, BraceFree w := fun w hw => hWords w (List.mem_cons_of_mem _ hw)
    have hName := over_blockHead hLater
    have hNone := blockHead_body hLater
    rw [hHead] at hName hNone
    rw [plainRise_block (mem_blockKeywords_iff.2 ⟨block, hBlock⟩) hLater, if_pos hNone.symm]
    exact raises_opening block (BraceFree.raises hName) (by omega)
  | case5 line word later block hBlock name inner more hHead body ih =>
    have hLater : ∀ w ∈ later, BraceFree w := fun w hw => hWords w (List.mem_cons_of_mem _ hw)
    have hName := over_blockHead hLater
    have hDrop : inner :: more = later.drop 2 := by rw [← blockHead_body hLater, hHead]
    rw [hHead] at hName
    have hInner : ∀ w ∈ inner :: more, BraceFree w :=
      fun w hw => hLater w (List.mem_of_mem_drop (hDrop ▸ hw))
    -- no closing brace ends the body, so it is read as it stands and closed behind it
    have hBody : body = inner :: more := withoutCloser_of_braceFree hInner
    have hInside := ih (over_unwords (by decide) (hBody ▸ hInner)) (hBody ▸ hInner)
    rw [plainRise_block (mem_blockKeywords_iff.2 ⟨block, hBlock⟩) hLater, ← hDrop, if_neg (by simp),
      ← hBody, ← zero_add (plainRise body)]
    exact (raises_opening block (BraceFree.raises hName) (by omega)).enclosed hInside (by omega)
  | case6 line word later hKeyword found hFound =>
    obtain rfl := List.mem_singleton.1 (Keyword.ofWord?_eq_some_iff.1 hKeyword)
    obtain ⟨-, hRequest, hResponse⟩ := Method.subset_of_find? hFound
    rw [plainRise_of_not_mem (by decide) (by decide)]
    exact BraceFree.raises (over_signature isNoBrace_of_isPlain options
      (fun c hc => hLine c (hRequest hc)) fun c hc => hLine c (hResponse hc))
  | case7 line word later hKeyword =>
    obtain rfl := List.mem_singleton.1 (Keyword.ofWord?_eq_some_iff.1 hKeyword)
    rw [plainRise_of_not_mem (by decide) (by decide)]
    exact hLine.raises
  | case8 line word later hKeyword =>
    obtain rfl := List.mem_singleton.1 (Keyword.ofWord?_eq_some_iff.1 hKeyword)
    have hRise : plainRise ("package".toList :: later) = 1 := by
      have hReaches : ReachesPackage ("package".toList :: later) := .here later
      rw [plainRise, leavesOpen_cons, decide_eq_false (by decide), if_pos hReaches]
      rfl
    rw [hRise]
    exact raises_packageOpening _
  | case9 line word later hKeyword label hLabel =>
    rw [plainRise_of_not_keyword hKeyword]
    cases later with
    | nil =>
      rw [Statement.member, Statement.render]
      split <;> exact raises_nil
    | cons type later =>
      have hType : BraceFree type := hWords type (List.mem_cons_of_mem _ List.mem_cons_self)
      have hField : BraceFree (fieldType type) := over_fieldType isNoBrace_of_isPlain hType
      exact raises_member options dialect (some label) hField.raises later
  | case10 line word later hKeyword hLabel =>
    rw [plainRise_of_not_keyword hKeyword]
    have hField : BraceFree (fieldType word) :=
      over_fieldType isNoBrace_of_isPlain (hWords word List.mem_cons_self)
    exact raises_member options dialect none hField.raises later

end ProtoTypings
