import ProtoTypings.Proofs.Rendering

/-!
# Blocks on one line

A line may hold a block with its body, and the body may again be a block. This file takes such a
line apart into the headers that it goes through, outermost first, and its innermost body. The line
is rendered by writing the openings of the headers, then what the innermost body is rendered to on
its own, then as many closing braces as there are headers (`Statement.render_ofLine`). So whatever
depends on the options or on the dialect is decided by the innermost body, which is no block.

What a line says otherwise is told by its first word. `Statement.ReadFrom` lists the cases, and
`declaredMethod?` and `declaredField?` say when a method of a service or a field is declared.
-/

namespace ProtoTypings

/-- The header of a block. -/
structure Header where
  block : Block
  name : Text
  deriving DecidableEq, Repr

/-- The text that opens the block of a header. -/
def Header.opening (header : Header) : Text :=
  header.block.opening header.name

lemma Header.exists_opening (header : Header) : ∃ lead : Text, header.opening = lead ++ ['{'] := by
  refine ⟨"export ".toList ++ header.block.keyword ++ [' '] ++ header.name ++ [' '], ?_⟩
  rw [List.append_assoc]
  rfl

/-! ## Taking a line apart -/

/-- The keyword that a line begins with. -/
def leadingKeyword? (line : Text) : Option Keyword :=
  line.words.head?.bind Keyword.ofWord?

/-- The header and the body of a block that has its body on the line of its header. The words of
the body are joined to a line of their own, without the brace that closes the block. -/
def blockOnLine? (line : Text) : Option (Header × Text) :=
  match LineKind.ofWords line.words with
  | (.keyword (.block block), words) =>
    match blockHead words.tail with
    | (_, []) => none
    | (name, inner :: more) => some (⟨block, name⟩, Text.unwords (withoutCloser (inner :: more)))
  | _ => none

lemma LineKind.ofWords_eq_keyword_iff {words kept : List Text} {announced : Keyword} :
    ofWords words = (.keyword announced, kept) ↔
      kept = words ∧ words.head?.bind Keyword.ofWord? = some announced := by
  constructor
  · intro h
    obtain rfl := words_of_keyword h
    refine ⟨rfl, ?_⟩
    cases kept with
    | nil => simp [ofWords] at h
    | cons word later =>
      simp only [ofWords] at h
      split at h
      · next found hFound =>
        obtain rfl := LineKind.keyword.inj (Prod.mk.inj h).1
        exact hFound
      · split at h <;> simp at h
  · rintro ⟨rfl, h⟩
    obtain ⟨word, hWord, hKeyword⟩ := Option.bind_eq_some_iff.1 h
    obtain ⟨later, rfl⟩ := List.head?_eq_some_iff.1 hWord
    exact ofWords_of_keyword hKeyword

lemma blockOnLine?_eq_some {line : Text} {header : Header} {body : Text}
    (h : blockOnLine? line = some (header, body)) :
    leadingKeyword? line = some (.block header.block) ∧
      ∃ inner more, blockHead line.words.tail = (header.name, inner :: more) ∧
        body.words = withoutCloser (inner :: more) := by
  unfold blockOnLine? at h
  split at h
  · next block words hKind =>
    split at h
    · simp at h
    · next name inner more hHead =>
      obtain ⟨rfl, rfl⟩ := Prod.mk.inj (Option.some.inj h)
      obtain ⟨rfl, hKeyword⟩ := LineKind.ofWords_eq_keyword_iff.1 hKind
      exact ⟨hKeyword, inner, more, hHead, words_unwords_body
        (fun _ hw => Text.isWord_of_mem_words (List.mem_of_mem_tail hw)) hHead⟩
  · simp at h

/-- The body has at least two words less: the keyword and the name are not in it. -/
lemma length_words_body {line : Text} {header : Header} {body : Text}
    (h : blockOnLine? line = some (header, body)) :
    body.words.length + 2 ≤ line.words.length := by
  obtain ⟨-, inner, more, hHead, hBody⟩ := blockOnLine?_eq_some h
  have hInner : (inner :: more).length + 1 ≤ line.words.tail.length := by
    cases hTail : line.words.tail with
    | nil => simp [hTail, blockHead] at hHead
    | cons name others =>
      simp only [hTail, blockHead] at hHead
      split at hHead
      · obtain ⟨-, rfl⟩ := Prod.mk.inj hHead
        simp
      · obtain ⟨-, hDrop⟩ := Prod.mk.inj hHead
        have hLength := congrArg List.length hDrop
        simp only [List.length_drop, List.length_cons] at hLength ⊢
        omega
  have hCloser := length_withoutCloser_le (inner :: more)
  rw [List.length_tail] at hInner
  rw [hBody]
  omega

/-- The headers that a line goes through, outermost first. -/
def headers (line : Text) : List Header :=
  match _h : blockOnLine? line with
  | none => []
  | some (header, body) => header :: headers body
termination_by line.words.length
decreasing_by
  have := length_words_body _h
  omega

/-- The innermost body of a line; the line itself where it holds no block with its body. -/
def innermost (line : Text) : Text :=
  match _h : blockOnLine? line with
  | none => line
  | some (_, body) => innermost body
termination_by line.words.length
decreasing_by
  have := length_words_body _h
  omega

lemma headers_of_none {line : Text} (h : blockOnLine? line = none) : headers line = [] := by
  rw [headers]
  split
  · rfl
  · next hSome => simp [h] at hSome

lemma headers_of_some {line : Text} {header : Header} {body : Text}
    (h : blockOnLine? line = some (header, body)) : headers line = header :: headers body := by
  rw [headers]
  split
  · next hNone => simp [h] at hNone
  · next hSome =>
    obtain ⟨rfl, rfl⟩ := Prod.mk.inj (Option.some.inj (h.symm.trans hSome))
    rfl

lemma innermost_of_none {line : Text} (h : blockOnLine? line = none) : innermost line = line := by
  rw [innermost]
  split
  · rfl
  · next hSome => simp [h] at hSome

lemma headers_eq_nil_iff {line : Text} : headers line = [] ↔ blockOnLine? line = none := by
  cases h : blockOnLine? line with
  | none => simp [headers_of_none h]
  | some found => simp [headers_of_some h]

lemma innermost_of_headers_eq_nil {line : Text} (h : headers line = []) : innermost line = line :=
  innermost_of_none (headers_eq_nil_iff.1 h)

/-- The innermost body is no block with its body. -/
lemma blockOnLine?_innermost (line : Text) : blockOnLine? (innermost line) = none := by
  fun_induction innermost line with
  | case1 line h => exact h
  | case2 line header body h ih => exact ih

example : headers "message A\x7b enum B \x7b x = 1; \x7d \x7d".toList
      = [⟨.interface, ['A']⟩, ⟨.enum, ['B']⟩] ∧
    innermost "message A\x7b enum B \x7b x = 1; \x7d \x7d".toList = "x = 1;".toList := by
  decide +kernel

/-! ## What a line says -/

/-- The method that a line declares: the line begins with the keyword of methods and a method can be
read in it. -/
def declaredMethod? (line : Text) : Option Method :=
  if leadingKeyword? line = some .method then Method.find? line else none

/-- The field that a line declares: after an optional label it begins with a word that announces
nothing else and is taken for the type; the next word is the name. A type that is no scalar type
must not be followed by `=`, which makes a value of an enum of it. -/
def declaredField? (line : Text) : Option Field :=
  match LineKind.ofWords line.words with
  | (.member label, type :: later) =>
    if Scalar.ofName? type = none ∧ later.head? = some ['='] then none
    else some ⟨label, type, later.head?.getD []⟩
  | _ => none

namespace Statement

/-- What lines say, by the keyword they begin with and by what follows it. -/
inductive ReadFrom (line : Text) : Statement → Prop
  | nothing (hNone : leadingKeyword? line = none) (hField : declaredField? line = none) :
      ReadFrom line .nothing
  | comment (hKeyword : leadingKeyword? line = some .comment) : ReadFrom line (.comment line)
  | close (hKeyword : leadingKeyword? line = some .close) : ReadFrom line .close
  | header {block : Block} {name : Text} (hKeyword : leadingKeyword? line = some (.block block))
      (hBody : blockOnLine? line = none) : ReadFrom line (.header block name)
  | oneLine {header : Header} {body : Text}
      (hKeyword : leadingKeyword? line = some (.block header.block))
      (hBody : blockOnLine? line = some (header, body)) :
      ReadFrom line (.oneLine header.block header.name (ofLine (some body)))
  | method {found : Method} (hKeyword : leadingKeyword? line = some .method)
      (hFound : Method.find? line = some found) : ReadFrom line (.method found)
  | unread (hKeyword : leadingKeyword? line = some .method) (hNone : Method.find? line = none) :
      ReadFrom line (.unread line)
  | package {name : Text} (hKeyword : leadingKeyword? line = some .package) :
      ReadFrom line (.package name)
  | enumValue {name : Text} (hNone : leadingKeyword? line = none)
      (hField : declaredField? line = none) : ReadFrom line (.enumValue name)
  | field {declared : Field} (hNone : leadingKeyword? line = none)
      (hField : declaredField? line = some declared) : ReadFrom line (.field declared)

lemma leadingKeyword?_eq_none {line : Text} {kind : LineKind} {kept : List Text}
    (hKind : LineKind.ofWords line.words = (kind, kept))
    (h : ∀ announced, kind ≠ .keyword announced) : leadingKeyword? line = none := by
  rw [Option.eq_none_iff_forall_ne_some]
  intro announced hAnnounced
  have hKeyword := LineKind.ofWords_eq_keyword_iff.2 ⟨rfl, hAnnounced⟩
  rw [hKind] at hKeyword
  exact h announced (Prod.mk.inj hKeyword).1

/-- A member is a value of an enum or a field, unless nothing follows its label. -/
lemma readFrom_member {line : Text} {label : Option Label} {kept : List Text}
    (hKind : LineKind.ofWords line.words = (.member label, kept)) :
    ReadFrom line (member label kept) := by
  have hNone := leadingKeyword?_eq_none hKind (by simp)
  rcases kept with _ | ⟨type, _ | ⟨second, later⟩⟩
  · exact .nothing hNone (by simp [declaredField?, hKind])
  · exact .field hNone (by simp [declaredField?, hKind])
  · rw [member]
    split
    · next h => exact .enumValue hNone (by simp [declaredField?, hKind, h])
    · next h => exact .field hNone (by simp [declaredField?, hKind, h])

/-- **Every line is read in one of these ways.** -/
lemma readFrom (line : Text) : ReadFrom line (ofLine (some line)) := by
  rw [ofLine, ofWords_eq]
  rcases hKind : LineKind.ofWords line.words with ⟨kind, kept⟩
  cases kind with
  | blank =>
    exact .nothing (leadingKeyword?_eq_none hKind (by simp)) (by simp [declaredField?, hKind])
  | removed =>
    exact .nothing (leadingKeyword?_eq_none hKind (by simp)) (by simp [declaredField?, hKind])
  | member label => exact readFrom_member hKind
  | keyword announced =>
    obtain ⟨rfl, hKeyword⟩ := LineKind.ofWords_eq_keyword_iff.1 hKind
    cases announced with
    | comment => exact .comment hKeyword
    | close => exact .close hKeyword
    | package => exact .package hKeyword
    | method =>
      dsimp only
      cases hFound : Method.find? line with
      | none => exact .unread hKeyword hFound
      | some found => exact .method hKeyword hFound
    | block block =>
      dsimp only
      rcases hHead : blockHead line.words.tail with ⟨name, _ | ⟨inner, more⟩⟩
      · exact .header hKeyword (by simp [blockOnLine?, hKind, hHead])
      · have hBody : blockOnLine? line
            = some (⟨block, name⟩, Text.unwords (withoutCloser (inner :: more))) := by
          simp [blockOnLine?, hKind, hHead]
        have hLine := @ReadFrom.oneLine line ⟨block, name⟩ _ hKeyword hBody
        rwa [ofLine, words_unwords_body
          (fun _ hw => Text.isWord_of_mem_words (List.mem_of_mem_tail hw)) hHead] at hLine

lemma ofLine_of_blockOnLine? {line : Text} {header : Header} {body : Text}
    (h : blockOnLine? line = some (header, body)) :
    ofLine (some line) = .oneLine header.block header.name (ofLine (some body)) := by
  obtain ⟨hBlock, -⟩ := blockOnLine?_eq_some h
  have hRead := readFrom line
  generalize ofLine (some line) = statement at hRead
  cases hRead <;> simp_all

/-- Where a line holds no block with its body, it does not say that there is one. -/
lemma ofLine_innermost_ne_oneLine (line : Text) (block : Block) (name : Text) (body : Statement) :
    ofLine (some (innermost line)) ≠ .oneLine block name body := by
  intro hLine
  have hRead := readFrom (innermost line)
  rw [hLine] at hRead
  cases hRead with
  | oneLine _ hBody => simp [blockOnLine?_innermost] at hBody

lemma ofLine_eq_method_iff {line : Text} {found : Method} :
    ofLine (some line) = .method found ↔ declaredMethod? line = some found := by
  have hRead := readFrom line
  constructor
  · intro h
    rw [h] at hRead
    cases hRead with
    | method hKeyword hFound => rw [declaredMethod?, if_pos hKeyword, hFound]
  · intro h
    rw [declaredMethod?] at h
    generalize ofLine (some line) = statement at hRead
    cases hRead <;> simp_all

lemma leadingKeyword?_of_declaredField? {line : Text} {declared : Field}
    (h : declaredField? line = some declared) : leadingKeyword? line = none := by
  rw [declaredField?] at h
  split at h
  · next hKind => exact leadingKeyword?_eq_none hKind (by simp)
  · simp at h

lemma ofLine_eq_field_iff {line : Text} {declared : Field} :
    ofLine (some line) = .field declared ↔ declaredField? line = some declared := by
  have hRead := readFrom line
  constructor
  · intro h
    rw [h] at hRead
    cases hRead with
    | field _ hField => exact hField
  · intro h
    have hNone := leadingKeyword?_of_declaredField? h
    generalize ofLine (some line) = statement at hRead
    cases hRead <;> simp_all

lemma ofLine_eq_comment_iff {line text : Text} :
    ofLine (some line) = .comment text ↔ text = line ∧ leadingKeyword? line = some .comment := by
  have hRead := readFrom line
  constructor
  · intro h
    rw [h] at hRead
    cases hRead with
    | comment hKeyword => exact ⟨rfl, hKeyword⟩
  · rintro ⟨rfl, h⟩
    generalize ofLine (some text) = statement at hRead
    cases hRead <;> simp_all

end Statement

/-! ## Putting it together again -/

/-- A text with the openings of headers before it and the braces that close them behind it. -/
def framed (heads : List Header) (inside : Text) : Text :=
  heads.flatMap Header.opening ++ inside ++ List.replicate heads.length '}'

@[simp]
lemma framed_nil (inside : Text) : framed [] inside = inside := by
  simp [framed]

lemma framed_cons (header : Header) (heads : List Header) (inside : Text) :
    framed (header :: heads) inside = header.opening ++ framed heads inside ++ ['}'] := by
  simp [framed, List.replicate_succ']

namespace Statement

/-- **A line is rendered around its innermost body.**  The headers on the way leave their openings
and their closing braces, whatever the options and the dialect are. -/
lemma render_ofLine (options : Options) (dialect : Dialect) (line : Text) :
    ((ofLine (some line)).render options dialect).getD []
      = framed (headers line)
          (((ofLine (some (innermost line))).render options dialect).getD []) := by
  fun_induction innermost line with
  | case1 line h => rw [headers_of_none h, framed_nil]
  | case2 line header body h ih =>
    rw [headers_of_some h, framed_cons, ← ih, ofLine_of_blockOnLine? h]
    rfl

/-- A line that holds a block with its body always leaves a line. -/
lemma render_ofLine_of_headers (options : Options) (dialect : Dialect) {line : Text}
    (h : headers line ≠ []) :
    (ofLine (some line)).render options dialect
      = some (framed (headers line)
          (((ofLine (some (innermost line))).render options dialect).getD [])) := by
  obtain ⟨⟨header, body⟩, hBlock⟩ :=
    Option.ne_none_iff_exists'.1 fun hNone => h (headers_of_none hNone)
  rw [← render_ofLine, ofLine_of_blockOnLine? hBlock]
  rfl

end Statement

end ProtoTypings
