import ProtoTypings.Proofs.Rendering

/-!
# The characters of a rendered line

Every character of a rendered line stands in the line that it was rendered from, or belongs to a
name, whose characters are ASCII letters, digits and underscores, or is written by the renderer
itself. The statements are made for a property `P` of characters, so that one of them serves for
"no line feed" as for "no brace".
-/

namespace ProtoTypings

/-! ## Words and names -/

namespace Text

lemma mem_consFirst {c d : Char} {parts : List Text} {part : Text}
    (h : part ∈ consFirst c parts) (hd : d ∈ part) : d = c ∨ ∃ other ∈ parts, d ∈ other := by
  cases parts with
  | nil =>
    obtain rfl := List.mem_singleton.1 h
    exact .inl (List.mem_singleton.1 hd)
  | cons first later =>
    rcases List.mem_cons.1 h with rfl | h
    · exact (List.mem_cons.1 hd).imp_right fun hd => ⟨first, List.mem_cons_self, hd⟩
    · exact .inr ⟨part, List.mem_cons_of_mem _ h, hd⟩

/-- The runs of a text hold kept characters of the text, and nothing else. -/
lemma mem_of_mem_runs {keep : Char → Bool} {cuts : Char → Char → Text → Bool} {text run : Text}
    {c : Char} (h : run ∈ runs keep cuts text) (hc : c ∈ run) : keep c = true ∧ c ∈ text := by
  induction text generalizing run with
  | nil => simp [runs] at h
  | cons d rest ih =>
    rw [runs] at h
    split at h
    · next hd =>
      have hEither : c = d ∨ ∃ other ∈ runs keep cuts rest, c ∈ other := by
        split at h
        · exact mem_consFirst h hc
        · rcases List.mem_cons.1 h with rfl | h
          · exact .inl (List.mem_singleton.1 hc)
          · exact .inr ⟨run, h, hc⟩
      rcases hEither with rfl | ⟨other, hOther, hc⟩
      · exact ⟨hd, List.mem_cons_self⟩
      · exact (ih hOther hc).imp_right (List.mem_cons_of_mem _)
    · exact (ih h hc).imp_right (List.mem_cons_of_mem _)

lemma mem_of_mem_words {text word : Text} {c : Char} (h : word ∈ words text) (hc : c ∈ word) :
    c ∈ text :=
  (mem_of_mem_runs h hc).2

end Text

namespace Name

/-- Whether a character may stand in a converted name. -/
def IsPart (c : Char) : Prop :=
  c.isAlphanum = true ∨ c = '_'

lemma toNat_lt_of_isAlphanum {c : Char} (h : c.isAlphanum = true) : c.toNat < 128 := by
  simp only [Char.isAlphanum, Char.isAlpha, Char.isUpper, Char.isLower, Char.isDigit,
    Bool.or_eq_true, Bool.and_eq_true, decide_eq_true_eq, UInt32.le_iff_toNat_le, ge_iff_le] at h
  have hc : c.toNat = c.val.toNat := rfl
  have hZ : 'Z'.val.toNat = 90 := rfl
  have hz : 'z'.val.toNat = 122 := rfl
  have h9 : '9'.val.toNat = 57 := rfl
  omega

/-- A property of the letters and digits can be looked up in the table of ASCII. -/
lemma forall_isAlphanum {Q : Char → Prop}
    (h : ∀ n : Fin 128, (Char.ofNat n).isAlphanum = true → Q (Char.ofNat n)) {c : Char}
    (hc : c.isAlphanum = true) : Q c := by
  have hTable := h ⟨c.toNat, toNat_lt_of_isAlphanum hc⟩
  simp only [Char.ofNat_toNat] at hTable
  exact hTable hc

lemma isAlpha_of_isDigit {c : Char} (h : c.isDigit = true) : c.isAlpha = false :=
  forall_isAlphanum (Q := fun c => c.isDigit = true → c.isAlpha = false) (by decide)
    (by simp [Char.isAlphanum, h]) h

lemma isUpper_of_isDigit {c : Char} (h : c.isDigit = true) : c.isUpper = false :=
  (Bool.or_eq_false_iff.1 (isAlpha_of_isDigit h)).1

lemma isLower_of_isUpper {c : Char} (h : c.isUpper = true) : c.isLower = false := by
  simpa using Char.not_isLower_of_isUpper h

lemma isDigit_of_isAlpha {c : Char} (h : c.isAlpha = true) : c.isDigit = false := by
  by_contra hDigit
  simp [isAlpha_of_isDigit (by simpa using hDigit)] at h

lemma isAlpha_of_isAlphanum {c : Char} (h : c.isAlphanum = true) (hDigit : c.isDigit = false) :
    c.isAlpha = true := by
  simpa [Char.isAlphanum, hDigit] using h

lemma toLower_eq_self {c : Char} (h : c.isDigit = true) : c.toLower = c :=
  Char.toLower_eq_of_not_isUpper (by simp [isUpper_of_isDigit h])

lemma toUpper_eq_self {c : Char} (h : c.isDigit = true) : c.toUpper = c :=
  Char.toUpper_eq_of_not_isLower (by simp [(Bool.or_eq_false_iff.1 (isAlpha_of_isDigit h)).2])

@[simp]
lemma isDigit_toLower (c : Char) : c.toLower.isDigit = c.isDigit := by
  cases hAlpha : c.isAlpha with
  | true =>
    rw [isDigit_of_isAlpha hAlpha, isDigit_of_isAlpha (by simpa using hAlpha)]
  | false =>
    rw [Char.toLower_eq_of_not_isUpper]
    simp [(Bool.or_eq_false_iff.1 hAlpha).1]

@[simp]
lemma isAlphanum_toLower (c : Char) : c.toLower.isAlphanum = c.isAlphanum := by
  simp [Char.isAlphanum]

lemma isAlphanum_eq_of_toLower_eq {a c : Char} (h : a.toLower = c.toLower) :
    a.isAlphanum = c.isAlphanum := by
  rw [← isAlphanum_toLower, h, isAlphanum_toLower]

@[simp]
lemma isAlphanum_toUpper (c : Char) : c.toUpper.isAlphanum = c.isAlphanum :=
  isAlphanum_eq_of_toLower_eq c.toLower_toUpper_eq_toLower

lemma isPart_of_mem_lowerCase {word : Text} (hWord : ∀ c ∈ word, c.isAlphanum = true) {c : Char}
    (h : c ∈ lowerCase word) : IsPart c := by
  obtain ⟨d, hd, rfl⟩ := List.mem_map.1 h
  exact .inl ((isAlphanum_toLower d).trans (hWord d hd))

lemma isPart_of_mem_capitalized {word : Text} (hWord : ∀ c ∈ word, c.isAlphanum = true) {c : Char}
    (h : c ∈ capitalized word) : IsPart c := by
  cases word with
  | nil => simp [capitalized] at h
  | cons d rest =>
    rcases List.mem_cons.1 h with rfl | h
    · exact .inl ((isAlphanum_toUpper d).trans (hWord d List.mem_cons_self))
    · exact isPart_of_mem_lowerCase (fun x hx => hWord x (List.mem_cons_of_mem _ hx)) h

lemma isPart_of_mem_attached {word : Text} (hWord : ∀ c ∈ word, c.isAlphanum = true) {c : Char}
    (h : c ∈ attached word) : IsPart c := by
  cases word with
  | nil => simp [attached] at h
  | cons d rest =>
    rw [attached] at h
    split at h
    · rcases List.mem_cons.1 h with rfl | h
      · exact .inr rfl
      · rcases List.mem_cons.1 h with rfl | h
        · exact .inl (hWord _ List.mem_cons_self)
        · exact isPart_of_mem_lowerCase (fun x hx => hWord x (List.mem_cons_of_mem _ hx)) h
    · exact isPart_of_mem_capitalized hWord h

lemma isPart_of_mem_joined {first : Text → Text} {parts : List Text}
    (hParts : ∀ word ∈ parts, ∀ c ∈ word, c.isAlphanum = true)
    (hFirst : ∀ word, (∀ c ∈ word, c.isAlphanum = true) → ∀ c ∈ first word, IsPart c) {c : Char}
    (h : c ∈ joined first parts) : IsPart c := by
  cases parts with
  | nil => simp [joined] at h
  | cons word later =>
    rcases List.mem_append.1 h with h | h
    · exact hFirst word (hParts word List.mem_cons_self) c h
    · obtain ⟨other, hOther, h⟩ := List.mem_flatMap.1 h
      exact isPart_of_mem_attached (hParts other (List.mem_cons_of_mem _ hOther)) h

lemma isAlphanum_of_mem_words {identifier word : Text} (h : word ∈ words identifier) :
    ∀ c ∈ word, c.isAlphanum = true :=
  fun _ hc => (Text.mem_of_mem_runs h hc).1

lemma isPart_of_mem_camel {identifier : Text} {c : Char} (h : c ∈ camel identifier) : IsPart c :=
  isPart_of_mem_joined (fun _ => isAlphanum_of_mem_words)
    (fun _ hWord _ => isPart_of_mem_lowerCase hWord) h

lemma isPart_of_mem_pascal {identifier : Text} {c : Char} (h : c ∈ pascal identifier) :
    IsPart c :=
  isPart_of_mem_joined (fun _ => isAlphanum_of_mem_words)
    (fun _ hWord _ => isPart_of_mem_capitalized hWord) h

end Name

/-! ## Methods -/

namespace Text

lemma isSuffix_of_after? {lead text rest : Text} (h : after? lead text = some rest) :
    rest <:+ text :=
  ⟨lead, (after?_eq_some_iff.1 h).symm⟩

lemma skipBlanks_isSuffix (text : Text) : skipBlanks text <:+ text :=
  List.dropWhile_suffix _

lemma isSuffix_of_skipSomeBlanks? {text rest : Text} (h : skipSomeBlanks? text = some rest) :
    rest <:+ text := by
  cases text with
  | nil => simp [skipSomeBlanks?] at h
  | cons c later =>
    rw [skipSomeBlanks?] at h
    split at h
    · obtain rfl := Option.some.inj h
      exact (skipBlanks_isSuffix later).trans (List.suffix_cons c later)
    · simp at h

lemma append_of_span? {accepts : Char → Bool} {text run rest : Text}
    (h : text.span? accepts = some (run, rest)) : text = run ++ rest := by
  rw [span?] at h
  split at h
  · simp at h
  · next hRun =>
    obtain ⟨rfl, rfl⟩ := Prod.mk.inj (Option.some.inj h)
    exact List.takeWhile_append_dropWhile.symm

lemma exists_isSuffix_of_leftmost? {α : Type} {read : Text → Option α} {text : Text} {answer : α}
    (h : leftmost? read text = some answer) : ∃ rest, rest <:+ text ∧ read rest = some answer := by
  induction text with
  | nil => exact ⟨[], List.suffix_rfl, h⟩
  | cons c rest ih =>
    rw [leftmost?] at h
    split at h
    · next found hFound =>
      exact ⟨c :: rest, List.suffix_rfl, hFound.trans h⟩
    · obtain ⟨later, hLater, hRead⟩ := ih h
      exact ⟨later, hLater.trans (List.suffix_cons c rest), hRead⟩

end Text

namespace Payload

lemma subset_of_closed? {text type rest : Text} (h : closed? text = some (type, rest)) :
    type ⊆ text ∧ rest <:+ text := by
  simp only [closed?, Option.bind_eq_bind, Option.bind_eq_some_iff, Prod.exists] at h
  obtain ⟨run, later, hRun, last, hLast, h⟩ := h
  obtain ⟨rfl, rfl⟩ := Prod.mk.inj (Option.some.inj h)
  obtain rfl := Text.append_of_span? hRun
  have hLater := (Text.isSuffix_of_after? hLast).trans (Text.skipBlanks_isSuffix later)
  exact ⟨List.subset_append_left .., hLater.trans (List.suffix_append ..)⟩

lemma subset_of_marked? {text type rest : Text} (h : marked? text = some (type, rest)) :
    type ⊆ text ∧ rest <:+ text := by
  simp only [marked?, Option.bind_eq_bind, Option.bind_eq_some_iff] at h
  obtain ⟨later, hLater, inside, hInside, h⟩ := h
  have hSuffix := (Text.isSuffix_of_skipSomeBlanks? hInside).trans (Text.isSuffix_of_after? hLater)
  obtain ⟨hType, hRest⟩ := subset_of_closed? h
  exact ⟨fun _ hc => hSuffix.subset (hType hc), hRest.trans hSuffix⟩

lemma subset_of_read? {text rest : Text} {payload : Payload}
    (h : read? text = some (payload, rest)) : payload.type ⊆ text ∧ rest <:+ text := by
  simp only [read?, Option.bind_eq_bind, Option.bind_eq_some_iff] at h
  obtain ⟨later, hLater, h⟩ := h
  have hSuffix := (Text.skipBlanks_isSuffix later).trans (Text.isSuffix_of_after? hLater)
  suffices hInside : payload.type ⊆ Text.skipBlanks later ∧ rest <:+ Text.skipBlanks later from
    ⟨fun _ hc => hSuffix.subset (hInside.1 hc), hInside.2.trans hSuffix⟩
  split at h
  · next type last hMarked =>
    obtain ⟨rfl, rfl⟩ := Prod.mk.inj (Option.some.inj h)
    exact subset_of_marked? hMarked
  · obtain ⟨⟨type, last⟩, hClosed, h⟩ := Option.bind_eq_some_iff.1 h
    obtain ⟨rfl, rfl⟩ := Prod.mk.inj (Option.some.inj h)
    exact subset_of_closed? hClosed

end Payload

namespace Method

lemma subset_of_read? {text : Text} {method : Method} (h : read? text = some method) :
    method.name ⊆ text ∧ method.request.type ⊆ text ∧ method.response.type ⊆ text := by
  simp only [read?, Option.bind_eq_bind, Option.bind_eq_some_iff, Prod.exists] at h
  obtain ⟨afterRpc, hRpc, start, hStart, name, afterName, hName, request, afterRequest, hRequest,
    afterReturns, hReturns, response, last, hResponse, h⟩ := h
  obtain rfl := Option.some.inj h
  have hSuffix : start <:+ text :=
    (Text.isSuffix_of_skipSomeBlanks? hStart).trans (Text.isSuffix_of_after? hRpc)
  obtain rfl := Text.append_of_span? hName
  obtain ⟨hType, hAfter⟩ := Payload.subset_of_read? hRequest
  have hSuffix' : Text.skipBlanks afterName <:+ text :=
    ((Text.skipBlanks_isSuffix _).trans (List.suffix_append ..)).trans hSuffix
  have hSuffix'' : Text.skipBlanks afterReturns <:+ text :=
    (((Text.skipBlanks_isSuffix _).trans (Text.isSuffix_of_after? hReturns)).trans
      ((Text.skipBlanks_isSuffix _).trans hAfter)).trans hSuffix'
  obtain ⟨hType', -⟩ := Payload.subset_of_read? hResponse
  exact ⟨fun _ hc => hSuffix.subset (List.mem_append_left _ hc),
    fun _ hc => hSuffix'.subset (hType hc), fun _ hc => hSuffix''.subset (hType' hc)⟩

/-- The parts of a method stand in the line that declares it. -/
lemma subset_of_find? {line : Text} {method : Method} (h : find? line = some method) :
    method.name ⊆ line ∧ method.request.type ⊆ line ∧ method.response.type ⊆ line := by
  obtain ⟨rest, hRest, hRead⟩ := Text.exists_isSuffix_of_leftmost? h
  obtain ⟨hName, hRequest, hResponse⟩ := subset_of_read? hRead
  exact ⟨fun _ hc => hRest.subset (hName hc), fun _ hc => hRest.subset (hRequest hc),
    fun _ hc => hRest.subset (hResponse hc)⟩

end Method

/-! ## Statements -/

variable {P : Char → Prop}

/-- Whether all texts that a statement holds are made of characters with the property `P`. -/
def Statement.Over (P : Char → Prop) : Statement → Prop
  | .nothing => True
  | .comment line => ∀ c ∈ line, P c
  | .close => True
  | .header _ name => ∀ c ∈ name, P c
  | .oneLine _ name body => (∀ c ∈ name, P c) ∧ body.Over P
  | .method declared =>
    (∀ c ∈ declared.name, P c) ∧ (∀ c ∈ declared.request.type, P c) ∧
      ∀ c ∈ declared.response.type, P c
  | .unread line => ∀ c ∈ line, P c
  | .package name => ∀ c ∈ name, P c
  | .enumValue name => ∀ c ∈ name, P c
  | .field declared => (∀ c ∈ declared.type, P c) ∧ ∀ c ∈ declared.name, P c

namespace Statement

lemma over_member {label : Option Label} {words : List Text}
    (h : ∀ w ∈ words, ∀ c ∈ w, P c) : (member label words).Over P := by
  rcases words with _ | ⟨type, _ | ⟨second, later⟩⟩
  · trivial
  · exact ⟨h type (by simp), by simp⟩
  · rw [member]
    split
    · exact h type (by simp)
    · exact ⟨h type (by simp), h second (by simp)⟩

end Statement

lemma over_blockHead {words : List Text} (h : ∀ w ∈ words, ∀ c ∈ w, P c) :
    ∀ c ∈ (blockHead words).1, P c := by
  cases words with
  | nil => simp [blockHead]
  | cons name later =>
    rw [blockHead]
    split
    · exact fun c hc => h name List.mem_cons_self c (List.dropLast_subset name hc)
    · exact h name List.mem_cons_self

lemma over_unwords {words : List Text} (hBlank : P ' ') (h : ∀ w ∈ words, ∀ c ∈ w, P c) :
    ∀ c ∈ Text.unwords words, P c := by
  intro c hc
  induction words with
  | nil => simp at hc
  | cons word later ih =>
    cases later with
    | nil => exact h word (by simp) c (by simpa using hc)
    | cons next others =>
      rw [Text.unwords_cons_cons, List.mem_append, List.mem_cons] at hc
      rcases hc with hc | rfl | hc
      · exact h word (by simp) c hc
      · exact hBlank
      · exact ih (fun w hw => h w (List.mem_cons_of_mem _ hw)) hc

namespace Statement

/-- A statement is made of the characters of its line, and of the spaces put between the words of
a body. -/
lemma over_ofWords {line : Text} {words : List Text} (hBlank : P ' ') (hLine : ∀ c ∈ line, P c)
    (hWords : ∀ w ∈ words, ∀ c ∈ w, P c) : (ofWords line words).Over P := by
  fun_induction ofWords line words with
  | case1 => trivial
  | case2 => exact hLine
  | case3 => trivial
  | case4 line word later block hBlock name hHead =>
    have hName := over_blockHead fun w hw => hWords w (List.mem_cons_of_mem _ hw)
    rwa [hHead] at hName
  | case5 line word later block hBlock name inner more hHead body ih =>
    have hLater : ∀ w ∈ later, ∀ c ∈ w, P c := fun w hw => hWords w (List.mem_cons_of_mem _ hw)
    have hName := over_blockHead hLater
    have hBody : ∀ w ∈ body, ∀ c ∈ w, P c := by
      intro w hw
      refine hLater w (mem_of_mem_blockHead ?_)
      rw [hHead]
      exact mem_of_mem_withoutCloser hw
    rw [hHead] at hName
    -- the line of the body is not a part of the line: its words are joined anew, by spaces
    exact ⟨hName, ih (over_unwords hBlank hBody) hBody⟩
  | case6 line word later hKeyword found hFound =>
    obtain ⟨hName, hRequest, hResponse⟩ := Method.subset_of_find? hFound
    exact ⟨fun c hc => hLine c (hName hc), fun c hc => hLine c (hRequest hc),
      fun c hc => hLine c (hResponse hc)⟩
  | case7 => exact hLine
  | case8 line word later hKeyword =>
    -- a package is its first word without the semicolons
    intro c hc
    have hc := (List.mem_filter.1 hc).1
    cases later with
    | nil => simp at hc
    | cons name others => exact hWords name (by simp) c hc
  | case9 line word later hKeyword label hLabel =>
    exact over_member fun w hw => hWords w (List.mem_cons_of_mem _ hw)
  | case10 => exact over_member hWords

end Statement

/-! ## Rendered lines -/

/-- Whether a character neither ends a line nor is a brace. -/
def IsPlain (c : Char) : Prop :=
  c ∉ ['\n', '{', '}']

instance : DecidablePred IsPlain := fun c => inferInstanceAs (Decidable (c ∉ ['\n', '{', '}']))

lemma Name.IsPart.isPlain {c : Char} (h : IsPart c) : IsPlain c := by
  rcases h with h | rfl
  · exact forall_isAlphanum (Q := IsPlain) (by decide) h
  · decide

section Rendered

variable (hPlain : ∀ c, IsPlain c → P c)
include hPlain

lemma over_literal {literal : Text} (h : ∀ c ∈ literal, IsPlain c) : ∀ c ∈ literal, P c :=
  fun c hc => hPlain c (h c hc)

lemma over_camel (identifier : Text) : ∀ c ∈ Name.camel identifier, P c :=
  fun c hc => hPlain c (Name.isPart_of_mem_camel hc).isPlain

lemma over_pascal (identifier : Text) : ∀ c ∈ Name.pascal identifier, P c :=
  fun c hc => hPlain c (Name.isPart_of_mem_pascal hc).isPlain

lemma over_fieldType {type : Text} (h : ∀ c ∈ type, P c) : ∀ c ∈ fieldType type, P c := by
  rw [fieldType]
  split
  · next primitive _ =>
    cases primitive <;> exact over_literal hPlain (by decide)
  · exact h

lemma over_field (dialect : Dialect) {field : Field} (h : ∀ c ∈ field.type, P c) :
    ∀ c ∈ field.render dialect, P c := by
  simp only [Field.render, List.forall_mem_append]
  refine ⟨⟨⟨⟨over_camel hPlain _, ?_⟩, over_literal hPlain (by decide)⟩,
    over_fieldType hPlain h⟩, ?_⟩
  · split <;> exact over_literal hPlain (by decide)
  · split <;> exact over_literal hPlain (by decide)

lemma over_payload (streams : StreamSetting) {payload : Payload} (h : ∀ c ∈ payload.type, P c) :
    ∀ c ∈ payload.render streams, P c := by
  rw [Payload.render]
  split
  · exact h
  · split
    · exact over_literal hPlain (by decide)
    · simp only [List.forall_mem_append]
      exact ⟨⟨over_literal hPlain (by decide), h⟩, over_literal hPlain (by decide)⟩

lemma over_signature (options : Options) {method : Method}
    (hRequest : ∀ c ∈ method.request.type, P c) (hResponse : ∀ c ∈ method.response.type, P c) :
    ∀ c ∈ method.signature options, P c := by
  simp only [Method.signature, Method.parameters, Method.parameterName, Method.result,
    List.forall_mem_append]
  refine ⟨⟨⟨⟨over_camel hPlain _, over_literal hPlain (by decide)⟩, ⟨⟨⟨over_camel hPlain _, ?_⟩,
    over_literal hPlain (by decide)⟩, over_payload hPlain _ hRequest⟩, ?_⟩,
    over_literal hPlain (by decide)⟩, ?_⟩
  · split <;> exact over_literal hPlain (by decide)
  · split <;> exact over_literal hPlain (by decide)
  · split
    · simp only [List.forall_mem_append]
      exact ⟨⟨over_literal hPlain (by decide), over_payload hPlain _ hResponse⟩,
        over_literal hPlain (by decide)⟩
    · exact over_payload hPlain _ hResponse

lemma over_opener (hOpen : P '{') : ∀ c ∈ [' ', '{'], P c := by
  rintro c hc
  rcases List.mem_pair.1 hc with rfl | rfl
  · exact hPlain ' ' (by decide)
  · exact hOpen

lemma over_opening (hOpen : P '{') (block : Block) {name : Text} (h : ∀ c ∈ name, P c) :
    ∀ c ∈ block.opening name, P c := by
  unfold Block.opening
  simp only [List.forall_mem_append]
  refine ⟨⟨⟨⟨over_literal hPlain (by decide), ?_⟩, over_literal hPlain (by decide)⟩, h⟩,
    over_opener hPlain hOpen⟩
  cases block <;> exact over_literal hPlain (by decide)

lemma over_packageOpening (hOpen : P '{') (name : Text) : ∀ c ∈ packageOpening name, P c := by
  unfold packageOpening
  simp only [List.forall_mem_append]
  exact ⟨⟨over_literal hPlain (by decide), over_pascal hPlain _⟩, over_opener hPlain hOpen⟩

/-- A statement is rendered with its own characters, plain ones and braces. -/
lemma over_render (hOpen : P '{') (hClose : P '}') (options : Options) (dialect : Dialect)
    {statement : Statement} (h : statement.Over P) :
    ∀ text ∈ statement.render options dialect, ∀ c ∈ text, P c := by
  have hCloser : ∀ c ∈ ['}'], P c := fun c hc => List.mem_singleton.1 hc ▸ hClose
  induction statement with
  | nothing =>
    rw [Statement.render]
    split
    · simp
    · rintro _ ⟨⟩ c hc
      simp at hc
  | comment line =>
    rw [Statement.render]
    split
    · rintro _ ⟨⟩
      exact h
    · simp
  | close =>
    rintro _ ⟨⟩
    exact hCloser
  | header block name =>
    rintro _ ⟨⟩
    exact over_opening hPlain hOpen block h
  | oneLine block name body ih =>
    rintro _ ⟨⟩
    simp only [List.forall_mem_append]
    refine ⟨⟨over_opening hPlain hOpen block h.1, ?_⟩, hCloser⟩
    cases hBody : body.render options dialect with
    | none => simp
    | some inside => exact ih h.2 inside hBody
  | method declared =>
    rintro _ ⟨⟩
    exact over_signature hPlain options h.2.1 h.2.2
  | unread line =>
    rintro _ ⟨⟩
    exact h
  | package name =>
    rintro _ ⟨⟩
    exact over_packageOpening hPlain hOpen name
  | enumValue name =>
    rintro _ ⟨⟩
    simp only [List.forall_mem_append]
    exact ⟨h, over_literal hPlain (by decide)⟩
  | field declared =>
    rintro _ ⟨⟩
    exact over_field hPlain dialect h.1

end Rendered

end ProtoTypings
