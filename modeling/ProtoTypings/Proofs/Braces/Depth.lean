import ProtoTypings.Proofs.Characters

/-!
# The depth of braces

The depth of a text is the number of braces that it opens and does not close, and a text is balanced
if that number is zero and no brace is closed before it is opened.

Rendered lines are put together from pieces of known depth. What is kept of a piece is how far it
raises the depth, together with the promise that it does not first sink below both of its ends
(`Raises`); pieces with this property can be put one after the other.
-/

namespace ProtoTypings

namespace Text

/-! ## Depth -/

/-- What a character adds to the depth: `1` for an opening brace, `-1` for a closing one. -/
def weight (c : Char) : ℤ :=
  if c = '{' then 1 else if c = '}' then -1 else 0

/-- The number of braces that a text opens and does not close. -/
def depth (text : Text) : ℤ := (text.map weight).sum

@[simp] lemma depth_nil : depth [] = 0 := rfl

@[simp]
lemma depth_cons (c : Char) (text : Text) : depth (c :: text) = weight c + depth text := by
  simp [depth]

@[simp]
lemma depth_append (a b : Text) : depth (a ++ b) = depth a + depth b := by
  simp [depth]

/-- Whether the depth, `start` before the text, is negative nowhere in it and at neither end. -/
def StaysAbove (start : ℤ) : Text → Prop
  | [] => 0 ≤ start
  | c :: rest => 0 ≤ start ∧ StaysAbove (start + weight c) rest

instance decidableStaysAbove : ∀ (start : ℤ) (text : Text), Decidable (StaysAbove start text)
  | start, [] => inferInstanceAs (Decidable (0 ≤ start))
  | start, c :: rest =>
    haveI := decidableStaysAbove (start + weight c) rest
    inferInstanceAs (Decidable (0 ≤ start ∧ StaysAbove (start + weight c) rest))

/-- A text is balanced if it closes the braces that it opens, and none before it is opened. -/
structure Balanced (text : Text) : Prop where
  staysAbove : StaysAbove 0 text
  settled : depth text = 0

lemma StaysAbove.start_nonneg {start : ℤ} {text : Text} (h : StaysAbove start text) :
    0 ≤ start := by
  cases text with
  | nil => exact h
  | cons c rest => exact h.1

lemma staysAbove_append {start : ℤ} {a b : Text} :
    StaysAbove start (a ++ b) ↔ StaysAbove start a ∧ StaysAbove (start + depth a) b := by
  induction a generalizing start with
  | nil =>
    rw [List.nil_append, depth_nil, add_zero]
    exact ⟨fun h => ⟨h.start_nonneg, h⟩, fun h => h.2⟩
  | cons c a ih =>
    rw [List.cons_append, StaysAbove, StaysAbove, ih, depth_cons, and_assoc, add_assoc]

lemma StaysAbove.end_nonneg {start : ℤ} {text : Text} (h : StaysAbove start text) :
    0 ≤ start + depth text := by
  rw [← List.append_nil text, staysAbove_append] at h
  exact h.2

/-! ## Texts without braces -/

/-- Whether a character is no brace. -/
def IsNoBrace (c : Char) : Prop := c ∉ ['{', '}']

instance : DecidablePred IsNoBrace := fun c => inferInstanceAs (Decidable (c ∉ ['{', '}']))

/-- Whether there is no brace in a text. -/
def BraceFree (text : Text) : Prop := ∀ c ∈ text, IsNoBrace c

instance : DecidablePred BraceFree := fun text => inferInstanceAs (Decidable (∀ c ∈ text, _))

lemma weight_eq_zero {c : Char} (h : IsNoBrace c) : weight c = 0 := by
  rw [weight, if_neg (fun hc => h (by simp [hc])), if_neg (fun hc => h (by simp [hc]))]

lemma isNoBrace_of_isBlank {c : Char} (h : isBlank c = true) : IsNoBrace c := by
  intro hc
  rcases List.mem_pair.1 hc with rfl | rfl
  · exact absurd h (by decide)
  · exact absurd h (by decide)

/-! ## Rises -/

/-- A text raises the depth by `rise` and never sinks below both of its ends on the way. -/
structure Raises (rise : ℤ) (text : Text) : Prop where
  depth_eq : depth text = rise
  staysAbove : ∀ start, 0 ≤ start → 0 ≤ start + rise → StaysAbove start text

lemma raises_nil : Raises 0 [] :=
  ⟨rfl, fun _ h _ => h⟩

lemma raises_open : Raises 1 ['{'] :=
  ⟨by decide, fun _ h h' => ⟨h, h'⟩⟩

lemma raises_close : Raises (-1) ['}'] :=
  ⟨by decide, fun _ h h' => ⟨h, h'⟩⟩

/-- Texts may follow one another unless the depth sinks first and rises then. -/
lemma Raises.append {a b : Text} {i j : ℤ} (ha : Raises i a) (hb : Raises j b)
    (h : 0 ≤ i ∨ j ≤ 0) : Raises (i + j) (a ++ b) := by
  refine ⟨by rw [depth_append, ha.depth_eq, hb.depth_eq], fun start hStart hEnd => ?_⟩
  rw [staysAbove_append, ha.depth_eq]
  exact ⟨ha.staysAbove start hStart (by omega), hb.staysAbove (start + i) (by omega) (by omega)⟩

lemma BraceFree.raises {text : Text} (h : BraceFree text) : Raises 0 text := by
  induction text with
  | nil => exact raises_nil
  | cons c rest ih =>
    have hc := weight_eq_zero (h c List.mem_cons_self)
    have hRest := ih fun d hd => h d (List.mem_cons_of_mem _ hd)
    refine ⟨by rw [depth_cons, hc, hRest.depth_eq, add_zero], fun start hStart hEnd => ?_⟩
    refine ⟨hStart, ?_⟩
    rw [hc, add_zero]
    exact hRest.staysAbove start hStart hEnd

lemma Raises.after_braceFree {a b : Text} {rise : ℤ} (hb : Raises rise b) (ha : BraceFree a) :
    Raises rise (a ++ b) := by
  have hAll := ha.raises.append hb (by omega)
  rwa [zero_add] at hAll

lemma Raises.before_braceFree {a b : Text} {rise : ℤ} (ha : Raises rise a) (hb : BraceFree b) :
    Raises rise (a ++ b) := by
  have hAll := ha.append hb.raises (by omega)
  rwa [add_zero] at hAll

/-- A text in which a brace is opened, another one, and the brace that closes it. -/
lemma Raises.enclosed {before inside : Text} {i j : ℤ} (hBefore : Raises (i + 1) before)
    (hInside : Raises j inside) (h : 0 ≤ i + 1) : Raises (i + j) (before ++ inside ++ ['}']) := by
  have hAll := (hBefore.append hInside (by omega)).append raises_close (by omega)
  rwa [show i + 1 + j + -1 = i + j by omega] at hAll

/-! ## Texts whose braces come in pairs -/

/-- Whether each brace of a text belongs to a pair `{}`. -/
inductive Paired : Text → Prop
  | nil : Paired []
  | other {c : Char} {rest : Text} (hc : IsNoBrace c) (hRest : Paired rest) : Paired (c :: rest)
  | pair {rest : Text} (hRest : Paired rest) : Paired ('{' :: '}' :: rest)

lemma BraceFree.paired_append {a b : Text} (ha : BraceFree a) (hb : Paired b) :
    Paired (a ++ b) := by
  induction a with
  | nil => exact hb
  | cons c a ih =>
    exact .other (ha c List.mem_cons_self) (ih fun d hd => ha d (List.mem_cons_of_mem _ hd))

lemma BraceFree.paired {text : Text} (h : BraceFree text) : Paired text :=
  List.append_nil text ▸ h.paired_append .nil

lemma Paired.append {a b : Text} (ha : Paired a) (hb : Paired b) : Paired (a ++ b) := by
  induction ha with
  | nil => exact hb
  | other hc _ ih => exact .other hc ih
  | pair _ ih => exact .pair ih

lemma Paired.raises {text : Text} (h : Paired text) : Raises 0 text := by
  induction h with
  | nil => exact raises_nil
  | @other c rest hc _ ih =>
    have hFirst : BraceFree [c] := fun d hd => List.mem_singleton.1 hd ▸ hc
    exact hFirst.raises.append ih (by omega)
  | pair _ ih => exact (raises_open.append raises_close (by omega)).append ih (by omega)

/-- What follows the first character of such a text is again one, but for a first brace. -/
lemma Paired.tail {c : Char} {rest : Text} (h : Paired (c :: rest)) (hc : IsNoBrace c) :
    Paired rest := by
  cases h with
  | other _ hRest => exact hRest
  | pair _ => exact absurd hc (by decide)

lemma Paired.of_append {a b : Text} (h : Paired (a ++ b)) (ha : BraceFree a) : Paired b := by
  induction a with
  | nil => exact h
  | cons c a ih =>
    exact ih (h.tail (ha c List.mem_cons_self)) fun d hd => ha d (List.mem_cons_of_mem _ hd)

/-- A cut that treats the two braces alike does not cut a pair. -/
lemma Paired.span {accepts : Char → Bool} (hBraces : accepts '{' = accepts '}') {text : Text}
    (h : Paired text) : Paired (text.takeWhile accepts) ∧ Paired (text.dropWhile accepts) := by
  induction h with
  | nil => exact ⟨.nil, .nil⟩
  | @other c rest hc hRest ih =>
    cases hAccepts : accepts c with
    | true => simpa [hAccepts] using ⟨Paired.other hc ih.1, ih.2⟩
    | false => simpa [hAccepts] using ⟨Paired.nil, Paired.other hc hRest⟩
  | @pair rest hRest ih =>
    -- what is accepted of one brace is accepted of the other, so the cut is not between them
    cases hAccepts : accepts '{' with
    | true => simpa [hAccepts, ← hBraces] using ⟨Paired.pair ih.1, ih.2⟩
    | false => simpa [hAccepts] using ⟨Paired.nil, Paired.pair hRest⟩

/-- The part of such a text from a character on that is no closing brace is again one. -/
lemma Paired.of_isSuffix {c : Char} {text later : Text} (h : Paired text) (hc : c ≠ '}')
    (hLater : c :: later <:+ text) : Paired (c :: later) := by
  induction h with
  | nil => simp at hLater
  | @other d rest hd hRest ih =>
    rcases List.suffix_cons_iff.1 hLater with hAll | hLater
    · exact hAll ▸ .other hd hRest
    · exact ih hLater
  | @pair rest hRest ih =>
    rcases List.suffix_cons_iff.1 hLater with hAll | hLater
    · exact hAll ▸ .pair hRest
    · rcases List.suffix_cons_iff.1 hLater with hAll | hLater
      · -- only here would a pair be cut
        exact absurd (List.cons.inj hAll).1 hc
      · exact ih hLater

end Text

end ProtoTypings
