import ProtoTypings.Proofs.Characters
import ProtoTypings.Proofs.Lines

/-!
# Runs of kept characters

What the runs of a text are, said without the recursion that finds them: they are made of the kept
characters in their order, and two kept characters that follow one another stand in different runs
exactly if something stands between them or the two are cut apart. `IsCutOf` collects these facts;
a text has one such list of runs and no other (`isCutOf_iff`).

The runs of a text that is put together, and of a class of characters inside another, are composed
of the runs of the parts (`runs_append`, `runs_eq_flatMap_runs`).
-/

namespace ProtoTypings.Text

/-- Whether `c` ends one of the parts and `d` begins the next, where `lead` is all that stands in
the parts before `c`. -/
def PartedIn (parts : List Text) (lead : Text) (c d : Char) : Prop :=
  ∃ front before after back,
    parts = front ++ (before ++ [c]) :: (d :: after) :: back ∧ front.flatten ++ before = lead

/-- Whether the kept characters of a text make up the given parts, in which a kept character `c` and
the next one, `d`, are parted exactly if `parted c gap d later` holds; `gap` stands between the two
and `later` behind them. -/
structure IsCutOf (keep : Char → Bool) (parted : Char → Text → Char → Text → Prop) (text : Text)
    (parts : List Text) : Prop where
  isPart : ∀ part ∈ parts, part ≠ [] ∧ ∀ c ∈ part, keep c = true
  flatten_eq : parts.flatten = text.filter keep
  parted_iff : ∀ {before gap later : Text} {c d : Char},
    text = before ++ c :: (gap ++ d :: later) → keep c = true → keep d = true →
      (∀ x ∈ gap, keep x = false) →
        (PartedIn parts (before.filter keep) c d ↔ parted c gap d later)

/-! ## Parts -/

lemma exists_of_flatten_eq_cons {parts : List Text} {c : Char} {rest : Text} (hne : [] ∉ parts)
    (h : parts.flatten = c :: rest) :
    ∃ part others, parts = (c :: part) :: others ∧ part ++ others.flatten = rest := by
  cases parts with
  | nil => simp at h
  | cons first others =>
    cases first with
    | nil => simp at hne
    | cons a part =>
      obtain ⟨rfl, hRest⟩ := List.cons.inj h
      exact ⟨part, others, rfl, hRest⟩

lemma partedIn_nil {parts : List Text} (hne : [] ∉ parts) {c d : Char} :
    PartedIn parts [] c d ↔ ∃ after back, parts = [c] :: (d :: after) :: back := by
  constructor
  · rintro ⟨front, before, after, back, rfl, hLead⟩
    obtain ⟨hFront, rfl⟩ := List.append_eq_nil_iff.1 hLead
    cases front with
    | nil => exact ⟨after, back, rfl⟩
    | cons first front =>
      obtain ⟨rfl, -⟩ := List.append_eq_nil_iff.1 hFront
      simp at hne
  · rintro ⟨after, back, rfl⟩
    exact ⟨[], [], after, back, rfl, rfl⟩

lemma partedIn_singleton_cons {parts : List Text} {lead : Text} {a c d : Char} :
    PartedIn ([a] :: parts) (a :: lead) c d ↔ PartedIn parts lead c d := by
  constructor
  · rintro ⟨front, before, after, back, hParts, hLead⟩
    cases front with
    | nil =>
      -- the first part would hold `a` and `c`
      obtain rfl : before = a :: lead := hLead
      simp at hParts
    | cons first front =>
      obtain ⟨rfl, rfl⟩ := List.cons.inj hParts
      exact ⟨front, before, after, back, rfl, (List.cons.inj hLead).2⟩
  · rintro ⟨front, before, after, back, rfl, rfl⟩
    exact ⟨[a] :: front, before, after, back, rfl, rfl⟩

lemma partedIn_consFirst {parts : List Text} (hne : parts ≠ []) (hNil : [] ∉ parts) {lead : Text}
    {a c d : Char} : PartedIn (consFirst a parts) (a :: lead) c d ↔ PartedIn parts lead c d := by
  obtain ⟨part, others, rfl⟩ := List.exists_cons_of_ne_nil hne
  constructor
  · rintro ⟨front, before, after, back, hParts, hLead⟩
    cases front with
    | nil =>
      obtain rfl : before = a :: lead := hLead
      obtain ⟨hPart, rfl⟩ := List.cons.inj hParts
      obtain rfl : part = lead ++ [c] := (List.cons.inj hPart).2
      exact ⟨[], lead, after, back, rfl, rfl⟩
    | cons first front =>
      obtain ⟨rfl, rfl⟩ := List.cons.inj hParts
      exact ⟨part :: front, before, after, back, rfl, (List.cons.inj hLead).2⟩
  · rintro ⟨front, before, after, back, hParts, rfl⟩
    cases front with
    | nil =>
      obtain ⟨rfl, rfl⟩ := List.cons.inj hParts
      exact ⟨[], a :: before, after, back, rfl, rfl⟩
    | cons first front =>
      obtain ⟨rfl, rfl⟩ := List.cons.inj hParts
      exact ⟨(a :: part) :: front, before, after, back, rfl, rfl⟩

/-! ## One way to cut -/

namespace IsCutOf

variable {keep : Char → Bool} {parted : Char → Text → Char → Text → Prop} {text rest : Text}
  {parts : List Text} {c : Char}

lemma nil_not_mem (h : IsCutOf keep parted text parts) : [] ∉ parts :=
  fun hNil => (h.isPart [] hNil).1 rfl

lemma of_nil : IsCutOf keep parted [] parts ↔ parts = [] := by
  constructor
  · intro h
    cases parts with
    | nil => rfl
    | cons first others =>
      have hFirst := h.nil_not_mem
      have hFlatten := h.flatten_eq
      simp_all
  · rintro rfl
    exact ⟨by simp, rfl, fun hText => by simp at hText⟩

lemma of_cons_not_keep (hc : keep c = false) :
    IsCutOf keep parted (c :: rest) parts ↔ IsCutOf keep parted rest parts := by
  constructor
  · intro h
    refine ⟨h.isPart, by simpa [hc] using h.flatten_eq, ?_⟩
    intro before gap later a b hText ha hb hGap
    have hParted := @h.parted_iff (c :: before) gap later a b (congrArg (c :: ·) hText) ha hb hGap
    rwa [List.filter_cons_of_neg (by simp [hc])] at hParted
  · intro h
    refine ⟨h.isPart, by simpa [hc] using h.flatten_eq, ?_⟩
    intro before gap later a b hText ha hb hGap
    cases before with
    | nil =>
      obtain ⟨rfl, -⟩ := List.cons.inj hText
      simp [hc] at ha
    | cons x before =>
      obtain ⟨rfl, hRest⟩ := List.cons.inj hText
      rw [List.filter_cons_of_neg (by simp [hc])]
      exact h.parted_iff hRest ha hb hGap

/-- What a cut of a text says about its first character, and about the rest. -/
lemma cons_keep_iff {later : List Text} (hc : keep c = true)
    (hIsPart : (∀ part ∈ parts, part ≠ [] ∧ ∀ c ∈ part, keep c = true)
      ↔ ∀ part ∈ later, part ≠ [] ∧ ∀ c ∈ part, keep c = true)
    (hFlatten : parts.flatten = c :: later.flatten)
    (hParted : ∀ lead a b, PartedIn parts (c :: lead) a b ↔ PartedIn later lead a b) :
    IsCutOf keep parted (c :: rest) parts ↔ IsCutOf keep parted rest later ∧
      ∀ {gap behind : Text} {d : Char}, rest = gap ++ d :: behind → keep d = true →
        (∀ x ∈ gap, keep x = false) → (PartedIn parts [] c d ↔ parted c gap d behind) := by
  have hFilter : ∀ text : Text, (c :: text).filter keep = c :: text.filter keep :=
    fun _ => List.filter_cons_of_pos hc
  constructor
  · intro h
    refine ⟨⟨hIsPart.1 h.isPart, ?_, ?_⟩, ?_⟩
    · have hText := h.flatten_eq
      rw [hFlatten, hFilter] at hText
      exact (List.cons.inj hText).2
    · intro before gap behind a b hRest ha hb hGap
      rw [← hParted, ← hFilter]
      exact h.parted_iff (congrArg (c :: ·) hRest) ha hb hGap
    · intro gap behind d hRest hd hGap
      exact @parted_iff _ _ _ _ h [] gap behind c d (congrArg (c :: ·) hRest) hc hd hGap
  · rintro ⟨h, hFirst⟩
    refine ⟨hIsPart.2 h.isPart, by rw [hFlatten, hFilter, h.flatten_eq], ?_⟩
    intro before gap behind a b hText ha hb hGap
    cases before with
    | nil =>
      obtain ⟨rfl, hRest⟩ := List.cons.inj hText
      exact hFirst hRest hb hGap
    | cons x before =>
      obtain ⟨rfl, hRest⟩ := List.cons.inj hText
      rw [hFilter, hParted]
      exact h.parted_iff hRest ha hb hGap

end IsCutOf

/-- The condition under which `runs` parts two kept characters: something stands between them, or
they are cut apart. -/
def RunsPart (cuts : Char → Char → Text → Bool) (c : Char) (gap : Text) (d : Char)
    (later : Text) : Prop :=
  gap ≠ [] ∨ cuts c d later = true

section Runs

variable {keep : Char → Bool} {cuts : Char → Char → Text → Bool}

lemma exists_of_runsOn {c : Char} {rest : Text} (h : runsOn keep cuts c rest = true) :
    ∃ d later, rest = d :: later ∧ keep d = true := by
  cases rest with
  | nil => simp [runsOn] at h
  | cons d later => exact ⟨d, later, rfl, by simp_all [runsOn]⟩

/-- A character is parted from the next kept one exactly if it does not run on. -/
lemma runsPart_iff {c d : Char} {gap later : Text} (hd : keep d = true)
    (hGap : ∀ x ∈ gap, keep x = false) :
    RunsPart cuts c gap d later ↔ runsOn keep cuts c (gap ++ d :: later) = false := by
  cases gap with
  | nil => simp [RunsPart, runsOn, hd]
  | cons x gap => simp [RunsPart, runsOn, hGap x List.mem_cons_self]

namespace IsCutOf

variable {rest : Text} {parts later : List Text} {c : Char}

/-- The first character is a part of its own exactly if it does not run on. -/
lemma singleton_cons_iff (hc : keep c = true) :
    IsCutOf keep (RunsPart cuts) (c :: rest) ([c] :: later)
      ↔ IsCutOf keep (RunsPart cuts) rest later ∧ runsOn keep cuts c rest = false := by
  rw [cons_keep_iff hc (by simp [hc]) rfl fun lead a b => partedIn_singleton_cons]
  refine and_congr_right fun h => ?_
  have hParted : ∀ {gap behind : Text} {d : Char}, rest = gap ++ d :: behind → keep d = true →
      (∀ x ∈ gap, keep x = false) → PartedIn ([c] :: later) [] c d := by
    intro gap behind d hRest hd hGap
    have hFlatten := h.flatten_eq
    rw [hRest, List.filter_append, List.filter_eq_nil_iff.2 (by simpa using hGap),
      List.nil_append, List.filter_cons_of_pos hd] at hFlatten
    obtain ⟨part, others, rfl, -⟩ := exists_of_flatten_eq_cons h.nil_not_mem hFlatten
    exact (partedIn_nil (by simpa using h.nil_not_mem)).2 ⟨part, others, rfl⟩
  constructor
  · intro hFirst
    by_contra hRun
    obtain ⟨d, behind, rfl, hd⟩ := exists_of_runsOn (by simpa using hRun)
    have hGap : ∀ x ∈ ([] : Text), keep x = false := by simp
    have hPart := (@hFirst [] behind d rfl hd hGap).1 (@hParted [] behind d rfl hd hGap)
    exact hRun ((runsPart_iff hd hGap).1 hPart)
  · rintro hRun gap behind d rfl hd hGap
    exact iff_of_true (hParted rfl hd hGap) ((runsPart_iff hd hGap).2 hRun)

/-- The first character goes to the part of the next one exactly if it runs on. -/
lemma consFirst_iff (hc : keep c = true) (hne : later ≠ []) (hNil : [] ∉ later) :
    IsCutOf keep (RunsPart cuts) (c :: rest) (consFirst c later)
      ↔ IsCutOf keep (RunsPart cuts) rest later ∧ runsOn keep cuts c rest = true := by
  obtain ⟨part, others, rfl⟩ := List.exists_cons_of_ne_nil hne
  rw [List.mem_cons, not_or] at hNil
  obtain ⟨d, part, rfl⟩ := List.exists_cons_of_ne_nil (Ne.symm hNil.1)
  have hParted : ∀ a, ¬ PartedIn (consFirst c ((d :: part) :: others)) [] c a := by
    intro a
    rw [partedIn_nil (by simpa [consFirst] using hNil.2)]
    rintro ⟨after, back, hParts⟩
    simp [consFirst] at hParts
  rw [cons_keep_iff hc (by simp [consFirst, hc]) rfl
    fun lead a b => partedIn_consFirst hne (by simpa using hNil)]
  refine and_congr_right fun h => ⟨fun hFirst => ?_, ?_⟩
  · by_contra hRun
    obtain ⟨gap, behind, rfl, hSkipped, hd, -⟩ := List.filter_eq_cons_iff.1 h.flatten_eq.symm
    have hGap : ∀ x ∈ gap, keep x = false := by simpa using hSkipped
    exact hParted d ((hFirst rfl hd hGap).2 ((runsPart_iff hd hGap).2 (by simpa using hRun)))
  · rintro hRun gap behind a rfl ha hGap
    refine iff_of_false (hParted a) fun hPart => ?_
    simp [(runsPart_iff ha hGap).1 hPart] at hRun

end IsCutOf

/-- **A text is cut into its runs, and in no other way.** -/
lemma isCutOf_iff {text : Text} {parts : List Text} :
    IsCutOf keep (RunsPart cuts) text parts ↔ parts = runs keep cuts text := by
  induction text generalizing parts with
  | nil => exact IsCutOf.of_nil
  | cons c rest ih =>
    have hRest : IsCutOf keep (RunsPart cuts) rest (runs keep cuts rest) := ih.2 rfl
    cases hc : keep c with
    | false => rw [IsCutOf.of_cons_not_keep hc, ih, runs, if_neg (by simp [hc])]
    | true =>
      rw [runs, if_pos hc]
      constructor
      · intro h
        have hFlatten := h.flatten_eq
        rw [List.filter_cons_of_pos hc] at hFlatten
        obtain ⟨part, others, rfl, -⟩ := exists_of_flatten_eq_cons h.nil_not_mem hFlatten
        cases part with
        | nil =>
          obtain ⟨hLater, hRun⟩ := (IsCutOf.singleton_cons_iff hc).1 h
          rw [if_neg (by simp [hRun]), ih.1 hLater]
        | cons d part =>
          have hNil : [] ∉ (d :: part) :: others := by simpa using h.nil_not_mem
          obtain ⟨hLater, hRun⟩ := (IsCutOf.consFirst_iff hc (List.cons_ne_nil _ _) hNil).1 h
          rw [if_pos hRun, ← ih.1 hLater]
          rfl
      · rintro rfl
        split
        · next hRun =>
          obtain ⟨d, later, rfl, hd⟩ := exists_of_runsOn hRun
          exact (IsCutOf.consFirst_iff hc (runs_ne_nil hd later) hRest.nil_not_mem).2 ⟨hRest, hRun⟩
        · next hRun =>
          exact (IsCutOf.singleton_cons_iff hc).2 ⟨hRest, by simpa using hRun⟩

/-- The runs of a text are its kept characters. -/
lemma flatten_runs (text : Text) : (runs keep cuts text).flatten = text.filter keep :=
  (isCutOf_iff.2 rfl : IsCutOf keep (RunsPart cuts) text _).flatten_eq

lemma nil_not_mem_runs (text : Text) : [] ∉ runs keep cuts text :=
  (isCutOf_iff.2 rfl : IsCutOf keep (RunsPart cuts) text _).nil_not_mem

/-! ## Runs of composed texts -/

lemma length_consFirst (c : Char) (parts : List Text) :
    (consFirst c parts).length = max 1 parts.length := by
  cases parts with
  | nil => rfl
  | cons part parts => simp [consFirst]

lemma consFirst_append {parts : List Text} (h : parts ≠ []) (c : Char) (later : List Text) :
    consFirst c (parts ++ later) = consFirst c parts ++ later := by
  obtain ⟨part, parts, rfl⟩ := List.exists_cons_of_ne_nil h
  rfl

/-- Where the last character of a text does not run on, the runs of what stands behind it are runs
of their own. -/
lemma runs_append {front rest : Text} (hEnd : ∀ c ∈ front.getLast?, runsOn keep cuts c rest = false)
    (hCuts : ∀ c d later, cuts c d (later ++ rest) = cuts c d later) :
    runs keep cuts (front ++ rest) = runs keep cuts front ++ runs keep cuts rest := by
  induction front with
  | nil => rfl
  | cons c front ih =>
    have hRunsOn : runsOn keep cuts c (front ++ rest) = runsOn keep cuts c front := by
      cases front with
      | nil => exact hEnd c rfl
      | cons d later => simp [runsOn, hCuts]
    have hRest : runs keep cuts (front ++ rest) = runs keep cuts front ++ runs keep cuts rest := by
      refine ih fun d hd => hEnd d ?_
      rw [List.getLast?_cons, hd]
      rfl
    rw [List.cons_append, runs, runs, hRunsOn, hRest]
    split
    · split
      · next hRun =>
        obtain ⟨d, later, rfl, hd⟩ := exists_of_runsOn hRun
        exact consFirst_append (runs_ne_nil hd later) c _
      · rfl
    · rfl

/-- No run goes over a character that is not kept. -/
lemma runs_append_mark {mark : Char} (hMark : keep mark = false) {rest : Text}
    (hCuts : ∀ c d later, cuts c d (later ++ mark :: rest) = cuts c d later) (front : Text) :
    runs keep cuts (front ++ mark :: rest) = runs keep cuts front ++ runs keep cuts rest := by
  have hRest : runs keep cuts (mark :: rest) = runs keep cuts rest := by simp [runs, hMark]
  rw [← hRest]
  exact runs_append (fun c _ => by simp [runsOn, hMark]) hCuts

/-- The runs of a smaller class of characters lie in the runs of a larger one, if no two characters
of the smaller class are cut apart. -/
lemma runs_eq_flatMap_runs {inner : Char → Bool} (hInner : ∀ c, inner c = true → keep c = true)
    (hCuts : ∀ c d later, inner d = true → cuts c d later = false) (text : Text) :
    runs inner (fun _ _ _ => false) text
      = (runs keep cuts text).flatMap (runs inner fun _ _ _ => false) := by
  induction text with
  | nil => rfl
  | cons c rest ih =>
    cases hc : keep c with
    | false =>
      have hNone : inner c = false := by
        by_contra h
        simp [hInner c (by simpa using h)] at hc
      rw [runs, if_neg (by simp [hNone]), ih, runs, if_neg (by simp [hc])]
    | true =>
      cases hRun : runsOn keep cuts c rest with
      | false =>
        have hAlone : ∀ a ∈ [c].getLast?, runsOn inner (fun _ _ _ => false) a rest = false := by
          rintro _ ⟨⟩
          by_contra h
          obtain ⟨d, later, rfl, hd⟩ := exists_of_runsOn (by simpa using h)
          simp [runsOn, hInner d hd, hCuts c d later hd] at hRun
        have hRuns := runs_append hAlone fun _ _ _ => rfl
        rw [List.singleton_append] at hRuns
        rw [hRuns, ih]
        simp [runs, hc, hRun]
      | true =>
        obtain ⟨d, later, rfl, hd⟩ := exists_of_runsOn hRun
        obtain ⟨part, others, hParts, -⟩ := exists_of_flatten_eq_cons
          (nil_not_mem_runs (d :: later)) ((flatten_runs _).trans (List.filter_cons_of_pos hd))
        have hStep : ∀ text, runs inner (fun _ _ _ => false) (c :: d :: text)
            = let next := runs inner (fun _ _ _ => false) (d :: text)
              if inner c then if inner d then consFirst c next else [c] :: next else next := by
          intro text
          simp [runs, runsOn]
        have hOuter : runs keep cuts (c :: d :: later) = (c :: d :: part) :: others := by
          rw [runs, if_pos hc, if_pos hRun, hParts]
          rfl
        rw [hParts, List.flatMap_cons] at ih
        rw [hOuter, List.flatMap_cons, hStep, hStep, ih]
        dsimp only
        split
        · split
          · next hd => exact consFirst_append (runs_ne_nil hd part) c _
          · rfl
        · rfl

end Runs

end ProtoTypings.Text
