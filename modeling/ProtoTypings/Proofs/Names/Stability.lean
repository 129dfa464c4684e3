import Mathlib.Tactic.TFAE
import ProtoTypings.Proofs.Names.Conversion

/-!
# When a conversion of names is stable

A converted name is converted once more where a generated name is read as an identifier again. This
changes nothing as long as the words of the name are those of the identifier. They are not where a
word that is a single letter stands in front of a word with no letter behind its first: `a_b_c` is
converted to `aBC`, whose words are `a` and `BC`, and further to `aBc`.

Which words a converted name has is found from its last word to its first: the words behind the
first begin with a capital or with an underscore, and a capital in front of them belongs to the next
word only in the case above (`runsOn_later_iff`). The main statement is
`Name.conversion_stable_iff`.
-/

namespace ProtoTypings.Name

open Text

/-! ## Words that run together -/

/-- Whether a word begins with a letter that no other letter follows. -/
def BeginsAlone (word : Text) : Prop :=
  ∃ c more, word = c :: more ∧ c.isAlpha = true ∧
    (more = [] ∨ ∃ d ∈ more.head?, d.isDigit = true)

/-- Whether a word and the next one are one word in a converted name. -/
def RunTogether (word next : Text) : Prop :=
  (∃ c, word = [c] ∧ c.isAlpha = true) ∧ BeginsAlone next

/-- Whether the word at a position runs together with the one behind it. -/
def RunTogetherAt (parts : List Text) (i : ℕ) : Prop :=
  ∃ word ∈ parts[i]?, ∃ next ∈ parts[i + 1]?, RunTogether word next

/-- Whether no word runs together with the next one. -/
def KeptApart (parts : List Text) : Prop :=
  parts.IsChain fun word next => ¬ RunTogether word next

lemma keptApart_cons {word : Text} {later : List Text} :
    KeptApart (word :: later)
      ↔ (∀ next ∈ later.head?, ¬ RunTogether word next) ∧ KeptApart later :=
  List.isChain_cons

lemma keptApart_iff {parts : List Text} : KeptApart parts ↔ ∀ i, ¬ RunTogetherAt parts i := by
  induction parts with
  | nil => simp [KeptApart, RunTogetherAt]
  | cons word later ih =>
    rw [keptApart_cons, ih]
    constructor
    · rintro ⟨hFirst, hLater⟩ i
      cases i with
      | zero =>
        rintro ⟨_, ⟨⟩, next, hNext, hRun⟩
        exact hFirst next (List.head?_eq_getElem?.trans hNext) hRun
      | succ i => exact hLater i
    · intro h
      refine ⟨fun next hNext hRun => ?_, fun i => h (i + 1)⟩
      exact h 0 ⟨word, rfl, next, List.head?_eq_getElem?.symm.trans hNext, hRun⟩

/-! ## The words of a converted name -/

lemma not_isLower_head?_later {later : List Text} (h : ∀ word ∈ later, IsNameWord word) :
    ∀ c ∈ (later.flatMap attached).head?, c.isLower = false := by
  intro c hc
  rcases head?_later h c hc with rfl | hUpper
  · decide
  · exact isLower_of_isUpper hUpper

/-- No small letter follows the capital of a word exactly if the word goes on without a letter. -/
lemma any_isLower_eq_false_iff {more : Text} (hMore : ∀ c ∈ more, c.isAlphanum = true)
    {later : List Text} (hLater : ∀ word ∈ later, IsNameWord word) :
    (lowerCase more ++ later.flatMap attached).head?.any Char.isLower = false
      ↔ more = [] ∨ ∃ d ∈ more.head?, d.isDigit = true := by
  cases more with
  | nil => simpa [lowerCase, Option.any_eq_false] using not_isLower_head?_later hLater
  | cons d more =>
    have hLetter : d.isAlpha = false ↔ d.isDigit = true := by
      refine ⟨fun h => ?_, isAlpha_of_isDigit⟩
      by_contra hDigit
      simp [isAlpha_of_isAlphanum (hMore d List.mem_cons_self) (by simpa using hDigit)] at h
    simpa [lowerCase, Char.isLower_toLower_eq_isAlpha] using hLetter

/-- A letter or digit belongs to the words behind it exactly if it is a capital, and the next word
is a letter with no other letter behind it. -/
lemma runsOn_later_iff {c : Char} (hc : c.isAlphanum = true) {later : List Text}
    (h : ∀ word ∈ later, IsNameWord word) :
    runsOn Char.isAlphanum partsWords c (later.flatMap attached) = true
      ↔ c.isUpper = true ∧ ∃ next ∈ later.head?, BeginsAlone next := by
  cases later with
  | nil => simp [runsOn]
  | cons next later =>
    obtain ⟨hNext, hLater⟩ := List.forall_mem_cons.1 h
    obtain ⟨d, more, rfl, hd, hMore⟩ := hNext.exists_cons
    have hBegins : (∃ next ∈ ((d :: more) :: later).head?, BeginsAlone next)
        ↔ d.isAlpha = true ∧ (more = [] ∨ ∃ e ∈ more.head?, e.isDigit = true) := by
      simp [BeginsAlone]
    rw [hBegins, List.flatMap_cons, attached_eq]
    cases hDigit : d.isDigit with
    | true => simp [runsOn, isAlpha_of_isDigit hDigit, show '_'.isAlphanum = false by decide]
    | false =>
      have hAlpha : d.isAlpha = true := isAlpha_of_isAlphanum hd hDigit
      have hUpper : d.toUpper.isUpper = true := (Char.isUpper_toUpper_eq_isAlpha d).trans hAlpha
      rw [if_neg (by simp), capitalized, List.cons_append, runsOn, isAlphanum_toUpper, hd,
        Bool.true_and, Bool.not_eq_true', partsWords_eq_false_iff hc hUpper,
        any_isLower_eq_false_iff hMore hLater, and_iff_right hAlpha]

/-- A word without capitals behind its first character stays a word in front of other words, unless
it is a capital that belongs to the next of them. -/
lemma words_append_later {c : Char} {rest : Text} (hc : c.isAlphanum = true)
    (hRest : ∀ d ∈ rest, d.isAlphanum = true ∧ d.isUpper = false) {later : List Text}
    (hLater : ∀ word ∈ later, IsNameWord word)
    (hApart : rest = [] → c.isUpper = true → ∀ next ∈ later.head?, ¬ BeginsAlone next) :
    words (c :: rest ++ later.flatMap attached)
      = (c :: rest) :: words (later.flatMap attached) := by
  have hEnd : ∀ a ∈ (c :: rest).getLast?,
      runsOn Char.isAlphanum partsWords a (later.flatMap attached) = false := by
    intro a ha
    have hMem : a ∈ c :: rest := List.mem_of_getLast? ha
    have hAlphanum : a.isAlphanum = true := by
      rcases List.mem_cons.1 hMem with rfl | hMem
      · exact hc
      · exact (hRest a hMem).1
    rw [← Bool.not_eq_true, runsOn_later_iff hAlphanum hLater]
    rintro ⟨hUpper, next, hNext, hBegins⟩
    rcases rest.eq_nil_or_concat with rfl | ⟨front, last, rfl⟩
    · obtain rfl := Option.some.inj ha
      exact hApart rfl hUpper next hNext hBegins
    · have hLast : last = a := by simpa [List.getLast?_cons] using ha
      simp [(hRest a (by simp [hLast])).2] at hUpper
  have hAppend := runs_append hEnd (partsWords_append (not_isLower_head?_later hLater))
  rw [words, hAppend, ← words, words_eq_singleton hc hRest]
  rfl

lemma no_capital_of_mem_lowerCase {word : Text} (h : ∀ c ∈ word, c.isAlphanum = true) :
    ∀ d ∈ lowerCase word, d.isAlphanum = true ∧ d.isUpper = false := by
  intro d hd
  refine ⟨isAlphanum_lowerCase h d hd, ?_⟩
  obtain ⟨c, -, rfl⟩ := List.mem_map.1 hd
  simp

/-- The underscore in front of a word belongs to no word. -/
lemma words_attached_append (word rest : Text) :
    words (attached word ++ rest) = words (capitalized word ++ rest) := by
  cases word with
  | nil => rfl
  | cons d more =>
    rw [attached_eq]
    split
    · exact words_append_mark (by decide : '_'.isAlphanum = false) [] _
    · rfl

section Later

variable {word : Text} {later : List Text}

lemma words_later_cons (h : ∀ w ∈ word :: later, IsNameWord w)
    (hApart : ∀ next ∈ later.head?, ¬ RunTogether word next) :
    words ((word :: later).flatMap attached)
      = capitalized word :: words (later.flatMap attached) := by
  obtain ⟨hWord, hLater⟩ := List.forall_mem_cons.1 h
  obtain ⟨c, more, rfl, hc, hMore⟩ := hWord.exists_cons
  rw [List.flatMap_cons, words_attached_append]
  refine words_append_later ((isAlphanum_toUpper c).trans hc) (no_capital_of_mem_lowerCase hMore)
    hLater ?_
  intro hAlone hCapital next hNext hBegins
  obtain rfl : more = [] := List.map_eq_nil_iff.1 hAlone
  have hAlpha : c.isAlpha = true := (Char.isUpper_toUpper_eq_isAlpha c).symm.trans hCapital
  exact hApart next hNext ⟨⟨c, rfl, hAlpha⟩, hBegins⟩

lemma words_later_cons_of_runTogether (h : ∀ word ∈ later, IsNameWord word) {next : Text}
    (hNext : next ∈ later.head?) (hRun : RunTogether word next) :
    ∃ c, words ((word :: later).flatMap attached)
      = consFirst c (words (later.flatMap attached)) := by
  obtain ⟨⟨c, rfl, hc⟩, hBegins⟩ := hRun
  have hUpper : c.toUpper.isUpper = true := (Char.isUpper_toUpper_eq_isAlpha c).trans hc
  have hAlphanum : c.toUpper.isAlphanum = true := by simp [Char.isAlphanum, Char.isAlpha, hUpper]
  have hRunsOn := (runsOn_later_iff hAlphanum h).2 ⟨hUpper, next, hNext, hBegins⟩
  refine ⟨c.toUpper, ?_⟩
  rw [List.flatMap_cons, words_attached_append, words]
  exact (if_pos hAlphanum).trans (if_pos hRunsOn)

/-- Words that are kept apart are the words of what they are converted to. -/
lemma words_later (h : ∀ word ∈ later, IsNameWord word) (hApart : KeptApart later) :
    words (later.flatMap attached) = later.map capitalized := by
  induction later with
  | nil => rfl
  | cons word later ih =>
    obtain ⟨hFirst, hLater⟩ := keptApart_cons.1 hApart
    rw [words_later_cons h hFirst, ih (List.forall_mem_cons.1 h).2 hLater, List.map_cons]

/-- No word is added, and one gets lost where two run together. -/
lemma length_words_later (h : ∀ word ∈ later, IsNameWord word) :
    (words (later.flatMap attached)).length ≤ later.length ∧
      ((words (later.flatMap attached)).length = later.length → KeptApart later) := by
  induction later with
  | nil => exact ⟨le_rfl, fun _ => List.isChain_nil⟩
  | cons word later ih =>
    have hLater := (List.forall_mem_cons.1 h).2
    obtain ⟨hLength, hApart⟩ := ih hLater
    by_cases hRun : ∃ next ∈ later.head?, RunTogether word next
    · obtain ⟨next, hNext, hRun⟩ := hRun
      obtain ⟨c, hWords⟩ := words_later_cons_of_runTogether hLater hNext hRun
      have hPos : 0 < later.length := by
        cases later with
        | nil => simp at hNext
        | cons => simp
      rw [hWords, length_consFirst, List.length_cons]
      omega
    · have hFirst : ∀ next ∈ later.head?, ¬ RunTogether word next := by simpa using hRun
      rw [words_later_cons h hFirst, keptApart_cons, List.length_cons, List.length_cons]
      exact ⟨by omega, fun hEq => ⟨hFirst, hApart (by omega)⟩⟩

end Later

/-! ## Converting twice -/

/-- Whether a character begins a word behind the first: an underscore or a capital. -/
def isMark (c : Char) : Bool :=
  c = '_' || c.isUpper

lemma countP_isMark_lowerCase {word : Text} (h : ∀ c ∈ word, c.isAlphanum = true) :
    (lowerCase word).countP isMark = 0 := by
  refine List.countP_eq_zero.2 fun c hc => ?_
  obtain ⟨hAlphanum, hUpper⟩ := no_capital_of_mem_lowerCase h c hc
  simp [isMark, hUpper, ne_underscore hAlphanum]

lemma countP_isMark_attached {word : Text} (h : IsNameWord word) :
    (attached word).countP isMark = 1 := by
  obtain ⟨d, more, rfl, hd, hMore⟩ := h.exists_cons
  have hCount := countP_isMark_lowerCase hMore
  rw [attached]
  split
  · next hDigit => simp [isMark, hCount, isUpper_of_isDigit hDigit, ne_underscore hd]
  · next hDigit =>
    have hAlpha : d.isAlpha = true := isAlpha_of_isAlphanum hd (by simpa using hDigit)
    simp [capitalized, isMark, hCount, Char.isUpper_toUpper_eq_isAlpha, hAlpha]

lemma countP_isMark_later {later : List Text} (h : ∀ word ∈ later, IsNameWord word) :
    (later.flatMap attached).countP isMark = later.length := by
  induction later with
  | nil => rfl
  | cons word later ih =>
    obtain ⟨hWord, hLater⟩ := List.forall_mem_cons.1 h
    rw [List.flatMap_cons, List.countP_append, countP_isMark_attached hWord, ih hLater,
      List.length_cons, Nat.add_comm]

variable {change : Char → Char}

/-- The number of words can be read off the name they are joined to. -/
lemma length_eq_countP_tail_joined {word : Text} {later : List Text}
    (h : ∀ w ∈ word :: later, IsNameWord w) :
    (joined (recased change) (word :: later)).tail.countP isMark = later.length := by
  obtain ⟨hWord, hLater⟩ := List.forall_mem_cons.1 h
  obtain ⟨c, more, rfl, -, hMore⟩ := hWord.exists_cons
  rw [joined, recased, List.cons_append, List.tail_cons, List.countP_append,
    countP_isMark_lowerCase hMore, countP_isMark_later hLater, Nat.zero_add]

lemma length_eq_of_joined_eq {parts others : List Text} (h : ∀ word ∈ parts, IsNameWord word)
    (hOthers : ∀ word ∈ others, IsNameWord word)
    (hJoined : joined (recased change) parts = joined (recased change) others) :
    parts.length = others.length := by
  have hne : ∀ {word : Text} {later : List Text}, (∀ w ∈ word :: later, IsNameWord w) →
      joined (recased change) (word :: later) ≠ [] := by
    intro word later h
    obtain ⟨c, more, rfl, -⟩ := (h word List.mem_cons_self).exists_cons
    exact List.cons_ne_nil _ _
  cases parts with
  | nil =>
    cases others with
    | nil => rfl
    | cons word later => exact absurd hJoined.symm (hne hOthers)
  | cons word later =>
    cases others with
    | nil => exact absurd hJoined (hne h)
    | cons other rest =>
      have hCount : (joined (recased change) (word :: later)).tail.countP isMark = later.length :=
        length_eq_countP_tail_joined h
      rw [hJoined, length_eq_countP_tail_joined hOthers] at hCount
      rw [List.length_cons, List.length_cons, hCount]

namespace IsCaseChange

lemma recased_lowerCase (hChange : IsCaseChange change) (word : Text) :
    recased change (lowerCase word) = recased change word := by
  cases word with
  | nil => rfl
  | cons c rest => exact congrArg₂ List.cons (hChange.of_toLower c) (lowerCase_lowerCase rest)

/-- The case of the letters of words has no say in the name they are joined to. -/
lemma joined_map_lowerCase (hChange : IsCaseChange change) (parts : List Text) :
    joined (recased change) (parts.map lowerCase) = joined (recased change) parts := by
  have hAttached : ∀ word, attached (lowerCase word) = attached word := by
    intro word
    cases word with
    | nil => rfl
    | cons d more =>
      have hCapitalized : capitalized (lowerCase (d :: more)) = capitalized (d :: more) := by
        rw [capitalized_eq_recased]
        exact isCaseChange_toUpper.recased_lowerCase (d :: more)
      rw [lowerCase, List.map_cons] at hCapitalized ⊢
      rw [attached_eq, attached_eq, hCapitalized, isDigit_toLower]
  cases parts with
  | nil => rfl
  | cons word later =>
    simp only [List.map_cons, joined, hChange.recased_lowerCase, List.flatMap_map, hAttached]

/-- Taking a name apart and joining its words once more gives the same name exactly if its words are
those that it was joined from, up to case; `apart` says when none of them gets lost. -/
lemma stable_tfae (hChange : IsCaseChange change) {parts : List Text}
    (h : ∀ word ∈ parts, IsNameWord word) {apart : Prop}
    (hApart : apart →
      (words (joined (recased change) parts)).map lowerCase = parts.map lowerCase)
    (hLength : (words (joined (recased change) parts)).length = parts.length → apart) :
    List.TFAE [apart,
      (words (joined (recased change) parts)).map lowerCase = parts.map lowerCase,
      joined (recased change) (words (joined (recased change) parts))
        = joined (recased change) parts] := by
  tfae_have 1 → 2 := hApart
  tfae_have 2 → 3 := by
    intro hWords
    rw [← hChange.joined_map_lowerCase, hWords, hChange.joined_map_lowerCase]
  tfae_have 3 → 1 := fun hJoined =>
    hLength (length_eq_of_joined_eq (fun _ => isNameWord_of_mem_words) h hJoined)
  tfae_finish

end IsCaseChange

/-- The words of a name in camel case: its first word is in small letters, and so only the words
behind it can run together. -/
lemma words_joined_toLower {word : Text} {later : List Text}
    (h : ∀ w ∈ word :: later, IsNameWord w) :
    words (joined (recased Char.toLower) (word :: later))
      = lowerCase word :: words (later.flatMap attached) := by
  obtain ⟨hWord, hLater⟩ := List.forall_mem_cons.1 h
  obtain ⟨c, more, rfl, hc, hMore⟩ := hWord.exists_cons
  refine words_append_later ((isAlphanum_toLower c).trans hc) (no_capital_of_mem_lowerCase hMore)
    hLater fun _ hCapital => ?_
  simp at hCapital

/-- The words of a name in Pascal case, which only lacks the underscore of the first word. -/
lemma words_joined_toUpper (parts : List Text) :
    words (joined (recased Char.toUpper) parts) = words (parts.flatMap attached) := by
  cases parts with
  | nil => rfl
  | cons word later =>
    rw [joined, ← capitalized_eq_recased, List.flatMap_cons, words_attached_append]

lemma map_lowerCase_capitalized (parts : List Text) :
    (parts.map capitalized).map lowerCase = parts.map lowerCase := by
  rw [capitalized_eq_recased, List.map_map]
  exact List.map_congr_left fun word _ => isCaseChange_toUpper.lowerCase_recased word

lemma camel_tfae (identifier : Text) :
    List.TFAE [∀ i, 1 ≤ i → ¬ RunTogetherAt (words identifier) i,
      (words (camel identifier)).map lowerCase = (words identifier).map lowerCase,
      camel (camel identifier) = camel identifier] := by
  have h : ∀ word ∈ words identifier, IsNameWord word := fun _ => isNameWord_of_mem_words
  rw [camel_eq_joined (camel identifier), camel_eq_joined identifier]
  generalize words identifier = parts at h ⊢
  have hTail : (∀ i, 1 ≤ i → ¬ RunTogetherAt parts i) ↔ KeptApart parts.tail := by
    rw [keptApart_iff]
    cases parts with
    | nil => simp [RunTogetherAt]
    | cons word later =>
      refine ⟨fun hApart i => hApart (i + 1) (by omega), fun hApart i hi => ?_⟩
      obtain ⟨i, rfl⟩ := Nat.exists_eq_add_of_le' hi
      exact hApart i
  rw [hTail]
  cases parts with
  | nil => exact isCaseChange_toLower.stable_tfae h (fun _ => rfl) fun _ => List.isChain_nil
  | cons word later =>
    have hLater := (List.forall_mem_cons.1 h).2
    refine isCaseChange_toLower.stable_tfae h (fun hApart => ?_) fun hLength => ?_
    · rw [words_joined_toLower h, words_later hLater hApart, List.map_cons, lowerCase_lowerCase,
        map_lowerCase_capitalized, List.map_cons]
    · rw [words_joined_toLower h, List.length_cons, List.length_cons] at hLength
      exact (length_words_later hLater).2 (by omega)

lemma pascal_tfae (identifier : Text) :
    List.TFAE [∀ i, ¬ RunTogetherAt (words identifier) i,
      (words (pascal identifier)).map lowerCase = (words identifier).map lowerCase,
      pascal (pascal identifier) = pascal identifier] := by
  have h : ∀ word ∈ words identifier, IsNameWord word := fun _ => isNameWord_of_mem_words
  rw [pascal_eq_joined (pascal identifier), pascal_eq_joined identifier, ← keptApart_iff]
  refine isCaseChange_toUpper.stable_tfae h (fun hApart => ?_) fun hLength => ?_
  · rw [words_joined_toUpper, words_later h hApart, map_lowerCase_capitalized]
  · rw [words_joined_toUpper] at hLength
    exact (length_words_later h).2 hLength

/-- **Converting a converted name is harmless exactly where no two words run together.**  For camel
case the first word has no say, as it is in small letters. -/
theorem conversion_stable_iff :
    (∀ identifier : Text,
      List.TFAE [∀ i, 1 ≤ i → ¬ RunTogetherAt (words identifier) i,
        (words (camel identifier)).map lowerCase = (words identifier).map lowerCase,
        camel (camel identifier) = camel identifier] ∧
      List.TFAE [∀ i, ¬ RunTogetherAt (words identifier) i,
        (words (pascal identifier)).map lowerCase = (words identifier).map lowerCase,
        pascal (pascal identifier) = pascal identifier]) ∧
    camel "a_b_c".toList = "aBC".toList ∧ camel "aBC".toList = "aBc".toList :=
  ⟨fun identifier => ⟨camel_tfae identifier, pascal_tfae identifier⟩, by decide, by decide⟩

end ProtoTypings.Name
