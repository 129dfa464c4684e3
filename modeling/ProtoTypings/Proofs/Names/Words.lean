import ProtoTypings.Proofs.Names.Runs

/-!
# The words of an identifier

Which words an identifier has, said by rules for two letters or digits that follow one another in it
(`Name.Parts`), and found in another way: in three passes over the whole text. The first two put
spaces where a word ends, the third turns everything that is no letter or digit into spaces, and the
words are what the spaces leave. A pass looks for its next match behind the last one, and the second
pass reads the spaces of the first; neither makes a difference, as no two matches of a pattern
overlap and no match holds a space.

The main statement is `Name.words_unique`.
-/

namespace ProtoTypings.Name

open Text

/-- Whether a letter or digit `c` of an identifier and the next one, `d`, belong to different words;
`gap` stands between the two and `later` behind them. -/
inductive Parts (c : Char) (gap : Text) (d : Char) (later : Text) : Prop
  /-- Something stands between them. -/
  | gap (hGap : gap ≠ [])
  /-- A capital follows a small letter or a digit. -/
  | capital (hGap : gap = []) (hSmall : c.isLower = true ∨ c.isDigit = true)
      (hCapital : d.isUpper = true)
  /-- The second of two capitals is followed by a small letter. -/
  | acronym (hGap : gap = []) (hFirst : c.isUpper = true) (hSecond : d.isUpper = true)
      (hSmall : ∃ e ∈ later.head?, e.isLower = true)

lemma partsWords_eq_true_iff {c d : Char} {later : Text} :
    partsWords c d later = true ↔ d.isUpper = true ∧
      (c.isLower = true ∨ c.isDigit = true ∨
        c.isUpper = true ∧ ∃ e ∈ later.head?, e.isLower = true) := by
  simp [partsWords, Option.any_eq_true, or_assoc]

lemma runsPart_iff_parts {c d : Char} {gap later : Text} :
    RunsPart partsWords c gap d later ↔ Parts c gap d later := by
  rw [RunsPart, partsWords_eq_true_iff]
  constructor
  · intro h
    by_cases hGap : gap = []
    · obtain ⟨hd, hc | hc | ⟨hc, hSmall⟩⟩ := h.resolve_left (not_not.2 hGap)
      · exact .capital hGap (.inl hc) hd
      · exact .capital hGap (.inr hc) hd
      · exact .acronym hGap hc hd hSmall
    · exact .gap hGap
  · rintro (hGap | ⟨-, hc | hc, hd⟩ | ⟨-, hc, hd, hSmall⟩)
    · exact .inl hGap
    · exact .inr ⟨hd, .inl hc⟩
    · exact .inr ⟨hd, .inr (.inl hc)⟩
    · exact .inr ⟨hd, .inr (.inr ⟨hc, hSmall⟩)⟩

lemma isCutOf_iff_words {identifier : Text} {parts : List Text} :
    IsCutOf Char.isAlphanum Parts identifier parts ↔ parts = words identifier := by
  have hParts : Parts = RunsPart partsWords := by
    funext c gap d later
    exact propext runsPart_iff_parts.symm
  rw [hParts, isCutOf_iff, words]

/-- A word of an identifier is not empty and consists of letters and digits. -/
def IsNameWord (word : Text) : Prop :=
  word ≠ [] ∧ ∀ c ∈ word, c.isAlphanum = true

/-- A word of an identifier, taken apart. -/
lemma IsNameWord.exists_cons {word : Text} (h : IsNameWord word) :
    ∃ c rest, word = c :: rest ∧ c.isAlphanum = true ∧ ∀ d ∈ rest, d.isAlphanum = true := by
  obtain ⟨hne, hWord⟩ := h
  obtain ⟨c, rest, rfl⟩ := List.exists_cons_of_ne_nil hne
  exact ⟨c, rest, rfl, List.forall_mem_cons.1 hWord⟩

lemma isNameWord_of_mem_words {identifier word : Text} (h : word ∈ words identifier) :
    IsNameWord word :=
  (isCutOf_iff_words.2 rfl).isPart word h

lemma flatten_words (identifier : Text) :
    (words identifier).flatten = identifier.filter Char.isAlphanum :=
  flatten_runs identifier

/-- A letter or digit is not parted from a capital exactly if it is a capital itself, and no small
letter follows. -/
lemma partsWords_eq_false_iff {c d : Char} {later : Text} (hc : c.isAlphanum = true)
    (hd : d.isUpper = true) :
    partsWords c d later = false ↔ c.isUpper = true ∧ later.head?.any Char.isLower = false := by
  simp only [Char.isAlphanum, Char.isAlpha, Bool.or_eq_true, or_assoc] at hc
  rw [partsWords, hd]
  rcases hc with hc | hc | hc
  · have hDigit : c.isDigit = false := isDigit_of_isAlpha (by simp [Char.isAlpha, hc])
    simp [hc, isLower_of_isUpper hc, hDigit]
  · have hSmall : c.isUpper = false := by simpa using Char.not_isUpper_of_isLower hc
    simp [hc, hSmall]
  · simp [hc, isUpper_of_isDigit hc]

/-- Only a small letter behind two capitals has a say in whether they are parted. -/
lemma partsWords_append {rest : Text} (h : ∀ e ∈ rest.head?, e.isLower = false) (c d : Char)
    (later : Text) : partsWords c d (later ++ rest) = partsWords c d later := by
  cases later with
  | nil => cases rest <;> simp_all [partsWords]
  | cons e later => rfl

/-- No word goes over a character that is no letter or digit. -/
lemma words_append_mark {mark : Char} (hMark : mark.isAlphanum = false) (front rest : Text) :
    words (front ++ mark :: rest) = words front ++ words rest := by
  have hLower : mark.isLower = false := by
    simp only [Char.isAlphanum, Char.isAlpha, Bool.or_eq_false_iff] at hMark
    exact hMark.1.2
  exact runs_append_mark hMark (partsWords_append (by simp [hLower])) front

/-- Where no capital stands behind the first character, nothing is parted. -/
lemma words_eq_singleton {c : Char} {rest : Text} (hc : c.isAlphanum = true)
    (h : ∀ d ∈ rest, d.isAlphanum = true ∧ d.isUpper = false) :
    words (c :: rest) = [c :: rest] := by
  induction rest generalizing c with
  | nil => simp [words, runs, runsOn, hc]
  | cons d later ih =>
    obtain ⟨⟨hd, hUpper⟩, hLater⟩ := List.forall_mem_cons.1 h
    have hRun : runsOn Char.isAlphanum partsWords c (d :: later) = true := by
      simp [runsOn, partsWords, hd, hUpper]
    have hRest : runs Char.isAlphanum partsWords (d :: later) = [d :: later] := ih hd hLater
    rw [words, runs, if_pos hc, if_pos hRun, hRest]
    rfl

/-! ## Words in three passes -/

/-- Whether a text begins with characters of the given classes, one after the other. -/
def begins : List (Char → Bool) → Text → Bool
  | [], _ => true
  | _ :: _, [] => false
  | inClass :: classes, c :: rest => inClass c && begins classes rest

/-- The text with a space behind the first character of every match of a pattern. Matches are looked
for from left to right, each behind the one before it, which holds the first `held` characters. -/
def spaced (pattern : List (Char → Bool)) : ℕ → Text → Text
  | _, [] => []
  | held + 1, c :: rest => c :: spaced pattern held rest
  | 0, c :: rest =>
    if begins pattern (c :: rest) then c :: ' ' :: spaced pattern (pattern.length - 1) rest
    else c :: spaced pattern 0 rest

/-- A small letter or a digit with a capital behind it. -/
def smallThenCapital : List (Char → Bool) :=
  [fun c => c.isLower || c.isDigit, Char.isUpper]

/-- A capital with a word behind it that begins with a capital and goes on in small letters. -/
def capitalThenWord : List (Char → Bool) :=
  [Char.isUpper, Char.isUpper, Char.isLower]

/-- The text with one space in place of each maximal run of characters that are no letters or
digits; the space is put where the run ends. -/
def separated : Text → Text
  | [] => []
  | c :: rest =>
    if c.isAlphanum then c :: separated rest
    else if rest.head?.all Char.isAlphanum then ' ' :: separated rest
    else separated rest

/-- The words of an identifier, found in three passes. -/
def wordsInPasses (identifier : Text) : List Text :=
  Text.words (separated (spaced capitalThenWord 0 (spaced smallThenCapital 0 identifier)))

example : spaced capitalThenWord 0 (spaced smallThenCapital 0 "aHTTPServer".toList)
    = "a HTTP Server".toList := by
  decide

/-! ### The third pass -/

lemma isBlank_eq_false {c : Char} (h : c.isAlphanum = true) : isBlank c = false :=
  forall_isAlphanum (Q := fun c => isBlank c = false) (by decide +kernel) h

/-- A run of other characters leaves a space in front of what follows it. -/
lemma exists_separated {c : Char} (hc : c.isAlphanum = false) (rest : Text) :
    ∃ later, separated (c :: rest) = ' ' :: later := by
  induction rest generalizing c with
  | nil => exact ⟨[], by simp [separated, hc]⟩
  | cons d rest ih =>
    rw [separated, if_neg (by simp [hc])]
    cases hd : d.isAlphanum with
    | true => exact ⟨_, if_pos (by simp [hd])⟩
    | false =>
      obtain ⟨later, hLater⟩ := ih hd
      exact ⟨later, (if_neg (by simp [hd])).trans hLater⟩

lemma words_separated (text : Text) :
    Text.words (separated text) = runs Char.isAlphanum (fun _ _ _ => false) text := by
  induction text with
  | nil => rfl
  | cons c rest ih =>
    cases hc : c.isAlphanum with
    | false =>
      rw [runs, if_neg (by simp [hc]), ← ih, separated, if_neg (by simp [hc])]
      split
      · exact words_blank (by decide) _
      · rfl
    | true =>
      have hRunsOn : runsOn (fun c => !isBlank c) (fun _ _ _ => false) c (separated rest)
          = runsOn Char.isAlphanum (fun _ _ _ => false) c rest := by
        cases rest with
        | nil => rfl
        | cons d later =>
          cases hd : d.isAlphanum with
          | true => simp [separated, runsOn, hd, isBlank_eq_false hd]
          | false =>
            obtain ⟨behind, hBehind⟩ := exists_separated hd later
            have hSpace : isBlank ' ' = true := by decide
            simp [hBehind, runsOn, hd, hSpace]
      rw [separated, if_pos hc, Text.words, runs, if_pos (by simp [isBlank_eq_false hc]), hRunsOn,
        runs, if_pos hc]
      rw [Text.words] at ih
      rw [ih]

/-! ### The first two passes -/

/-- The text with a space behind every character at which `marks` holds of the rest. -/
def spacedAt (marks : Text → Bool) : Text → Text
  | [] => []
  | c :: rest =>
    if marks (c :: rest) then c :: ' ' :: spacedAt marks rest else c :: spacedAt marks rest

/-- Whether no two matches of a pattern overlap. -/
def Apart (pattern : List (Char → Bool)) : Prop :=
  ∀ text, begins pattern text = true →
    ∀ k, 0 < k → k < pattern.length → begins pattern (text.drop k) = false

/-- Where matches do not overlap, none is missed because the one before it is passed over. -/
lemma spaced_eq_spacedAt {pattern : List (Char → Bool)} (hApart : Apart pattern) (text : Text)
    (held : ℕ) (hHeld : ∀ k < held, begins pattern (text.drop k) = false) :
    spaced pattern held text = spacedAt (begins pattern) text := by
  induction text generalizing held with
  | nil => cases held <;> rfl
  | cons c rest ih =>
    cases held with
    | zero =>
      rw [spaced, spacedAt]
      split
      · next hBegins =>
        rw [ih (pattern.length - 1)]
        intro k hk
        exact hApart _ hBegins (k + 1) (by omega) (by omega)
      · rw [ih 0 (by simp)]
    | succ held =>
      have hFirst : begins pattern (c :: rest) = false := hHeld 0 (by omega)
      rw [spaced, spacedAt, if_neg (by simp [hFirst]), ih held]
      intro k hk
      exact hHeld (k + 1) (by omega)

/-- Spaces cut a text as the rule does by which they are put. -/
lemma runs_spacedAt (marks : Text → Bool) (text : Text) :
    runs Char.isAlphanum (fun _ _ _ => false) (spacedAt marks text)
      = runs Char.isAlphanum (fun c d later => marks (c :: d :: later)) text := by
  have hSpace : ' '.isAlphanum = false := by decide
  induction text with
  | nil => rfl
  | cons c rest ih =>
    cases hMarks : marks (c :: rest) with
    | true =>
      have hRun :
          runsOn Char.isAlphanum (fun c d later => marks (c :: d :: later)) c rest = false := by
        cases rest with
        | nil => rfl
        | cons d later => simp [runsOn, hMarks]
      have hSpaced : ∀ later, runs Char.isAlphanum (fun _ _ _ => false) (' ' :: later)
          = runs Char.isAlphanum (fun _ _ _ => false) later := by
        intro later
        rw [runs, if_neg (by simp [hSpace])]
      have hEnd : ∀ later,
          runsOn Char.isAlphanum (fun _ _ _ => false) c (' ' :: later) = false := by
        intro later
        simp [runsOn, hSpace]
      rw [spacedAt, if_pos hMarks, runs, hEnd, hSpaced, ih, runs, hRun]
    | false =>
      rw [spacedAt, if_neg (by simp [hMarks]), runs, runs, ih]
      have hRun : runsOn Char.isAlphanum (fun _ _ _ => false) c (spacedAt marks rest)
          = runsOn Char.isAlphanum (fun c d later => marks (c :: d :: later)) c rest := by
        cases rest with
        | nil => rfl
        | cons d later =>
          rw [spacedAt]
          split <;> simp [runsOn, hMarks]
      rw [hRun]

lemma begins_smallThenCapital (c d : Char) (rest : Text) :
    begins smallThenCapital (c :: d :: rest) = ((c.isLower || c.isDigit) && d.isUpper) := by
  simp [smallThenCapital, begins]

lemma begins_capitalThenWord (c d : Char) (rest : Text) :
    begins capitalThenWord (c :: d :: rest)
      = (c.isUpper && d.isUpper && rest.head?.any Char.isLower) := by
  cases rest <;> simp [capitalThenWord, begins, Bool.and_assoc]

lemma apart_smallThenCapital : Apart smallThenCapital := by
  intro text hBegins k hk hLength
  obtain rfl : k = 1 := by simp [smallThenCapital] at hLength; omega
  match text with
  | [] => rfl
  | [c] => rfl
  | [c, d] => simp [smallThenCapital, begins]
  | c :: d :: e :: rest =>
    -- the capital of the first match is neither small nor a digit
    rw [begins_smallThenCapital, Bool.and_eq_true] at hBegins
    have hDigit : d.isDigit = false := isDigit_of_isAlpha (by simp [Char.isAlpha, hBegins.2])
    simp [begins_smallThenCapital, isLower_of_isUpper hBegins.2, hDigit]

lemma apart_capitalThenWord : Apart capitalThenWord := by
  intro text hBegins k hk hLength
  match text with
  | [] => simp [capitalThenWord, begins] at hBegins
  | [c] => simp [capitalThenWord, begins] at hBegins
  | [c, d] => simp [capitalThenWord, begins] at hBegins
  | c :: d :: e :: rest =>
    -- the small letter of the first match is no capital
    have he : e.isUpper = false := by
      rw [begins_capitalThenWord, Bool.and_eq_true] at hBegins
      have hSmall : e.isLower = true := by simpa using hBegins.2
      simpa using Char.not_isUpper_of_isLower hSmall
    obtain rfl | rfl : k = 1 ∨ k = 2 := by simp [capitalThenWord] at hLength; omega
    · simp [capitalThenWord, begins, he]
    · simp [capitalThenWord, begins, he]

lemma head?_spacedAt (marks : Text → Bool) (text : Text) :
    (spacedAt marks text).head? = text.head? := by
  cases text with
  | nil => rfl
  | cons c rest =>
    rw [spacedAt]
    split <;> rfl

/-- The spaces of the first pass neither make nor hide a match of the second. -/
lemma begins_spacedAt (c : Char) (rest : Text) :
    begins capitalThenWord (c :: spacedAt (begins smallThenCapital) rest)
      = begins capitalThenWord (c :: rest) := by
  match rest with
  | [] => rfl
  | [d] => simp [spacedAt, smallThenCapital, begins]
  | d :: e :: rest =>
    rw [spacedAt]
    split
    · next hSmall =>
      -- a space is only put behind a small letter or a digit
      rw [begins_smallThenCapital, Bool.and_eq_true, Bool.or_eq_true] at hSmall
      have hd : d.isUpper = false :=
        hSmall.1.elim (fun h => by simpa using Char.not_isUpper_of_isLower h) isUpper_of_isDigit
      rw [begins_capitalThenWord, begins_capitalThenWord, hd]
      simp
    · rw [begins_capitalThenWord, begins_capitalThenWord, head?_spacedAt]

lemma spacedAt_spacedAt (text : Text) :
    spacedAt (begins capitalThenWord) (spacedAt (begins smallThenCapital) text)
      = spacedAt (fun text => begins smallThenCapital text || begins capitalThenWord text)
          text := by
  induction text with
  | nil => rfl
  | cons c rest ih =>
    cases hSmall : begins smallThenCapital (c :: rest) with
    | true =>
      have hSpace : ' '.isUpper = false := by decide
      have hFirst : begins capitalThenWord (c :: ' ' :: spacedAt (begins smallThenCapital) rest)
          = false := by
        rw [begins_capitalThenWord, hSpace]
        simp
      have hSecond : begins capitalThenWord (' ' :: spacedAt (begins smallThenCapital) rest)
          = false := by
        simp [capitalThenWord, begins, hSpace]
      simp [spacedAt, hSmall, hFirst, hSecond, ih]
    | false =>
      rw [spacedAt, if_neg (by simp [hSmall]), spacedAt, begins_spacedAt, ih]
      simp [spacedAt, hSmall]

lemma wordsInPasses_eq (identifier : Text) : wordsInPasses identifier = words identifier := by
  have hCuts : (fun c d later => begins smallThenCapital (c :: d :: later)
      || begins capitalThenWord (c :: d :: later)) = partsWords := by
    funext c d later
    rw [begins_smallThenCapital, begins_capitalThenWord, partsWords, Bool.and_right_comm,
      ← Bool.and_or_distrib_right, Bool.and_comm]
  rw [wordsInPasses, spaced_eq_spacedAt apart_capitalThenWord _ 0 (by simp),
    spaced_eq_spacedAt apart_smallThenCapital _ 0 (by simp), spacedAt_spacedAt, words_separated,
    runs_spacedAt, hCuts, words]

/-- **The words of an identifier are given by rules for two successive characters, and by three
passes over the text.**  They are the one list of words that are not empty and consist of ASCII
letters and digits, that make up the letters and digits of the identifier, and in which a letter or
digit and the next one belong to different words exactly if one of the rules of `Parts` says so.
Putting spaces behind all matches of one pattern, then of the other, and splitting at whatever is no
letter or digit gives the same words. -/
theorem words_unique (identifier : Text) :
    (∀ parts, IsCutOf Char.isAlphanum Parts identifier parts ↔ parts = words identifier) ∧
      wordsInPasses identifier = words identifier :=
  ⟨fun _ => isCutOf_iff_words, wordsInPasses_eq identifier⟩

end ProtoTypings.Name
