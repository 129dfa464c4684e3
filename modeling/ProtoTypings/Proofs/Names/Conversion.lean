import ProtoTypings.Proofs.Names.Words

/-!
# What a conversion of names keeps

Camel and Pascal case differ in the first letter only, and so what holds of both is stated for the
words joined with any change of case at the front (`IsCaseChange`). Nothing of an identifier is lost
but its separators and the case of its letters: the letters and digits of a converted name are those
of the identifier, and numbers that stand apart in the identifier stand apart in the name, since a
word that begins with a digit is set off by an underscore from the word before it.

The main statement is `Name.conversion_conserves`.
-/

namespace ProtoTypings.Name

open Text

/-! ## Words with another first letter -/

/-- A change of a character in nothing but its case, which does not depend on that case. -/
structure IsCaseChange (change : Char → Char) : Prop where
  toLower : ∀ c, (change c).toLower = c.toLower
  of_toLower : ∀ c, change c.toLower = change c

lemma isCaseChange_toLower : IsCaseChange Char.toLower :=
  ⟨fun c => c.toLower_toLower_eq_toLower, fun c => c.toLower_toLower_eq_toLower⟩

lemma isCaseChange_toUpper : IsCaseChange Char.toUpper :=
  ⟨fun c => c.toLower_toUpper_eq_toLower, fun c => c.toUpper_toLower_eq_toUpper⟩

/-- A word with its first character changed and the others in small letters. -/
def recased (change : Char → Char) : Text → Text
  | [] => []
  | c :: rest => change c :: lowerCase rest

lemma lowerCase_eq_recased : lowerCase = recased Char.toLower := by
  funext word
  cases word <;> rfl

lemma capitalized_eq_recased : capitalized = recased Char.toUpper := by
  funext word
  cases word <;> rfl

@[simp]
lemma lowerCase_append (front rest : Text) :
    lowerCase (front ++ rest) = lowerCase front ++ lowerCase rest :=
  List.map_append

@[simp]
lemma lowerCase_lowerCase (word : Text) : lowerCase (lowerCase word) = lowerCase word := by
  simp [lowerCase]

lemma isAlphanum_lowerCase {word : Text} (h : ∀ c ∈ word, c.isAlphanum = true) :
    ∀ c ∈ lowerCase word, c.isAlphanum = true := by
  intro c hc
  obtain ⟨d, hd, rfl⟩ := List.mem_map.1 hc
  exact (isAlphanum_toLower d).trans (h d hd)

variable {change : Char → Char}

lemma IsCaseChange.lowerCase_recased (hChange : IsCaseChange change) (word : Text) :
    lowerCase (recased change word) = lowerCase word := by
  cases word with
  | nil => rfl
  | cons c rest => simp [recased, lowerCase, hChange.toLower]

lemma IsCaseChange.isAlphanum_recased (hChange : IsCaseChange change) {word : Text}
    (h : ∀ c ∈ word, c.isAlphanum = true) : ∀ c ∈ recased change word, c.isAlphanum = true := by
  cases word with
  | nil => simp [recased]
  | cons c rest =>
    rw [List.forall_mem_cons] at h
    rw [recased, List.forall_mem_cons]
    exact ⟨(isAlphanum_eq_of_toLower_eq (hChange.toLower c)).trans h.1, isAlphanum_lowerCase h.2⟩

/-- A word behind another one is capitalized, and has an underscore before it if it begins with a
digit. -/
lemma attached_eq (d : Char) (more : Text) :
    attached (d :: more)
      = if d.isDigit then '_' :: capitalized (d :: more) else capitalized (d :: more) := by
  rw [attached]
  split
  · next hd => rw [capitalized, toUpper_eq_self hd]
  · rfl

lemma isAlphanum_capitalized {word : Text} (h : ∀ c ∈ word, c.isAlphanum = true) :
    ∀ c ∈ capitalized word, c.isAlphanum = true := by
  rw [capitalized_eq_recased]
  exact isCaseChange_toUpper.isAlphanum_recased h

/-! ## Letters and digits -/

lemma ne_underscore {c : Char} (h : c.isAlphanum = true) : c ≠ '_' := by
  rintro rfl
  exact absurd h (by decide)

/-- A text without its underscores. -/
def withoutUnderscores (text : Text) : Text :=
  text.filter (· ≠ '_')

lemma withoutUnderscores_append (front rest : Text) :
    withoutUnderscores (front ++ rest) = withoutUnderscores front ++ withoutUnderscores rest :=
  List.filter_append ..

lemma withoutUnderscores_eq_self {text : Text} (h : ∀ c ∈ text, c.isAlphanum = true) :
    withoutUnderscores text = text :=
  List.filter_eq_self.2 fun c hc => decide_eq_true (ne_underscore (h c hc))

lemma withoutUnderscores_attached {word : Text} (h : IsNameWord word) :
    withoutUnderscores (attached word) = capitalized word := by
  have hCapitalized := withoutUnderscores_eq_self (isAlphanum_capitalized h.2)
  obtain ⟨d, more, rfl, -⟩ := h.exists_cons
  rw [attached_eq]
  split
  · exact hCapitalized
  · exact hCapitalized

lemma lowerCase_withoutUnderscores_later {later : List Text}
    (h : ∀ word ∈ later, IsNameWord word) :
    lowerCase (withoutUnderscores (later.flatMap attached)) = lowerCase later.flatten := by
  induction later with
  | nil => rfl
  | cons word later ih =>
    rw [List.forall_mem_cons] at h
    rw [List.flatMap_cons, withoutUnderscores_append, withoutUnderscores_attached h.1,
      lowerCase_append, ih h.2, capitalized_eq_recased, isCaseChange_toUpper.lowerCase_recased,
      List.flatten_cons, lowerCase_append]

/-- Joined words have the letters and digits of the words. -/
lemma IsCaseChange.lowerCase_withoutUnderscores_joined (hChange : IsCaseChange change)
    {parts : List Text} (h : ∀ word ∈ parts, IsNameWord word) :
    lowerCase (withoutUnderscores (joined (recased change) parts)) = lowerCase parts.flatten := by
  cases parts with
  | nil => rfl
  | cons word later =>
    rw [List.forall_mem_cons] at h
    rw [joined, withoutUnderscores_append,
      withoutUnderscores_eq_self (hChange.isAlphanum_recased h.1.2), lowerCase_append,
      hChange.lowerCase_recased, lowerCase_withoutUnderscores_later h.2, List.flatten_cons,
      lowerCase_append]

/-! ## Underscores -/

/-- A text of letters and digits lies in front of every underscore. -/
lemma exists_of_append_eq_underscore {text rest front back : Text}
    (h : ∀ c ∈ text, c.isAlphanum = true) (hText : text ++ rest = front ++ '_' :: back) :
    ∃ between, front = text ++ between ∧ rest = between ++ '_' :: back :=
  Text.exists_of_append_eq_mark (fun hMem => ne_underscore (h '_' hMem) rfl) hText

/-- An underscore of the words behind the first stands in front of a word that begins with a digit,
behind the words before it. -/
lemma exists_of_later_eq_append {later : List Text} (h : ∀ word ∈ later, IsNameWord word)
    {front back : Text} (hText : later.flatMap attached = front ++ '_' :: back) :
    ∃ before d more after, later = before ++ (d :: more) :: after ∧ d.isDigit = true ∧
      front = before.flatMap attached ∧ back.head? = some d := by
  induction later generalizing front with
  | nil => simp at hText
  | cons word later ih =>
    obtain ⟨⟨hne, hWord⟩, hLater⟩ := List.forall_mem_cons.1 h
    obtain ⟨d, more, rfl⟩ := List.exists_cons_of_ne_nil hne
    have hBehind : ∀ between, later.flatMap attached = between ++ '_' :: back →
        front = attached (d :: more) ++ between →
        ∃ before e rest after, (d :: more) :: later = before ++ (e :: rest) :: after ∧
          e.isDigit = true ∧ front = before.flatMap attached ∧ back.head? = some e := by
      intro between hBetween hFront
      obtain ⟨before, e, rest, after, rfl, he, rfl, hBack⟩ := ih hLater hBetween
      exact ⟨(d :: more) :: before, e, rest, after, rfl, he, hFront, hBack⟩
    have hCapitalized := isAlphanum_capitalized hWord
    rw [List.flatMap_cons, attached_eq] at hText
    rw [attached_eq] at hBehind
    cases hd : d.isDigit with
    | true =>
      rw [if_pos hd] at hText hBehind
      cases front with
      | nil =>
        -- the underscore is that of the first word
        obtain rfl := (List.cons.inj hText).2
        exact ⟨[], d, more, later, rfl, hd, rfl, by simp [capitalized, toUpper_eq_self hd]⟩
      | cons x front =>
        obtain ⟨rfl, hRest⟩ := List.cons.inj hText
        obtain ⟨between, rfl, hBetween⟩ := exists_of_append_eq_underscore hCapitalized hRest
        exact hBehind between hBetween rfl
    | false =>
      rw [if_neg (by simp [hd])] at hText hBehind
      obtain ⟨between, rfl, hBetween⟩ := exists_of_append_eq_underscore hCapitalized hText
      exact hBehind between hBetween rfl

/-- The same for all words: the first one has no underscore. -/
lemma IsCaseChange.exists_of_joined_eq_append (hChange : IsCaseChange change) {parts : List Text}
    (h : ∀ word ∈ parts, IsNameWord word) {front back : Text}
    (hText : joined (recased change) parts = front ++ '_' :: back) :
    ∃ before d more after, parts = before ++ (d :: more) :: after ∧ before ≠ [] ∧
      d.isDigit = true ∧ front = joined (recased change) before ∧ back.head? = some d := by
  cases parts with
  | nil => simp [joined] at hText
  | cons word later =>
    obtain ⟨⟨-, hWord⟩, hLater⟩ := List.forall_mem_cons.1 h
    rw [joined] at hText
    obtain ⟨between, rfl, hRest⟩ :=
      exists_of_append_eq_underscore (hChange.isAlphanum_recased hWord) hText
    obtain ⟨before, d, more, after, rfl, hd, rfl, hBack⟩ := exists_of_later_eq_append hLater hRest
    exact ⟨word :: before, d, more, after, rfl, List.cons_ne_nil _ _, hd, rfl, hBack⟩

/-! ## Numbers -/

/-- The numbers in a text: its maximal runs of digits. -/
def digitRuns (text : Text) : List Text :=
  runs Char.isDigit (fun _ _ _ => false) text

/-- No number goes on into a text that begins with another character. -/
lemma digitRuns_append {front rest : Text} (h : ∀ c ∈ rest.head?, c.isDigit = false) :
    digitRuns (front ++ rest) = digitRuns front ++ digitRuns rest := by
  refine runs_append (fun c _ => ?_) fun _ _ _ => rfl
  cases rest with
  | nil => rfl
  | cons d later => simp [runsOn, h d rfl]

lemma digitRuns_lowerCase (text : Text) : digitRuns (lowerCase text) = digitRuns text := by
  induction text with
  | nil => rfl
  | cons c rest ih =>
    have hRun : runsOn Char.isDigit (fun _ _ _ => false) c.toLower (lowerCase rest)
        = runsOn Char.isDigit (fun _ _ _ => false) c rest := by
      cases rest <;> simp [runsOn, lowerCase]
    rw [digitRuns, digitRuns] at ih ⊢
    rw [lowerCase, List.map_cons, ← lowerCase, runs, hRun, ih, runs, isDigit_toLower]
    split
    · next hc => rw [toLower_eq_self hc]
    · rfl

lemma digitRuns_eq_of_lowerCase_eq {text other : Text} (h : lowerCase text = lowerCase other) :
    digitRuns text = digitRuns other := by
  rw [← digitRuns_lowerCase, h, digitRuns_lowerCase]

/-- A number lies in one word. -/
lemma digitRuns_eq_flatMap_words (identifier : Text) :
    digitRuns identifier = (words identifier).flatMap digitRuns :=
  runs_eq_flatMap_runs (fun c hc => by simp [Char.isAlphanum, hc])
    (fun c d later hd => by simp [partsWords, isUpper_of_isDigit hd]) identifier

/-- What stands behind the first word begins with an underscore or with a capital. -/
lemma head?_later {later : List Text} (h : ∀ word ∈ later, IsNameWord word) :
    ∀ c ∈ (later.flatMap attached).head?, c = '_' ∨ c.isUpper = true := by
  cases later with
  | nil => simp
  | cons word later =>
    obtain ⟨d, more, rfl, hWord, -⟩ := (List.forall_mem_cons.1 h).1.exists_cons
    rw [List.flatMap_cons, attached_eq]
    cases hd : d.isDigit with
    | true =>
      rw [if_pos rfl]
      rintro _ ⟨⟩
      exact .inl rfl
    | false =>
      rw [if_neg (by simp)]
      rintro _ ⟨⟩
      exact .inr ((Char.isUpper_toUpper_eq_isAlpha d).trans (isAlpha_of_isAlphanum hWord hd))

lemma digitRuns_append_later {later : List Text} (h : ∀ word ∈ later, IsNameWord word)
    (front : Text) : digitRuns (front ++ later.flatMap attached)
      = digitRuns front ++ digitRuns (later.flatMap attached) := by
  refine digitRuns_append fun c hc => ?_
  rcases head?_later h c hc with rfl | hUpper
  · rfl
  · exact isDigit_of_isAlpha (by simp [Char.isAlpha, hUpper])

lemma digitRuns_attached (word : Text) : digitRuns (attached word) = digitRuns word := by
  have hCapitalized : digitRuns (capitalized word) = digitRuns word := by
    rw [capitalized_eq_recased]
    exact digitRuns_eq_of_lowerCase_eq (isCaseChange_toUpper.lowerCase_recased word)
  cases word with
  | nil => rfl
  | cons d more =>
    rw [attached_eq, ← hCapitalized]
    split
    · rw [digitRuns, runs, if_neg (by decide), digitRuns]
    · rfl

lemma digitRuns_later {later : List Text} (h : ∀ word ∈ later, IsNameWord word) :
    digitRuns (later.flatMap attached) = later.flatMap digitRuns := by
  induction later with
  | nil => rfl
  | cons word later ih =>
    obtain ⟨-, hLater⟩ := List.forall_mem_cons.1 h
    rw [List.flatMap_cons, digitRuns_append_later hLater, digitRuns_attached, ih hLater,
      List.flatMap_cons]

lemma IsCaseChange.digitRuns_joined (hChange : IsCaseChange change) {parts : List Text}
    (h : ∀ word ∈ parts, IsNameWord word) :
    digitRuns (joined (recased change) parts) = parts.flatMap digitRuns := by
  cases parts with
  | nil => rfl
  | cons word later =>
    obtain ⟨-, hLater⟩ := List.forall_mem_cons.1 h
    rw [joined, digitRuns_append_later hLater, digitRuns_later hLater, List.flatMap_cons,
      digitRuns_eq_of_lowerCase_eq (hChange.lowerCase_recased word)]

/-! ## Converted names -/

/-- What a converted name has of its identifier. -/
structure Conserves (identifier converted : Text) : Prop where
  isPart : ∀ c ∈ converted, IsPart c
  /-- The letters and digits are those of the identifier, up to case. -/
  letters : lowerCase (withoutUnderscores converted) = lowerCase (identifier.filter Char.isAlphanum)
  /-- An underscore stands directly before a digit, with which a word other than the first begins:
  the letters and digits in front of it are those of the words before. -/
  underscore : ∀ front back, converted = front ++ '_' :: back →
    ∃ before d more after, words identifier = before ++ (d :: more) :: after ∧ before ≠ [] ∧
      d.isDigit = true ∧ back.head? = some d ∧
      lowerCase (withoutUnderscores front) = lowerCase before.flatten
  digitRuns : digitRuns converted = digitRuns identifier

/-- The ASCII texts that are identifiers in generated documents: they begin with a letter, an
underscore or a dollar sign and go on with these and with digits. -/
def IsIdentifierText (text : Text) : Prop :=
  ∃ c rest, text = c :: rest ∧ (c.isAlpha = true ∨ c ∈ ['_', '$']) ∧
    ∀ d ∈ rest, d.isAlphanum = true ∨ d ∈ ['_', '$']

lemma IsCaseChange.conserves (hChange : IsCaseChange change) (identifier : Text)
    (hPart : ∀ c ∈ joined (recased change) (words identifier), IsPart c) :
    Conserves identifier (joined (recased change) (words identifier)) where
  isPart := hPart
  letters := by
    rw [hChange.lowerCase_withoutUnderscores_joined fun _ => isNameWord_of_mem_words, flatten_words]
  underscore front back hText := by
    have hWords : ∀ word ∈ words identifier, IsNameWord word := fun _ => isNameWord_of_mem_words
    obtain ⟨before, d, more, after, hBefore, hne, hd, rfl, hBack⟩ :=
      hChange.exists_of_joined_eq_append hWords hText
    refine ⟨before, d, more, after, hBefore, hne, hd, hBack, ?_⟩
    refine hChange.lowerCase_withoutUnderscores_joined fun word hWord => hWords word ?_
    rw [hBefore]
    exact List.mem_append_left _ hWord
  digitRuns := by
    rw [hChange.digitRuns_joined fun _ => isNameWord_of_mem_words, digitRuns_eq_flatMap_words]

lemma camel_eq_joined (identifier : Text) :
    camel identifier = joined (recased Char.toLower) (words identifier) := by
  rw [camel, lowerCase_eq_recased]

lemma pascal_eq_joined (identifier : Text) :
    pascal identifier = joined (recased Char.toUpper) (words identifier) := by
  rw [pascal, capitalized_eq_recased]

/-- Camel and Pascal case differ in the case of the first letter. -/
lemma camel_pascal_cases (identifier : Text) :
    (words identifier = [] ∧ identifier.filter Char.isAlphanum = [] ∧ camel identifier = [] ∧
        pascal identifier = []) ∨
      ∃ c more later, (words identifier).head? = some (c :: more) ∧
        (identifier.filter Char.isAlphanum).head? = some c ∧
        camel identifier = c.toLower :: (lowerCase more ++ later) ∧
        pascal identifier = c.toUpper :: (lowerCase more ++ later) := by
  rw [camel, pascal, ← flatten_words]
  cases hWords : words identifier with
  | nil => exact .inl ⟨rfl, rfl, rfl, rfl⟩
  | cons word later =>
    have hWord : IsNameWord word := isNameWord_of_mem_words (hWords ▸ List.mem_cons_self)
    obtain ⟨c, more, rfl, -⟩ := hWord.exists_cons
    exact .inr ⟨c, more, later.flatMap attached, rfl, rfl, rfl, rfl⟩

lemma isIdentifierText_cons {c : Char} {rest : Text} (hc : c.isAlpha = true)
    (hRest : ∀ d ∈ rest, IsPart d) : IsIdentifierText (c :: rest) := by
  refine ⟨c, rest, rfl, .inl hc, fun d hd => ?_⟩
  exact (hRest d hd).imp_right fun hUnderscore => by simp [hUnderscore]

/-- **The conversion of names loses nothing but case and separators.**  A name in camel or in Pascal
case consists of ASCII letters, digits and underscores; its letters and digits are those of the
identifier, its underscores stand in front of words that begin with a digit, and its numbers are
those of the identifier. The two cases differ in the letters of the first word only, and give
identifiers if the first letter or digit is a letter. -/
theorem conversion_conserves (identifier : Text) :
    Conserves identifier (camel identifier) ∧ Conserves identifier (pascal identifier) ∧
    (camel identifier).length = (pascal identifier).length ∧
    (∃ small large later, camel identifier = small ++ later ∧ pascal identifier = large ++ later ∧
      lowerCase small = lowerCase ((words identifier).headD []) ∧
      lowerCase large = lowerCase ((words identifier).headD [])) ∧
    ∀ c ∈ (identifier.filter Char.isAlphanum).head?, c.isAlpha = true →
      (camel identifier).head? = some c.toLower ∧ (pascal identifier).head? = some c.toUpper ∧
        IsIdentifierText (camel identifier) ∧ IsIdentifierText (pascal identifier) := by
  have hCamel : Conserves identifier (camel identifier) := by
    have hPart : ∀ c ∈ camel identifier, IsPart c := fun _ => isPart_of_mem_camel
    rw [camel_eq_joined] at hPart ⊢
    exact isCaseChange_toLower.conserves identifier hPart
  have hPascal : Conserves identifier (pascal identifier) := by
    have hPart : ∀ c ∈ pascal identifier, IsPart c := fun _ => isPart_of_mem_pascal
    rw [pascal_eq_joined] at hPart ⊢
    exact isCaseChange_toUpper.conserves identifier hPart
  refine ⟨hCamel, hPascal, ?_⟩
  have hCamelPart := hCamel.isPart
  have hPascalPart := hPascal.isPart
  obtain ⟨hWords, hNone, hCamel, hPascal⟩ | ⟨c, more, later, hWords, hFirst, hCamel, hPascal⟩ :=
    camel_pascal_cases identifier
  · rw [hCamel, hPascal, hNone, hWords]
    exact ⟨rfl, ⟨[], [], [], rfl, rfl, rfl, rfl⟩, by simp⟩
  · rw [hCamel, List.forall_mem_cons] at hCamelPart
    rw [hPascal, List.forall_mem_cons] at hPascalPart
    rw [hCamel, hPascal, hFirst, List.headD_eq_head?_getD, hWords]
    refine ⟨rfl,
      ⟨c.toLower :: lowerCase more, c.toUpper :: lowerCase more, later, rfl, rfl, ?_, ?_⟩, ?_⟩
    · exact lowerCase_lowerCase (c :: more)
    · exact isCaseChange_toUpper.lowerCase_recased (c :: more)
    · rintro _ ⟨⟩ hAlpha
      refine ⟨rfl, rfl, isIdentifierText_cons ?_ hCamelPart.2,
        isIdentifierText_cons ?_ hPascalPart.2⟩
      · exact c.isAlpha_toLower_eq_isAlpha.trans hAlpha
      · exact c.isAlpha_toUpper_eq_isAlpha.trans hAlpha

/-- Versions that are written apart stay apart, and an identifier that begins with other characters
is converted to one that begins with a letter. -/
theorem conversion_conserves_of_versions :
    let identifier : Text := "-v1.2_address12XMLParser\u00e93".toList
    'v' ∈ (identifier.filter Char.isAlphanum).head? ∧ 'v'.isAlpha = true ∧
      (camel identifier).head? = some 'v' ∧ (pascal identifier).head? = some 'V' ∧
      IsIdentifierText (camel identifier) ∧
      camel identifier = "v1_2Address12XmlParser_3".toList ∧
      digitRuns (camel identifier) = ["1", "2", "12", "3"].map String.toList := by
  intro identifier
  have hFirst : 'v' ∈ (identifier.filter Char.isAlphanum).head? := by decide
  obtain ⟨hCamel, -, -, -, hIdentifiers⟩ := conversion_conserves identifier
  obtain ⟨hSmall, hLarge, hText, -⟩ := hIdentifiers 'v' hFirst (by decide)
  exact ⟨hFirst, by decide, hSmall, hLarge, hText, by decide,
    hCamel.digitRuns.trans (by decide)⟩

end ProtoTypings.Name
