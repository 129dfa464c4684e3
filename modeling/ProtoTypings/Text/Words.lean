import ProtoTypings.Text.Blank

/-!
# Words

A text is cut into maximal runs of kept characters; a caller may also have a run end between two
adjacent kept characters, by a rule that sees both and what follows. Two cuts of this kind are in
use: the blank-separated words of a line, here, and the words of an identifier.

The main statement is `words_unwords`: joining words by single spaces and cutting again gives the
same words back.
-/

namespace ProtoTypings.Text

/-- Whether a kept character `c` and the text after it belong to one run: another kept character
follows directly and `cuts` does not part the two. -/
def runsOn (keep : Char → Bool) (cuts : Char → Char → Text → Bool) (c : Char) : Text → Bool
  | [] => false
  | d :: later => keep d && !cuts c d later

/-- Puts a character in front of the first run. -/
def consFirst (c : Char) : List Text → List Text
  | [] => [[c]]
  | run :: runs => (c :: run) :: runs

/-- The maximal runs of characters that satisfy `keep`, further cut between adjacent characters
`c` and `d` wherever `cuts c d later` holds, `later` being the text after `d`. -/
def runs (keep : Char → Bool) (cuts : Char → Char → Text → Bool) : Text → List Text
  | [] => []
  | c :: rest =>
    if keep c then
      if runsOn keep cuts c rest then consFirst c (runs keep cuts rest)
      else [c] :: runs keep cuts rest
    else runs keep cuts rest

/-- The words of a line: its maximal runs of characters that are not blank. -/
def words (text : Text) : List Text :=
  runs (fun c => !isBlank c) (fun _ _ _ => false) text

/-- Words joined by single spaces. -/
def unwords (ws : List Text) : Text :=
  joinWith [' '] ws

/-- A word is not empty and holds no blank. -/
def IsWord (word : Text) : Prop :=
  word ≠ [] ∧ ∀ c ∈ word, isBlank c = false

instance : DecidablePred IsWord := fun word =>
  inferInstanceAs (Decidable (word ≠ [] ∧ ∀ c ∈ word, isBlank c = false))

@[simp]
theorem unwords_nil : unwords [] = [] := rfl

@[simp]
theorem unwords_singleton (word : Text) : unwords [word] = word :=
  joinWith_singleton [' '] word

theorem unwords_cons_cons (word next : Text) (later : List Text) :
    unwords (word :: next :: later) = word ++ ' ' :: unwords (next :: later) :=
  joinWith_cons_cons [' '] word next later

@[simp]
theorem words_nil : words [] = [] := rfl

theorem words_blank {c : Char} (h : isBlank c = true) (rest : Text) :
    words (c :: rest) = words rest := by
  simp [words, runs, h]

/-- A word in front of a blank or of the end is the first word. -/
theorem words_append {word : Text} (h : IsWord word) {rest : Text}
    (hr : ∀ c ∈ rest.head?, isBlank c = true) : words (word ++ rest) = word :: words rest := by
  obtain ⟨hne, hw⟩ := h
  induction word with
  | nil => exact absurd rfl hne
  | cons c word ih =>
    have hc : isBlank c = false := hw c (by simp)
    cases word with
    | nil =>
      cases rest with
      | nil => simp [words, runs, runsOn, hc]
      | cons d rest =>
        have hd : isBlank d = true := hr d (by simp)
        simp [words, runs, runsOn, hc, hd]
    | cons d word =>
      have hd : isBlank d = false := hw d (by simp)
      have hih := ih (by simp) (fun x hx => hw x (by simp [hx]))
      simp only [words, List.cons_append] at hih ⊢
      rw [runs, if_pos (by simp [hc]), if_pos (by simp [runsOn, hd]), hih]
      rfl

theorem words_of_isWord {word : Text} (h : IsWord word) : words word = [word] := by
  have := words_append h (by simp : ∀ c ∈ ([] : Text).head?, isBlank c = true)
  simpa using this

/-- **Joining words by single spaces loses none of them.** -/
theorem words_unwords {ws : List Text} (h : ∀ w ∈ ws, IsWord w) : words (unwords ws) = ws := by
  induction ws with
  | nil => rfl
  | cons w ws ih =>
    have hw := h w (by simp)
    have hws := ih fun x hx => h x (by simp [hx])
    cases ws with
    | nil => simpa using words_of_isWord hw
    | cons v vs =>
      rw [unwords_cons_cons, words_append hw (by simp; decide), words_blank (by decide), hws]

/-- The words of any text are words. -/
theorem isWord_of_mem_words {text w : Text} (h : w ∈ words text) : IsWord w := by
  suffices ∀ w ∈ words text, IsWord w from this w h
  clear h w
  induction text with
  | nil => simp
  | cons c rest ih =>
    cases hc : isBlank c with
    | true => rwa [words_blank hc]
    | false =>
      have hcons : ∀ w, IsWord w → IsWord (c :: w) := fun w hw =>
        ⟨by simp, by simpa [hc] using hw.2⟩
      have hsingle : IsWord [c] := ⟨by simp, by simp [hc]⟩
      simp only [words] at ih ⊢
      rw [runs, if_pos (by simp [hc])]
      split
      · cases hr : runs (fun c => !isBlank c) (fun _ _ _ => false) rest with
        | nil => simpa [consFirst] using hsingle
        | cons w ws =>
          rw [hr] at ih
          simp only [consFirst, List.mem_cons, forall_eq_or_imp] at ih ⊢
          exact ⟨hcons w ih.1, ih.2⟩
      · simp only [List.mem_cons, forall_eq_or_imp]
        exact ⟨hsingle, ih⟩

end ProtoTypings.Text
