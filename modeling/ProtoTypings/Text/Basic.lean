/-!
# Texts

Schemas, names, paths and generated documents are all lists of Unicode scalar values. This file
sets up the few operations on them that everything else is made of: reading a literal off the
front, looking for the leftmost place where a reader succeeds, and cutting a text into its lines.
Every operation is a structural recursion or a library function on lists, so that statements about
short texts can be evaluated.
-/

namespace ProtoTypings

/-- A text: the list of its characters. -/
abbrev Text := List Char

namespace Text

/-- Whether all characters of a text have a property is found out by going through the text, and not
through all characters that there are. -/
instance (priority := high) decidableForallMem (P : Char → Prop) [DecidablePred P] (text : Text) :
    Decidable (∀ c ∈ text, P c) :=
  List.decidableBAll P text

/-- What follows the literal `lead` in a text that begins with it. -/
def after? : Text → Text → Option Text
  | [], text => some text
  | _ :: _, [] => none
  | a :: lead, c :: rest => if a = c then after? lead rest else none

@[simp]
theorem after?_nil (text : Text) : after? [] text = some text := by
  cases text <;> rfl

theorem after?_eq_some_iff {lead text rest : Text} :
    after? lead text = some rest ↔ text = lead ++ rest := by
  induction lead generalizing text with
  | nil => simp
  | cons a lead ih =>
    cases text with
    | nil => simp [after?]
    | cons c text =>
      by_cases h : a = c
      · simp [after?, h, ih]
      · simp [after?, h, Ne.symm h]

@[simp]
theorem after?_append (lead rest : Text) : after? lead (lead ++ rest) = some rest :=
  after?_eq_some_iff.2 rfl

/-- The longest non-empty run of accepted characters at the front of a text, and the rest. -/
def span? (accepts : Char → Bool) (text : Text) : Option (Text × Text) :=
  match text.takeWhile accepts with
  | [] => none
  | run => some (run, text.dropWhile accepts)

/-- The answer of a reader at the leftmost position of a text at which it has one. -/
def leftmost? {α : Type} (read : Text → Option α) : Text → Option α
  | [] => read []
  | c :: rest =>
    match read (c :: rest) with
    | some answer => some answer
    | none => leftmost? read rest

/-- Whether a text holds `part` as a block of successive characters. -/
def holds (part text : Text) : Bool :=
  (leftmost? (after? part) text).isSome

/-- The texts joined one after the other with `glue` between neighbours. -/
def joinWith (glue : Text) (texts : List Text) : Text :=
  glue.intercalate texts

@[simp]
theorem joinWith_singleton (glue text : Text) : joinWith glue [text] = text := by
  simp [joinWith, List.intercalate]

theorem joinWith_cons_cons (glue text next : Text) (later : List Text) :
    joinWith glue (text :: next :: later) = text ++ (glue ++ joinWith glue (next :: later)) := by
  simp [joinWith, List.intercalate]

/-- The text without the longest run of characters at its end that satisfy `drops`. -/
def trimEnd (drops : Char → Bool) (text : Text) : Text :=
  (text.reverse.dropWhile drops).reverse

/-- Whether a text stands before another, or is the same: by the code points of the first characters
that differ, and a text before all that go on from it. -/
def notAfter : Text → Text → Bool
  | [], _ => true
  | _ :: _, [] => false
  | a :: rest, b :: other => a.toNat < b.toNat || a = b && notAfter rest other

theorem notAfter_total (a b : Text) : notAfter a b || notAfter b a := by
  induction a generalizing b with
  | nil => simp [notAfter]
  | cons c a ih =>
    cases b with
    | nil => simp [notAfter]
    | cons d b =>
      rcases Nat.lt_trichotomy c.toNat d.toNat with h | h | h
      · simp [notAfter, h]
      · obtain rfl := Char.toNat_inj.1 h
        simpa [notAfter] using ih b
      · simp [notAfter, h]

theorem notAfter_trans {a b c : Text} (hab : notAfter a b = true) (hbc : notAfter b c = true) :
    notAfter a c = true := by
  induction a generalizing b c with
  | nil => simp [notAfter]
  | cons x a ih =>
    cases b with
    | nil => simp [notAfter] at hab
    | cons y b =>
      cases c with
      | nil => simp [notAfter] at hbc
      | cons z c =>
        simp only [notAfter, Bool.or_eq_true, decide_eq_true_eq, Bool.and_eq_true] at hab hbc ⊢
        rcases hab with hxy | ⟨rfl, hab⟩
        · rcases hbc with hyz | ⟨rfl, -⟩
          · exact .inl (Nat.lt_trans hxy hyz)
          · exact .inl hxy
        · rcases hbc with hyz | ⟨rfl, hbc⟩
          · exact .inl hyz
          · exact .inr ⟨rfl, ih hab hbc⟩

/-! ## Lines -/

/-- The lines of a text: the pieces between its line feeds, each without the carriage returns at
its end. A text with `n` line feeds has `n + 1` lines. -/
def lines (text : Text) : List Text :=
  (text.splitOn '\n').map (trimEnd (· = '\r'))

/-- The texts that begin at the start of a line of `text`, from the first line on. -/
def fromLineStarts (text : Text) : List Text :=
  text :: laterStarts text
where
  /-- The texts that follow a line feed. -/
  laterStarts : Text → List Text
    | [] => []
    | c :: rest => if c = '\n' then rest :: laterStarts rest else laterStarts rest

/-- One line ending for three: a carriage return followed by a line feed, and a carriage return
that stands alone, each become a line feed. -/
def unifyLineEnds : Text → Text
  | [] => []
  | '\r' :: '\n' :: rest => '\n' :: unifyLineEnds rest
  | '\r' :: rest => '\n' :: unifyLineEnds rest
  | c :: rest => c :: unifyLineEnds rest

end Text

end ProtoTypings
