import ProtoTypings.Proofs.Braces.Rendered
import ProtoTypings.Proofs.Lines

/-!
# Spellings of lines

The usual spellings of the lines of a schema, as far as their braces go, and the words that each of
them falls into. A comment behind the code counts as words, and what is glued to a brace belongs to
its word. For most spellings the line rendered leaves as many braces open as the code does;
`CodeLine.excess` says for which it does not, and by how much.
-/

namespace ProtoTypings

open Text

/-! ## Spellings -/

lemma Blanks.braceFree (blanks : Blanks) : BraceFree blanks.1 :=
  fun c hc => isNoBrace_of_isBlank (blanks.2 c hc)

@[simp]
lemma Blanks.depth_eq (blanks : Blanks) : depth blanks.1 = 0 :=
  blanks.braceFree.raises.depth_eq

/-- A text without braces. -/
abbrev Braceless : Type := {text : Text // BraceFree text}

@[simp]
lemma Braceless.depth_eq (text : Braceless) : depth text.1 = 0 :=
  (BraceFree.raises text.2).depth_eq

/-- How the line of a block begins, up to its first brace. -/
structure BlockStart where
  before : Blanks
  keyword : Text
  isKeyword : keyword ∈ blockKeywords
  gap : Blanks
  parted : gap.1 ≠ []
  name : Text
  isWord : IsWord name
  braceFree : BraceFree name
  /-- What stands between the name and the brace. -/
  spacing : Blanks

/-- The text of the beginning of a block. -/
def BlockStart.text (start : BlockStart) : Text :=
  start.before.1 ++ start.keyword ++ start.gap.1 ++ start.name ++ start.spacing.1

@[simp]
lemma BlockStart.depth_eq (start : BlockStart) : depth start.text = 0 := by
  have hKeyword : ∀ keyword ∈ blockKeywords, depth keyword = 0 := by decide
  simp [BlockStart.text, hKeyword _ start.isKeyword, start.braceFree.raises.depth_eq]

/-- The code of a line: what stands in front of a comment. -/
inductive Code where
  /-- Nothing, or a member, a package or an option. -/
  | plain (text : Braceless)
  /-- The end of a block. -/
  | close (before after : Blanks)
  /-- The beginning of a block whose body follows on later lines. -/
  | opener (start : BlockStart) (after : Blanks)
  /-- A block without members. -/
  | emptyBlock (start : BlockStart) (inside after : Blanks)
  /-- A method, ended by a semicolon or by an empty body. -/
  | method (before : Blanks) (gap : Blanks) (parted : gap.1 ≠ []) (declaration : Braceless)
      (bodied : Bool) (after : Blanks)

/-- The text of a code. -/
def Code.text : Code → Text
  | .plain text => text.1
  | .close before after => before.1 ++ '}' :: after.1
  | .opener start after => start.text ++ '{' :: after.1
  | .emptyBlock start inside after => start.text ++ '{' :: (inside.1 ++ '}' :: after.1)
  | .method before gap _ declaration bodied after =>
    before.1 ++ "rpc".toList ++ gap.1 ++ declaration.1 ++ (if bodied then ['{', '}'] else [';'])
      ++ after.1

/-- A line: a code, up to the first `//`, and perhaps a comment without braces. -/
structure CodeLine where
  code : Code
  unmarked : holds "//".toList code.text = false
  comment : Text
  isComment : comment = [] ∨ "//".toList <+: comment
  braceFree : BraceFree comment

namespace CodeLine

/-- The text of a line. -/
def text (line : CodeLine) : Text :=
  line.code.text ++ line.comment

/-- The words that are taken for the body of a block that begins with `start`, where `rest` stands
after the opening brace. A name with more than the brace glued to it is taken for the whole name,
and the word after it for the brace. -/
def bodyWords (start : BlockStart) (rest : Text) : List Text :=
  if start.spacing.1 = [] ∧ attached rest ≠ [] then (following rest).drop 1 else following rest

/-- How many braces more are left open by what a line is rendered to than by its code. -/
def excess (line : CodeLine) : ℤ :=
  match line.code with
  | .plain _ => if leavesOpen line.text.words then 1 else 0
  | .close _ _ => 0
  | .opener start after =>
    let rest := after.1 ++ line.comment
    -- with more than the brace glued to the name, that brace is rendered beside another one
    if start.spacing.1 = [] ∧ attached rest ≠ [] then
      if staysOpen (bodyWords start rest) then 1 else 0
    else if staysOpen (bodyWords start rest) then 0 else -1
  | .emptyBlock start inside after =>
    if inside.1 = [] then
      if staysOpen (bodyWords start ('}' :: (after.1 ++ line.comment))) then 1 else 0
    else if line.comment = [] then 0 else -1
  | .method .. => 0

lemma braceFree_behind (line : CodeLine) (blanks : Blanks) :
    BraceFree (blanks.1 ++ line.comment) := by
  simp only [BraceFree, List.forall_mem_append]
  exact ⟨blanks.braceFree, line.braceFree⟩

end CodeLine

/-! ## The words of a line with braces -/

/-- A closing brace belongs to the word that it begins. -/
lemma words_closing (rest : Text) :
    words ('}' :: rest) = ('}' :: attached rest) :: following rest :=
  words_append_attached (by decide : IsWord ['}']) rest

lemma isWord_of_mem_blockKeywords {keyword : Text} (h : keyword ∈ blockKeywords) :
    IsWord keyword := by
  have hAll : ∀ word ∈ blockKeywords, IsWord word := by decide
  exact hAll keyword h

lemma words_start (start : BlockStart) (rest : Text) :
    words (start.text ++ '{' :: rest) = start.keyword ::
      if start.spacing.1 = [] then (start.name ++ '{' :: attached rest) :: following rest
      else start.name :: ('{' :: attached rest) :: following rest := by
  have hKeyword := isWord_of_mem_blockKeywords start.isKeyword
  have hBrace : IsWord ['{'] := by decide
  simp only [BlockStart.text, List.append_assoc]
  rw [words_blanks start.before.2, words_gap hKeyword start.parted]
  split
  · next hSpacing =>
    have hWord : IsWord (start.name ++ ['{']) :=
      ⟨by simp, by simpa [or_imp, forall_and] using ⟨start.isWord.2, by decide⟩⟩
    rw [hSpacing, List.nil_append, List.append_cons, words_append_attached hWord]
    simp
  · next hSpacing =>
    rw [words_gap start.isWord hSpacing]
    exact congrArg (fun ws => start.keyword :: start.name :: ws) (words_append_attached hBrace rest)

/-- The name and the body of a block, as its head is read. -/
lemma blockHead_start (start : BlockStart) {rest : Text} (h : '{' ∉ attached rest) :
    blockHead (words (start.text ++ '{' :: rest)).tail
      = (if start.spacing.1 = [] ∧ attached rest ≠ [] then start.name ++ '{' :: attached rest
          else start.name, CodeLine.bodyWords start rest) := by
  rw [words_start, List.tail_cons, CodeLine.bodyWords]
  by_cases hSpacing : start.spacing.1 = []
  · rw [if_pos hSpacing]
    by_cases hAttached : attached rest = []
    · simp [hAttached, blockHead]
    · have hLast : (start.name ++ '{' :: attached rest).getLast? ≠ some '{' := by
        intro hLast
        obtain ⟨c, later, hc⟩ := List.exists_cons_of_ne_nil hAttached
        rw [List.getLast?_append_cons, hc, List.getLast?_cons_cons] at hLast
        exact h (hc ▸ List.mem_of_getLast? hLast)
      rw [blockHead, if_neg hLast, if_pos ⟨hSpacing, hAttached⟩, if_pos ⟨hSpacing, hAttached⟩]
  · rw [if_neg hSpacing, blockHead_of_braceFree start.braceFree]
    simp [hSpacing]

lemma Text.BraceFree.attached {rest : Text} (h : BraceFree rest) :
    BraceFree (attached rest) :=
  fun c hc => h c (List.takeWhile_subset _ hc)

lemma Text.BraceFree.following {rest : Text} (h : BraceFree rest) :
    ∀ w ∈ following rest, BraceFree w :=
  fun _ hw c hc => h c ((List.dropWhile_suffix _).subset (mem_of_mem_words hw hc))

/-- A blank behind the opening brace parts it from the body. -/
lemma attached_blanks {blanks : Blanks} (h : blanks.1 ≠ []) (rest : Text) :
    attached (blanks.1 ++ rest) = [] := by
  obtain ⟨blank, later, hBlank⟩ := List.exists_cons_of_ne_nil h
  have hFirst : isBlank blank = true := blanks.2 blank (hBlank ▸ List.mem_cons_self)
  simp [attached, hBlank, hFirst]

lemma bodyWords_blanks (start : BlockStart) {blanks : Blanks} (h : blanks.1 ≠ []) (rest : Text) :
    CodeLine.bodyWords start (blanks.1 ++ rest) = words rest := by
  have hAttached := attached_blanks h rest
  rw [CodeLine.bodyWords, if_neg (fun hGlued => hGlued.2 hAttached), following_eq_words hAttached,
    words_blanks blanks.2]

lemma braceFree_bodyWords (start : BlockStart) {rest : Text}
    (h : ∀ w ∈ following rest, BraceFree w) : ∀ w ∈ CodeLine.bodyWords start rest, BraceFree w := by
  intro w hw
  rw [CodeLine.bodyWords] at hw
  split at hw
  · exact h w (List.mem_of_mem_drop hw)
  · exact h w hw

/-! ## Lines without excess -/

namespace CodeLine

variable {line : CodeLine}

/-- A line without braces has no excess unless it begins like a block. -/
lemma excess_of_plain {text : Braceless} (hCode : line.code = .plain text)
    (hStart : ∀ word ∈ line.text.words.head?, word ∉ blockKeywords) : line.excess = 0 := by
  have hOpen : leavesOpen line.text.words = false := by
    cases hWords : line.text.words with
    | nil => rfl
    | cons word later =>
      rw [hWords] at hStart
      rw [leavesOpen_cons, decide_eq_false (hStart word rfl), Bool.false_and]
  simp [excess, hCode, hOpen]

/-- Without a comment the only blocks rendered with an excess are those with nothing, not even a
blank, between their braces. -/
lemma excess_of_uncommented (hComment : line.comment = []) :
    line.excess = match line.code with
      | .plain _ => if leavesOpen line.text.words then 1 else 0
      | .emptyBlock _ inside _ => if inside.1 = [] then 1 else 0
      | _ => 0 := by
  have hFollowing : ∀ blanks : Blanks, following blanks.1 = [] := fun blanks =>
    words_eq_nil_iff.2 fun c hc => blanks.2 c ((List.dropWhile_suffix _).subset hc)
  cases hCode : line.code with
  | plain text => simp [excess, hCode]
  | close before after => simp [excess, hCode]
  | opener start after =>
    have hAttached : attached after.1 = [] := by
      by_cases hAfter : after.1 = []
      · simp [hAfter, attached]
      · simpa using attached_blanks hAfter []
    simp [excess, hCode, hComment, bodyWords, hAttached, hFollowing, staysOpen]
  | emptyBlock start inside after =>
    have hBody : bodyWords start ('}' :: after.1) = [] := by
      have hNone : following ('}' :: after.1) = [] := hFollowing after
      simp [bodyWords, hNone]
    simp [excess, hCode, hComment, hBody, staysOpen]
  | method before gap parted declaration bodied after => simp [excess, hCode]

/-- A comment that stands apart from the opening brace is taken for the body of the block, which is
therefore closed at the end of the line. -/
lemma excess_of_commented_opener {start : BlockStart} {after : Blanks}
    (hCode : line.code = .opener start after) (hAfter : after.1 ≠ [])
    (hComment : line.comment ≠ []) : line.excess = -1 := by
  obtain ⟨note, hNote⟩ := line.isComment.resolve_left hComment
  have hBody : bodyWords start (after.1 ++ line.comment)
      = ("//".toList ++ attached note) :: following note := by
    rw [bodyWords_blanks start hAfter, ← hNote, words_append_attached (by decide)]
  have hOpen : staysOpen (bodyWords start (after.1 ++ line.comment)) = false := by
    have hBlock : "//".toList ++ attached note ∉ blockKeywords := by simp [blockKeywords]
    rw [hBody, staysOpen, leavesOpen_cons, decide_eq_false hBlock]
    rfl
  have hApart := attached_blanks hAfter line.comment
  simp [excess, hCode, hOpen, hApart]

end CodeLine

end ProtoTypings
