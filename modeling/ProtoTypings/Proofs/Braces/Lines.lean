import ProtoTypings.Proofs.Braces.Spelling

/-!
# The depth of a rendered line

How far the line rendered from a line raises the depth of braces, one spelling after the other.
Blocks are treated together first: their head is read as a name, which may have braces glued to it,
and a body, which is rendered like a line of its own.
-/

namespace ProtoTypings

open Text

/-! ## Rendered lines -/

section Rendered

variable (options : Options) (dialect : Dialect)

/-- A block whose body begins with words without braces. -/
lemma raises_block {line keyword name : Text} {later body : List Text} {rise : ℤ}
    (hKeyword : keyword ∈ blockKeywords) (hHead : blockHead later = (name, body))
    (hName : Raises rise name) (hRise : 0 ≤ rise) (hBody : ∀ w ∈ body, BraceFree w) :
    Raises (rise + (if ReachesPackage (keyword :: later) then 1 else 0)
        + if staysOpen body then 1 else 0)
      (((Statement.ofWords line (keyword :: later)).render options dialect).getD []) := by
  obtain ⟨block, hBlock⟩ := mem_blockKeywords_iff.1 hKeyword
  have hCloser := withoutCloser_of_braceFree hBody
  have hOpening := raises_opening block hName hRise
  rw [Statement.ofWords_block hBlock]
  simp only [reachesPackage_cons_iff hKeyword, hHead, hCloser]
  cases body with
  | nil => simpa [Statement.render, staysOpen, not_reachesPackage_nil] using hOpening
  | cons inner more =>
    have hInside := raises_plain options dialect (over_unwords (by decide) hBody) hBody
    have hAll := hOpening.enclosed hInside (by omega)
    rw [plainRise, add_comm (ite _ _ _ : ℤ), ← add_assoc] at hAll
    simpa [Statement.render, staysOpen, hCloser] using hAll

/-- A line whose first word begins with a closing brace. -/
lemma raises_closing {line glued : Text} (hGlued : BraceFree glued) (later : List Text) :
    Raises (-1) (((Statement.ofWords line (('}' :: glued) :: later)).render options dialect).getD
      []) := by
  cases glued with
  | nil =>
    have hKeyword : Keyword.ofWord? ['}'] = some .close := by decide
    rw [Statement.ofWords, hKeyword]
    exact raises_close
  | cons c glued =>
    have hKeyword : Keyword.ofWord? ('}' :: c :: glued) = none := rfl
    have hLabel : Label.ofWord? ('}' :: c :: glued) = none := rfl
    have hType : fieldType ('}' :: c :: glued) = '}' :: c :: glued := rfl
    rw [Statement.ofWords_member hKeyword, hLabel]
    refine raises_member options dialect none ?_ later
    rw [hType]
    exact raises_close.before_braceFree hGlued

lemma raises_nothing : Raises 0 ((Statement.nothing.render options dialect).getD []) := by
  rw [Statement.render]
  split <;> exact raises_nil

end Rendered

/-- A line that is taken out does not begin with a keyword. -/
lemma keyword_of_declaresNothing {line : Text} (h : declaresNothing line = true) :
    ∃ first later, line.words = first :: later ∧ Keyword.ofWord? first = none := by
  obtain ⟨first, later, hFirst, hStart⟩ := words_of_declaresNothing h
  refine ⟨first, later, hFirst, ?_⟩
  rcases hStart with ⟨rest, rfl⟩ | rfl
  · rfl
  · decide

/-- A line is not taken out unless it begins with `option` or `syntax`. -/
lemma declaring?_eq_some {line first : Text} {later : List Text}
    (hWords : line.words = first :: later) (hOption : first ≠ "option".toList)
    (hSyntax : ¬ "syntax".toList <+: first) : declaring? line = some line := by
  rw [declaring?, if_neg]
  intro h
  obtain ⟨word, others, hOther, h⟩ := words_of_declaresNothing h
  obtain ⟨rfl, -⟩ := List.cons.inj (hWords.symm.trans hOther)
  exact h.elim hSyntax hOption

lemma declaring?_block {line keyword : Text} {later : List Text}
    (hWords : line.words = keyword :: later) (hKeyword : keyword ∈ blockKeywords) :
    declaring? line = some line := by
  have hOption : ∀ keyword ∈ blockKeywords, keyword ≠ "option".toList := by decide
  have hSyntax : ∀ keyword ∈ blockKeywords, ¬ "syntax".toList <+: keyword := by decide
  exact declaring?_eq_some hWords (hOption keyword hKeyword) (hSyntax keyword hKeyword)

namespace CodeLine

/-- What is rendered of a line; nothing is the empty text. -/
def rendered (options : Options) (dialect : Dialect) (line : CodeLine) : Text :=
  ((Statement.ofLine (declaring? line.text)).render options dialect).getD []

/-- How far the line rendered from a line is to raise the depth. -/
def rise (line : CodeLine) : ℤ :=
  depth line.code.text + (if ReachesPackage line.text.words then 1 else 0) + line.excess

section Kinds

variable (options : Options) (dialect : Dialect) (line : CodeLine)

lemma raises_of_plain {text : Braceless} (hCode : line.code = .plain text) :
    Raises line.rise (line.rendered options dialect) := by
  have hText : BraceFree line.text := by
    simp only [CodeLine.text, hCode, Code.text, BraceFree, List.forall_mem_append]
    exact ⟨text.2, line.braceFree⟩
  have hWords : ∀ w ∈ line.text.words, BraceFree w :=
    fun _ hw c hc => hText c (mem_of_mem_words hw hc)
  have hRise : line.rise = plainRise line.text.words := by
    simp only [rise, excess, hCode, Code.text, text.depth_eq, plainRise]
    omega
  rw [hRise, rendered, declaring?]
  split
  · next hNothing =>
    -- the line was taken out, and it begins with no keyword of a block
    obtain ⟨first, later, hFirst, hKeyword⟩ := keyword_of_declaresNothing hNothing
    rw [hFirst, plainRise_of_not_keyword hKeyword]
    exact raises_nothing options dialect
  · exact raises_plain options dialect hText hWords

lemma raises_of_close {before after : Blanks} (hCode : line.code = .close before after) :
    Raises line.rise (line.rendered options dialect) := by
  have hWords : line.text.words = ('}' :: attached (after.1 ++ line.comment)) ::
      following (after.1 ++ line.comment) := by
    rw [CodeLine.text, hCode, Code.text, List.append_assoc, words_blanks before.2]
    exact words_closing _
  have hRise : line.rise = -1 := by
    have hPackage : ¬ ReachesPackage line.text.words := by
      rw [hWords]
      exact not_reachesPackage_cons (by simp [blockKeywords]) (by simp)
    simp [rise, excess, hCode, Code.text, hPackage, before.depth_eq, after.depth_eq, weight]
  rw [hRise, rendered, declaring?_eq_some hWords (by simp) (by simp), Statement.ofLine, hWords]
  exact raises_closing options dialect (line.braceFree_behind after).attached _

/-- A block, where `rest` stands after the opening brace and the words of the body hold no brace. -/
lemma raises_of_start {start : BlockStart} {rest : Text} {rise : ℤ}
    (hText : line.text = start.text ++ '{' :: rest) (hAttached : '{' ∉ attached rest)
    (hName : Raises rise (if start.spacing.1 = [] ∧ attached rest ≠ [] then
      start.name ++ '{' :: attached rest else start.name)) (hRise : 0 ≤ rise)
    (hBody : ∀ w ∈ bodyWords start rest, BraceFree w) :
    Raises (rise + (if ReachesPackage line.text.words then 1 else 0)
        + if staysOpen (bodyWords start rest) then 1 else 0)
      (line.rendered options dialect) := by
  obtain ⟨later, hWords⟩ : ∃ later, line.text.words = start.keyword :: later := by
    rw [hText, words_start]
    exact ⟨_, rfl⟩
  have hHead := blockHead_start start hAttached
  rw [← hText, hWords, List.tail_cons] at hHead
  rw [rendered, declaring?_block hWords start.isKeyword, Statement.ofLine, hWords]
  exact raises_block options dialect start.isKeyword hHead hName hRise hBody

lemma raises_of_opener {start : BlockStart} {after : Blanks}
    (hCode : line.code = .opener start after) :
    Raises line.rise (line.rendered options dialect) := by
  have hText : line.text = start.text ++ '{' :: (after.1 ++ line.comment) := by
    rw [CodeLine.text, hCode, Code.text, List.append_assoc, List.cons_append]
  have hRest := line.braceFree_behind after
  have hDepth : depth line.code.text = 1 := by
    simp [hCode, Code.text, weight]
  have hAttached := hRest.attached
  have hBody := braceFree_bodyWords start hRest.following
  have hBrace : '{' ∉ attached (after.1 ++ line.comment) := fun hc => hAttached _ hc (by decide)
  by_cases hGlued : start.spacing.1 = [] ∧ attached (after.1 ++ line.comment) ≠ []
  · -- the brace is read into the name, and another one is rendered behind it
    have hName : Raises 1 (start.name ++ '{' :: attached (after.1 ++ line.comment)) :=
      (raises_open.before_braceFree hAttached).after_braceFree start.braceFree
    have hRise := raises_of_start options dialect line hText hBrace
      (by rwa [if_pos hGlued]) (by omega) hBody
    rw [rise, hDepth]
    simp only [excess, hCode, if_pos hGlued]
    exact hRise
  · -- the name is read without the brace
    have hRise := raises_of_start options dialect line hText hBrace
      (by rw [if_neg hGlued]; exact start.braceFree.raises) (by omega) hBody
    have hSum : line.rise = 0 + (if ReachesPackage line.text.words then 1 else 0)
        + if staysOpen (bodyWords start (after.1 ++ line.comment)) then 1 else 0 := by
      rw [rise, hDepth]
      simp only [excess, hCode, if_neg hGlued]
      split <;> split <;> rfl
    rw [hSum]
    exact hRise

/-- An empty block whose braces stand side by side. -/
lemma raises_of_glued_braces {start : BlockStart} {inside after : Blanks}
    (hCode : line.code = .emptyBlock start inside after) (hInside : inside.1 = []) :
    Raises line.rise (line.rendered options dialect) := by
  have hText : line.text = start.text ++ '{' :: '}' :: (after.1 ++ line.comment) := by
    rw [CodeLine.text, hCode, Code.text, hInside]
    simp
  have hRest := line.braceFree_behind after
  have hDepth : depth line.code.text = 0 := by
    simp [hCode, Code.text, weight]
  have hAttached : attached ('}' :: (after.1 ++ line.comment))
      = '}' :: attached (after.1 ++ line.comment) := rfl
  have hBody : ∀ w ∈ bodyWords start ('}' :: (after.1 ++ line.comment)), BraceFree w :=
    braceFree_bodyWords start hRest.following
  have hBrace : '{' ∉ attached ('}' :: (after.1 ++ line.comment)) := by
    rw [hAttached, List.mem_cons, not_or]
    exact ⟨by decide, fun hc => hRest.attached _ hc (by decide)⟩
  have hName : Raises 0 (if start.spacing.1 = [] ∧ attached ('}' :: (after.1 ++ line.comment)) ≠ []
      then start.name ++ '{' :: attached ('}' :: (after.1 ++ line.comment)) else start.name) := by
    split
    · -- both braces are read into the name
      rw [hAttached]
      exact (Paired.pair hRest.attached.paired).raises.after_braceFree start.braceFree
    · exact start.braceFree.raises
  have hRise := raises_of_start options dialect line hText hBrace hName (by omega) hBody
  rw [rise, hDepth]
  simp only [excess, hCode, if_pos hInside]
  exact hRise

/-- Behind a closing brace nothing but blanks leaves that brace the last word, and it is dropped; a
comment keeps it. -/
lemma withoutCloser_words (after : Blanks) :
    withoutCloser (words ('}' :: (after.1 ++ line.comment)))
      = if line.comment = [] then [] else words ('}' :: (after.1 ++ line.comment)) := by
  split
  · next hNone =>
    have hBlank : ∀ c ∈ after.1.head?, isBlank c = true :=
      fun c hc => after.2 c (List.mem_of_mem_head? hc)
    have hRest : words after.1 = [] := words_eq_nil_iff.2 after.2
    have hWords : words (['}'] ++ after.1) = [['}']] := by
      rw [words_append (by decide) hBlank, hRest]
    rw [hNone, List.append_nil, ← List.singleton_append, hWords]
    decide
  · next hSome =>
    have hRest := line.braceFree_behind after
    have hTail : words (after.1 ++ line.comment) ≠ [] := by
      obtain ⟨note, hNote⟩ := line.isComment.resolve_left hSome
      rw [words_blanks after.2, Ne, words_eq_nil_iff, ← hNote]
      intro hAll
      exact absurd (hAll '/' (by simp)) (by decide)
    rw [withoutCloser, words_closing, if_neg]
    intro hLast
    cases hFollowing : following (after.1 ++ line.comment) with
    | nil =>
      -- the comment is glued to the brace, which is then not a word of its own
      rw [hFollowing] at hLast
      have hAttached : attached (after.1 ++ line.comment) = [] := by simpa using hLast
      exact hTail ((following_eq_words hAttached).symm.trans hFollowing)
    | cons first later =>
      -- the last word belongs to the comment, which holds no brace
      rw [hFollowing, List.getLast?_cons_cons, ← hFollowing] at hLast
      exact hRest.following _ (List.mem_of_getLast? hLast) '}' (by decide) (by decide)

/-- An empty block with a blank between its braces. -/
lemma raises_of_parted_braces {start : BlockStart} {inside after : Blanks}
    (hCode : line.code = .emptyBlock start inside after) (hInside : inside.1 ≠ []) :
    Raises line.rise (line.rendered options dialect) := by
  have hText : line.text
      = start.text ++ '{' :: (inside.1 ++ ('}' :: (after.1 ++ line.comment))) := by
    simp [CodeLine.text, hCode, Code.text]
  have hAttached := attached_blanks hInside ('}' :: (after.1 ++ line.comment))
  have hDepth : depth line.code.text = 0 := by
    simp [hCode, Code.text, weight]
  obtain ⟨later, hWords⟩ : ∃ later, line.text.words = start.keyword :: later := by
    rw [hText, words_start]
    exact ⟨_, rfl⟩
  have hHead := blockHead_start start
    (by simp [hAttached] : '{' ∉ attached (inside.1 ++ ('}' :: (after.1 ++ line.comment))))
  rw [← hText, hWords, List.tail_cons, if_neg (fun h => h.2 hAttached),
    bodyWords_blanks start hInside] at hHead
  have hCloser := line.withoutCloser_words after
  rw [words_closing] at hHead hCloser
  have hPackage : ¬ ReachesPackage line.text.words := by
    rw [hWords, reachesPackage_cons_iff start.isKeyword, hHead, hCloser]
    split
    · exact not_reachesPackage_nil
    · exact not_reachesPackage_cons (by simp [blockKeywords]) (by simp)
  have hRise : line.rise = if line.comment = [] then 0 else -1 := by
    rw [rise, hDepth, if_neg hPackage]
    simp [excess, hCode, if_neg hInside]
  obtain ⟨block, hBlock⟩ := mem_blockKeywords_iff.1 start.isKeyword
  have hOpening := raises_opening block start.braceFree.raises (by omega)
  rw [hRise, rendered, declaring?_block hWords start.isKeyword, Statement.ofLine, hWords,
    Statement.ofWords_block hBlock, hHead]
  simp only [hCloser]
  rw [Statement.render, Option.getD_some]
  split
  · rw [Statement.ofWords]
    exact hOpening.enclosed (raises_nothing options dialect) (by omega)
  · -- the brace stands inside the body and is rendered once more behind it
    exact hOpening.enclosed
      (raises_closing options dialect (line.braceFree_behind after).attached _) (by omega)

lemma raises_of_method {before gap : Blanks} {parted : gap.1 ≠ []} {declaration : Braceless}
    {bodied : Bool} {after : Blanks}
    (hCode : line.code = .method before gap parted declaration bodied after) :
    Raises line.rise (line.rendered options dialect) := by
  have hEnding : Paired (if bodied then ['{', '}'] else [';']) := by
    cases bodied
    · exact BraceFree.paired (by decide)
    · exact .pair .nil
  have hCodeText : Paired line.code.text := by
    have hDeclaration : BraceFree (before.1 ++ "rpc".toList ++ gap.1 ++ declaration.1) := by
      simp only [BraceFree, List.forall_mem_append]
      exact ⟨⟨⟨before.braceFree, by decide⟩, gap.braceFree⟩, declaration.2⟩
    rw [hCode, Code.text]
    exact (hDeclaration.paired_append hEnding).append after.braceFree.paired
  have hWords : ∃ later, line.text.words = "rpc".toList :: later := by
    simp only [CodeLine.text, hCode, Code.text, List.append_assoc]
    rw [words_blanks before.2, words_gap (by decide) parted]
    exact ⟨_, rfl⟩
  obtain ⟨later, hWords⟩ := hWords
  have hRise : line.rise = 0 := by
    have hPackage : ¬ ReachesPackage line.text.words := by
      rw [hWords]
      exact not_reachesPackage_cons (by decide) (by decide)
    rw [rise, hCodeText.raises.depth_eq, if_neg hPackage]
    simp only [excess, hCode]
    rfl
  have hText : Paired line.text := hCodeText.append line.braceFree.paired
  have hKind : LineKind.ofWords ("rpc".toList :: later)
      = (.keyword .method, "rpc".toList :: later) := LineKind.ofWords_of_keyword (by decide)
  rw [hRise, rendered, declaring?_eq_some hWords (by decide) (by decide), Statement.ofLine, hWords,
    Statement.ofWords_eq, hKind]
  have hMethod := (paired_rpc options hText).raises
  rw [methodLine] at hMethod
  cases hFind : Method.find? line.text with
  | some found => simpa [hFind, Statement.render] using hMethod
  | none => simpa [hFind, Statement.render] using hMethod

/-- **What is rendered of a line** raises the depth by its rise, whatever its spelling. -/
lemma raises_rendered : Raises line.rise (line.rendered options dialect) := by
  cases hCode : line.code with
  | plain text => exact raises_of_plain options dialect line hCode
  | close before after => exact raises_of_close options dialect line hCode
  | opener start after => exact raises_of_opener options dialect line hCode
  | emptyBlock start inside after =>
    by_cases hInside : inside.1 = []
    · exact raises_of_glued_braces options dialect line hCode hInside
    · exact raises_of_parted_braces options dialect line hCode hInside
  | method before gap parted declaration bodied after =>
    exact raises_of_method options dialect line hCode

end Kinds

end CodeLine

end ProtoTypings
