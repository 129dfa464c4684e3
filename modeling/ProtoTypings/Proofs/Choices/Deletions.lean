import ProtoTypings.Proofs.Choices.SideBySide

/-!
# Leaving out empty lines and comments

Two switches only take something away. Stripping empty lines deletes the empty lines of the full
document, which come from lines that say nothing. Leaving out comments deletes the lines of comments
and, where the innermost body of a line is a comment, what stands between its braces. The main
statement, `Session.takeLines_deletions`, also says what becomes of the document around the lines:
nothing changes but that a comment that is kept may bring in the import of `Stream`.
-/

namespace ProtoTypings

/-- What remains of the line produced for a line when comments are left out. -/
def withoutComment (line : Option Text) (output : Text) : Option Text :=
  match line with
  | none => some output
  | some text =>
    if IsComment text then none
    else if IsComment (innermost text) then some (framed (headers text) [])
    else some output

/-! ## Empty lines -/

lemma ne_nil_of_leadingKeyword? {text : Text} {announced : Keyword}
    (h : leadingKeyword? text = some announced) : text ≠ [] := by
  rintro rfl
  simp [leadingKeyword?] at h

/-- Only what says nothing is rendered as the empty line. -/
lemma render_ne_nil {options : Options} {dialect : Dialect} {text : Text}
    (h : Statement.ofLine (some text) ≠ .nothing) :
    (Statement.ofLine (some text)).render options dialect ≠ some [] := by
  have hRead := Statement.readFrom text
  intro hRender
  generalize Statement.ofLine (some text) = statement at hRead h hRender
  cases hRead with
  | nothing => exact h rfl
  | comment hKeyword =>
    rw [Statement.render] at hRender
    split at hRender
    · exact ne_nil_of_leadingKeyword? hKeyword (Option.some.inj hRender)
    · simp at hRender
  | unread hKeyword => exact ne_nil_of_leadingKeyword? hKeyword (Option.some.inj hRender)
  | close => exact List.cons_ne_nil _ _ (Option.some.inj hRender)
  | header =>
    exact List.cons_ne_nil _ _ (List.append_eq_nil_iff.1 (Option.some.inj hRender)).2
  | oneLine =>
    exact List.cons_ne_nil _ _ (List.append_eq_nil_iff.1 (Option.some.inj hRender)).2
  | method =>
    have hLead := (List.append_eq_nil_iff.1 (Option.some.inj hRender)).1
    exact absurd (List.append_eq_nil_iff.1 hLead).2 (by decide)
  | package =>
    exact List.cons_ne_nil _ _ (List.append_eq_nil_iff.1 (Option.some.inj hRender)).2
  | enumValue =>
    exact List.cons_ne_nil _ _ (List.append_eq_nil_iff.1 (Option.some.inj hRender)).2
  | field =>
    have hLead := (List.append_eq_nil_iff.1 (Option.some.inj hRender)).1
    have hName := (List.append_eq_nil_iff.1 hLead).1
    exact absurd (List.append_eq_nil_iff.1 hName).2 (by decide)

section EmptyLines

variable (options : Options) (dialect : Dialect)

lemma leftOf_stripEmptyLines (line : Option Text) :
    leftOf { options with stripEmptyLines := true } dialect line
      = leftOf { options with stripEmptyLines := false } dialect line := by
  refine leftOf_congr fun text _ => ?_
  cases hInner : Statement.ofLine (some (innermost text)) with
  | oneLine => exact absurd hInner (Statement.ofLine_innermost_ne_oneLine _ _ _ _)
  | _ => rw [leftOf, leftOf, hInner]; rfl

/-- In the full document exactly the lines that say nothing are empty. -/
lemma leftOf_eq_nil_iff {line : Option Text}
    (h : ¬ LeavesNothing { options with stripEmptyLines := false } line) :
    leftOf { options with stripEmptyLines := false } dialect line = [] ↔ SaysNothing line := by
  rw [← @render_ofLine_eq_none_iff _ dialect] at h
  rw [saysNothing_iff]
  constructor
  · intro hEmpty
    by_contra hSays
    cases line with
    | none => exact hSays rfl
    | some text =>
      obtain ⟨output, hOutput⟩ := Option.ne_none_iff_exists'.1 h
      rw [leftOf, hOutput] at hEmpty
      exact render_ne_nil hSays (hOutput.trans (congrArg some hEmpty))
  · intro hSays
    rw [leftOf, hSays]
    rfl

lemma remaining_stripEmptyLines (lines : List (Option Text)) :
    remaining { options with stripEmptyLines := true } lines
      = (remaining { options with stripEmptyLines := false } lines).filter
          fun line => ¬ SaysNothing line := by
  rw [remaining, remaining, List.filter_filter]
  refine List.filter_congr fun line _ => ?_
  rw [← Bool.decide_and, decide_eq_decide, LeavesNothing, LeavesNothing]
  simp only [true_and, Bool.false_eq_true, false_and, false_or, not_or]

lemma typingLines_stripEmptyLines (lines : List (Option Text)) :
    typingLines { options with stripEmptyLines := true } dialect lines
      = (typingLines { options with stripEmptyLines := false } dialect lines).filter (· ≠ []) := by
  rw [typingLines_eq_map, typingLines_eq_map, remaining_stripEmptyLines, List.filter_map,
    funext (leftOf_stripEmptyLines options dialect)]
  congr 1
  refine List.filter_congr fun line hLine => ?_
  have hLeft := of_decide_eq_true (List.mem_filter.1 hLine).2
  rw [Function.comp_apply, decide_eq_decide, not_iff_not]
  exact (leftOf_eq_nil_iff options dialect hLeft).symm

end EmptyLines

/-! ## Comments -/

lemma isComment_iff {text : Text} : IsComment text ↔ leadingKeyword? text = some .comment := by
  rw [IsComment, leadingKeyword?, Option.bind_eq_some_iff]
  constructor
  · intro h
    exact ⟨_, h, by decide⟩
  · rintro ⟨word, hWord, hKeyword⟩
    obtain rfl := List.mem_singleton.1 (Keyword.ofWord?_eq_some_iff.1 hKeyword)
    exact hWord

lemma ofLine_of_isComment {text : Text} (h : IsComment text) :
    Statement.ofLine (some text) = .comment text :=
  Statement.ofLine_eq_comment_iff.2 ⟨rfl, isComment_iff.1 h⟩

/-- A comment is no block, so it is its own innermost body. -/
lemma headers_of_isComment {text : Text} (h : IsComment text) : headers text = [] := by
  rw [headers_eq_nil_iff]
  by_contra hBlock
  obtain ⟨⟨header, body⟩, hBlock⟩ := Option.ne_none_iff_exists'.1 hBlock
  have hLine := Statement.ofLine_of_blockOnLine? hBlock
  rw [ofLine_of_isComment h] at hLine
  simp at hLine

lemma innermost_of_isComment {text : Text} (h : IsComment text) : innermost text = text :=
  innermost_of_headers_eq_nil (headers_of_isComment h)

section Comments

variable (options : Options) (dialect : Dialect)

lemma leftOf_of_innermost_comment {text : Text} (h : IsComment (innermost text)) (keep : Bool) :
    leftOf { options with keepComments := keep } dialect (some text)
      = framed (headers text) (if keep then innermost text else []) := by
  rw [leftOf_innermost, leftOf, ofLine_of_isComment h]
  cases keep <;> rfl

/-- Where the innermost body is no comment, the switch does nothing. -/
lemma leftOf_keepComments {line : Option Text} (h : ∀ text ∈ line, ¬ IsComment (innermost text)) :
    leftOf { options with keepComments := true } dialect line
      = leftOf { options with keepComments := false } dialect line := by
  refine leftOf_congr fun text hText => ?_
  cases hInner : Statement.ofLine (some (innermost text)) with
  | oneLine => exact absurd hInner (Statement.ofLine_innermost_ne_oneLine _ _ _ _)
  | comment =>
    have hComment := (Statement.ofLine_eq_comment_iff.1 hInner).2
    exact absurd (isComment_iff.2 hComment) (h text hText)
  | _ => rw [leftOf, leftOf, hInner]; rfl

/-- What is left of a line without comments, from what is left of it with them. -/
lemma withoutComment_leftOf (line : Option Text) :
    withoutComment line (leftOf { options with keepComments := true } dialect line)
      = if ∃ text ∈ line, IsComment text then none
        else some (leftOf { options with keepComments := false } dialect line) := by
  cases line with
  | none => rfl
  | some text =>
    rw [withoutComment]
    by_cases hText : IsComment text
    · simp [hText]
    · by_cases hInner : IsComment (innermost text)
      · simp [hText, hInner, leftOf_of_innermost_comment options dialect hInner false]
      · have hSame : ∀ other ∈ some text, ¬ IsComment (innermost other) := by
          rintro _ ⟨⟩
          exact hInner
        simp [hText, hInner, leftOf_keepComments options dialect hSame]

lemma remaining_keepComments (lines : List (Option Text)) :
    remaining { options with keepComments := false } lines
      = (remaining { options with keepComments := true } lines).filter
          fun line => ¬ ∃ text ∈ line, IsComment text := by
  rw [remaining, remaining, List.filter_filter]
  refine List.filter_congr fun line _ => ?_
  rw [← Bool.decide_and, decide_eq_decide, LeavesNothing, LeavesNothing]
  simp only [true_and, Bool.true_eq_false, false_and, or_false, not_or]
  exact and_comm

lemma typingLines_keepComments (lines : List (Option Text)) :
    typingLines { options with keepComments := false } dialect lines
      = ((remaining { options with keepComments := true } lines).zip
          (typingLines { options with keepComments := true } dialect lines)).filterMap
            fun row => withoutComment row.1 row.2 := by
  rw [typingLines_eq_map, typingLines_eq_map, remaining_keepComments]
  generalize remaining { options with keepComments := true } lines = sources
  induction sources with
  | nil => rfl
  | cons line sources ih =>
    rw [List.map_cons, List.zip_cons_cons, List.filterMap_cons, withoutComment_leftOf, ← ih]
    by_cases hComment : ∃ text ∈ line, IsComment text
    · rw [if_pos hComment, List.filter_cons_of_neg (by simpa using hComment)]
    · rw [if_neg hComment, List.filter_cons_of_pos (by simpa using hComment), List.map_cons]

lemma leftOf_of_isComment {line : Option Text} (h : ∃ text ∈ line, IsComment text) :
    leftOf { options with keepComments := false } dialect line = [] := by
  obtain ⟨text, rfl, hComment⟩ := h
  have hInner : IsComment (innermost text) := (innermost_of_isComment hComment).symm ▸ hComment
  rw [leftOf_of_innermost_comment options dialect hInner, headers_of_isComment hComment]
  rfl

/-- The word `Stream` stands in a kept comment or in what is left without comments. -/
lemma isInfix_leftOf_keepComments {line : Option Text} :
    "Stream".toList <:+: leftOf { options with keepComments := true } dialect line ↔
      "Stream".toList <:+: leftOf { options with keepComments := false } dialect line ∨
        ∃ text ∈ line, IsComment (innermost text) ∧ "Stream".toList <:+: innermost text := by
  by_cases hInner : ∃ text ∈ line, IsComment (innermost text)
  · obtain ⟨text, rfl, hComment⟩ := hInner
    rw [leftOf_of_innermost_comment options dialect hComment,
      leftOf_of_innermost_comment options dialect hComment, if_pos rfl, isInfix_stream_framed]
    simp [hComment]
  · have hNoComment : ∀ text ∈ line, ¬ IsComment (innermost text) := by
      intro text hText hComment
      exact hInner ⟨text, hText, hComment⟩
    rw [leftOf_keepComments options dialect hNoComment]
    refine (or_iff_left ?_).symm
    rintro ⟨text, hText, hComment, -⟩
    exact hNoComment text hText hComment

/-- A comment that is kept brings in the word `Stream`, and nothing else that is left out does. -/
lemma mentionsStream_keepComments (lines : List (Option Text)) :
    mentionsStream (typingLines { options with keepComments := true } dialect lines) = true ↔
      mentionsStream (typingLines { options with keepComments := false } dialect lines) = true ∨
        ∃ text, some text ∈ lines ∧ IsComment (innermost text) ∧
          "Stream".toList <:+: innermost text := by
  rw [mentionsStream_typingLines_iff, mentionsStream_typingLines_iff, remaining_keepComments]
  constructor
  · rintro ⟨line, hLine, hStream⟩
    rcases (isInfix_leftOf_keepComments options dialect).1 hStream with hBare | ⟨text, rfl, hText⟩
    · refine .inl ⟨line, List.mem_filter.2 ⟨hLine, ?_⟩, hBare⟩
      rw [decide_eq_true_iff]
      intro hComment
      rw [leftOf_of_isComment options dialect hComment] at hBare
      exact absurd hBare (by decide)
    · exact .inr ⟨text, (mem_remaining.1 hLine).1, hText⟩
  · rintro (⟨line, hLine, hStream⟩ | ⟨text, hText, hComment, hStream⟩)
    · exact ⟨line, List.mem_of_mem_filter hLine,
        (isInfix_leftOf_keepComments options dialect).2 (.inl hStream)⟩
    · have hOutput : (Statement.ofLine (some (innermost text))).render
          { options with keepComments := true } .proto3 = some (innermost text) := by
        rw [ofLine_of_isComment hComment]
        rfl
      exact ⟨some text, mem_remaining.2 ⟨hText, not_leavesNothing_of_innermost hOutput⟩,
        (isInfix_leftOf_keepComments options dialect).2 (.inr ⟨text, rfl, hComment, hStream⟩)⟩

end Comments

/-! ## Documents -/

lemma mentionsStream_filter (lines : List Text) :
    mentionsStream (lines.filter (· ≠ [])) = mentionsStream lines := by
  rw [Bool.eq_iff_iff, mentionsStream_iff, mentionsStream_iff]
  constructor
  · rintro ⟨line, hLine, hStream⟩
    exact ⟨line, List.mem_of_mem_filter hLine, hStream⟩
  · rintro ⟨line, hLine, hStream⟩
    refine ⟨line, List.mem_filter.2 ⟨hLine, ?_⟩, hStream⟩
    rw [decide_eq_true_iff]
    rintro rfl
    exact absurd hStream (by decide)

lemma assemble_stripEmptyLines (options : Options) (named : Bool) (lines : List Text) :
    Document.assemble { options with stripEmptyLines := true } named (lines.filter (· ≠ []))
      = (Document.assemble { options with stripEmptyLines := false } named lines).map
          fun whole => { whole with lines := whole.lines.filter (· ≠ []) } := by
  unfold Document.assemble
  cases options.streams with
  | mode mode =>
    dsimp only
    rw [StreamMode.neededLibrary?, mentionsStream_filter]
    rfl
  | unchecked value =>
    dsimp only
    rw [mentionsStream_filter]
    split <;> rfl
  | foreign value =>
    dsimp only
    rw [mentionsStream_filter]
    split <;> rfl

/-- Without comments a document has other lines, and it may do without a library that only a comment
asks for. -/
lemma assemble_keepComments {options : Options} {mode : StreamMode}
    (hMode : options.streams = .mode mode) (dialect : Dialect) (named : Bool)
    (lines : List (Option Text)) :
    ∃ whole library,
      Document.assemble { options with keepComments := true } named
        (typingLines { options with keepComments := true } dialect lines) = .ok whole ∧
      Document.assemble { options with keepComments := false } named
          (typingLines { options with keepComments := false } dialect lines)
        = .ok { whole with
            lines := typingLines { options with keepComments := false } dialect lines
            streamLibrary := library } ∧
      (library = whole.streamLibrary ∨ library = none ∧ ∃ text, some text ∈ lines ∧
        IsComment (innermost text) ∧ "Stream".toList <:+: innermost text) := by
  have hMentions := mentionsStream_keepComments options dialect lines
  refine ⟨_, _, assemble_mode hMode named _, assemble_mode hMode named _, ?_⟩
  rw [StreamMode.neededLibrary?, StreamMode.neededLibrary?]
  by_cases hBare : mentionsStream (typingLines { options with keepComments := false } dialect lines)
  · exact .inl (by rw [if_pos hBare, if_pos (hMentions.2 (.inl hBare))])
  · rw [if_neg hBare]
    by_cases hKept :
      mentionsStream (typingLines { options with keepComments := true } dialect lines)
    · exact .inr ⟨rfl, (hMentions.1 hKept).resolve_left hBare⟩
    · exact .inl (by rw [if_neg hKept])

namespace Session

/-- **What the switches for empty lines and comments leave out.**  Whatever the options are, a
session comes to the same dialect and the same named package.

Stripping empty lines deletes the empty lines of the full run, which belong to the lines that say
nothing, and the document is otherwise the same.

Leaving out comments deletes what `withoutComment` says: the lines of comments, and of a block on
one line whose innermost body is a comment the text of that body. The documents differ in their
lines and in no more than the library that `Stream` comes from, which a kept comment may need.

If a schema is given to a session that is fresh, the document is the one that is generated. -/
theorem takeLines_deletions (session : Session) (lines : List (Option Text)) :
    let run (options : Options) : List Text × Session :=
      Session.takeLines { session with options := options } lines
    let document (options : Options) : Except StreamSetting Document :=
      Document.assemble options (run options).2.inNamespace (run options).1
    let spare : Options := { session.options with stripEmptyLines := true }
    let full : Options := { session.options with stripEmptyLines := false }
    let kept : Options := { session.options with keepComments := true }
    let bare : Options := { session.options with keepComments := false }
    (∀ one other, (run one).2.inNamespace = (run other).2.inNamespace ∧
      (run one).2.dialect = session.dialect) ∧
    ((run spare).1 = (run full).1.filter (· ≠ []) ∧
      List.Forall₂ (fun line output => output = [] ↔ SaysNothing line) (remaining full lines)
        (run full).1 ∧
      document spare = (document full).map fun whole =>
        { whole with lines := whole.lines.filter (· ≠ []) }) ∧
    ((run bare).1 = ((remaining kept lines).zip (run kept).1).filterMap
        (fun row => withoutComment row.1 row.2) ∧
      List.Forall₂ (fun line output => ∀ text ∈ line, IsComment (innermost text) →
        output = framed (headers text) (innermost text)) (remaining kept lines) (run kept).1 ∧
      ∀ mode, session.options.streams = .mode mode → ∃ whole library,
        document kept = .ok whole ∧
        document bare = .ok { whole with lines := (run bare).1, streamLibrary := library } ∧
        (library = whole.streamLibrary ∨ library = none ∧ ∃ text, some text ∈ lines ∧
          IsComment (innermost text) ∧ "Stream".toList <:+: innermost text)) ∧
    ∀ options mode schema, options.streams = .mode mode → schema ≠ [] →
      lines = schemaLines schema → session.dialect = (Dialect.detect? schema).getD .proto3 →
      session.inNamespace = false →
      ∃ whole, document options = .ok whole ∧ generate options schema = .ok whole.text := by
  intro run document spare full kept bare
  have hLines : ∀ options, (run options).1 = typingLines options session.dialect lines :=
    fun options => takeLines_output _ lines
  have hNamed : ∀ options, (run options).2.inNamespace
      = (session.inNamespace || somePackage lines) := by
    intro options
    simp only [run, takeLines, renderLines_eq]
  refine ⟨fun one other => ⟨by rw [hNamed, hNamed], ?_⟩, ⟨?_, ?_, ?_⟩,
    ⟨?_, ?_, fun mode hMode => ?_⟩,
    fun options mode schema hMode hSchema hSources hDialect hFresh => ?_⟩
  · simp only [run, takeLines, renderLines_eq]
  -- empty lines
  · rw [hLines, hLines, typingLines_stripEmptyLines]
  · rw [hLines, typingLines_eq_map, List.forall₂_map_right_iff, List.forall₂_same]
    intro line hLine
    exact leftOf_eq_nil_iff session.options session.dialect (mem_remaining.1 hLine).2
  · simp only [document, hLines, hNamed, spare, typingLines_stripEmptyLines]
    exact assemble_stripEmptyLines session.options _ _
  -- comments
  · rw [hLines, hLines, typingLines_keepComments]
  · rw [hLines, typingLines_eq_map, List.forall₂_map_right_iff, List.forall₂_same]
    rintro _ - text rfl hComment
    exact leftOf_of_innermost_comment session.options session.dialect hComment true
  · simp only [document, hLines, hNamed]
    exact assemble_keepComments hMode session.dialect _ lines
  -- generation
  · subst hSources
    refine ⟨_, assemble_mode hMode _ _, ?_⟩
    have hResolve : options.streams.resolve = .ok mode := by rw [hMode]; rfl
    rw [generate_eq hResolve hSchema, hLines, hNamed, hFresh, hDialect, Bool.false_or, ← hMode]

/-- A comment in the body of a message asks for the import of `Stream` when it is kept; without it
the message stays, and its braces are empty. -/
theorem takeLines_deletions_of_comment_in_block :
    let schema : Text := "message A \x7b // Stream \x7d\n\n// note\nrequired\nint32 x = 1;".toList
    let session : Session := {}
    let kept : Options := { keepComments := true }
    (session.options.streams = .mode .native ∧ schema ≠ [] ∧
      session.dialect = (Dialect.detect? schema).getD .proto3 ∧ session.inNamespace = false) ∧
    (Session.takeLines { session with options := { stripEmptyLines := true } }
        (schemaLines schema)).1
      = ["export interface A \x7b\x7d", "x?: number"].map String.toList ∧
    generate {} schema = .ok "export interface A \x7b\x7d\nx?: number".toList ∧
    generate kept schema = .ok ("import Stream from 'stream'\n\n"
      ++ "export interface A \x7b// Stream\x7d\n// note\nx?: number").toList := by
  intro schema session kept
  have hDialect : session.dialect = (Dialect.detect? schema).getD .proto3 := by decide +kernel
  obtain ⟨-, ⟨hSpare, -, -⟩, -, hGenerate⟩ := takeLines_deletions session (schemaLines schema)
  obtain ⟨bareWhole, hBare, hBareText⟩ :=
    hGenerate {} .native schema rfl (by decide) rfl hDialect rfl
  obtain ⟨keptWhole, hKept, hKeptText⟩ :=
    hGenerate kept .native schema rfl (by decide) rfl hDialect rfl
  refine ⟨⟨rfl, by decide, hDialect, rfl⟩, hSpare.trans (by decide +kernel), ?_, ?_⟩
  · have hWhole : Document.mk false none (["export interface A \x7b\x7d", "x?: number"].map
        String.toList) false = bareWhole :=
      Except.ok.inj (Eq.trans (by decide +kernel) hBare)
    rw [hBareText, ← hWhole]
    decide +kernel
  · have hWhole : Document.mk false (some "stream".toList) (["export interface A \x7b// Stream\x7d",
        "// note", "x?: number"].map String.toList) false = keptWhole :=
      Except.ok.inj (Eq.trans (by decide +kernel) hKept)
    rw [hKeptText, ← hWhole]
    decide +kernel

end Session

end ProtoTypings
