import ProtoTypings.Proofs.Accounting
import ProtoTypings.Proofs.Nesting

/-!
# Runs side by side

To see what a choice changes, the same lines are taken under every value of it. The runs leave the
same lines out, so what they produce can be written in rows: a row belongs to one line of the schema
and holds what each run makes of it. `SideBySide` says that all rows of several runs are related to
their lines in a given way.

The import of `Stream` is decided by a search for the word in the produced lines. The file goes on
to say when the search can be made piece by piece, and what is generated around the lines.
-/

namespace ProtoTypings

/-! ## Rows -/

instance (options : Options) : DecidablePred (LeavesNothing options) := fun line =>
  decidable_of_iff ((Statement.ofLine line).render options .proto3 = none)
    render_ofLine_eq_none_iff

/-- The lines of which something is left. -/
def remaining (options : Options) (lines : List (Option Text)) : List (Option Text) :=
  lines.filter fun line => ¬ LeavesNothing options line

lemma mem_remaining {options : Options} {lines : List (Option Text)} {line : Option Text} :
    line ∈ remaining options lines ↔ line ∈ lines ∧ ¬ LeavesNothing options line := by
  rw [remaining, List.mem_filter, decide_eq_true_iff]

/-- Whether what several runs produce stands in rows, one for each of the given lines, and every row
is related to its line. -/
def SideBySide {Run : Type} (Relates : Option Text → (Run → Text) → Prop)
    (sources : List (Option Text)) (produced : Run → List Text) : Prop :=
  ∃ rows : List (Run → Text),
    List.Forall₂ Relates sources rows ∧ ∀ run, produced run = rows.map (· run)

lemma SideBySide.length_eq {Run : Type} {Relates : Option Text → (Run → Text) → Prop}
    {sources : List (Option Text)} {produced : Run → List Text}
    (h : SideBySide Relates sources produced) (run : Run) :
    (produced run).length = sources.length := by
  obtain ⟨rows, hRows, hProduced⟩ := h
  rw [hProduced, List.length_map, hRows.length_eq]

/-- Runs whose rows agree have the same lines. -/
lemma SideBySide.eq_of_rows {Run : Type} {Relates : Option Text → (Run → Text) → Prop}
    {sources : List (Option Text)} {produced : Run → List Text}
    (h : SideBySide Relates sources produced) {one other : Run}
    (hRow : ∀ line row, Relates line row → row one = row other) :
    produced one = produced other := by
  obtain ⟨rows, hRows, hProduced⟩ := h
  rw [hProduced, hProduced]
  clear hProduced
  induction hRows with
  | nil => rfl
  | @cons line row lines rows hRelates _ ih =>
    rw [List.map_cons, List.map_cons, ih, hRow line row hRelates]

/-- What a line leaves, as a text; nothing is written as the empty text. -/
def leftOf (options : Options) (dialect : Dialect) (line : Option Text) : Text :=
  ((Statement.ofLine line).render options dialect).getD []

lemma typingLines_eq_map (options : Options) (dialect : Dialect) (lines : List (Option Text)) :
    typingLines options dialect lines = (remaining options lines).map (leftOf options dialect) := by
  induction lines with
  | nil => rfl
  | cons line later ih =>
    rw [typingLines] at ih ⊢
    rw [remaining] at ih ⊢
    cases h : (Statement.ofLine line).render options dialect with
    | none =>
      have hNothing := render_ofLine_eq_none_iff.1 h
      simp [h, hNothing, ih]
    | some output =>
      have hSomething : ¬ LeavesNothing options line := by
        rw [← @render_ofLine_eq_none_iff options dialect line, h]
        simp
      simp [h, hSomething, ih, leftOf]

lemma remaining_congr {options other : Options}
    (h : ∀ line, LeavesNothing options line ↔ LeavesNothing other line)
    (lines : List (Option Text)) : remaining options lines = remaining other lines := by
  refine List.filter_congr fun line _ => ?_
  simp only [h line]

/-- Runs that leave out the same lines stand side by side. -/
lemma sideBySide_typingLines {Run : Type} {Relates : Option Text → (Run → Text) → Prop}
    {base : Options} (options : Run → Options) (dialect : Run → Dialect)
    (hLeaves : ∀ run line, LeavesNothing (options run) line ↔ LeavesNothing base line)
    (hRow : ∀ line, Relates line fun run => leftOf (options run) (dialect run) line)
    (lines : List (Option Text)) :
    SideBySide Relates (remaining base lines)
      fun run => typingLines (options run) (dialect run) lines := by
  refine ⟨(remaining base lines).map fun line run => leftOf (options run) (dialect run) line,
    ?_, fun run => ?_⟩
  · rw [List.forall₂_map_right_iff, List.forall₂_same]
    exact fun line _ => hRow line
  · simp only [typingLines_eq_map, remaining_congr (hLeaves run), List.map_map]
    rfl

/-! ## What a line leaves -/

lemma leftOf_innermost (options : Options) (dialect : Dialect) (text : Text) :
    leftOf options dialect (some text)
      = framed (headers text) (leftOf options dialect (some (innermost text))) :=
  Statement.render_ofLine options dialect text

/-- What is left of a line depends on what is left of its innermost body. -/
lemma leftOf_congr {options other : Options} {one two : Dialect} {line : Option Text}
    (h : ∀ text ∈ line,
      leftOf options one (some (innermost text)) = leftOf other two (some (innermost text))) :
    leftOf options one line = leftOf other two line := by
  cases line with
  | none =>
    rw [leftOf, leftOf, Statement.ofLine, Statement.render, Statement.render]
    split <;> split <;> rfl
  | some text => rw [leftOf_innermost, leftOf_innermost other, h text rfl]

/-- Something is read in the innermost body of a line, or nothing is. -/
lemma reads_innermost_or {Found : Type} (read? : Text → Option Found) (line : Option Text) :
    (∃ text found, line = some text ∧ read? (innermost text) = some found) ∨
      ∀ text ∈ line, read? (innermost text) = none := by
  cases line with
  | none =>
    right
    simp
  | some text =>
    cases h : read? (innermost text) with
    | some found => exact .inl ⟨text, found, rfl, h⟩
    | none =>
      right
      rintro _ ⟨⟩
      exact h

lemma leftOf_of_declaredMethod? {text : Text} {method : Method}
    (h : declaredMethod? text = some method) (options : Options) (dialect : Dialect) :
    leftOf options dialect (some text) = method.signature options := by
  rw [leftOf, Statement.ofLine_eq_method_iff.2 h]
  rfl

/-- Something is left of a line if something is left of its innermost body. -/
lemma not_leavesNothing_of_innermost {options : Options} {text : Text} {output : Text}
    (h : (Statement.ofLine (some (innermost text))).render options .proto3 = some output) :
    ¬ LeavesNothing options (some text) := by
  rw [← @render_ofLine_eq_none_iff options .proto3]
  by_cases hHeaders : headers text = []
  · rw [innermost_of_headers_eq_nil hHeaders] at h
    rw [h]
    exact Option.some_ne_none _
  · rw [Statement.render_ofLine_of_headers options .proto3 hHeaders]
    exact Option.some_ne_none _

/-- Apart from what becomes of comments and of empty lines, the options matter only where a method
is declared. -/
lemma leftOf_eq_of_no_method {options other : Options}
    (hEmpty : options.stripEmptyLines = other.stripEmptyLines)
    (hComments : options.keepComments = other.keepComments) (dialect : Dialect)
    {line : Option Text} (h : ∀ text ∈ line, declaredMethod? (innermost text) = none) :
    leftOf options dialect line = leftOf other dialect line := by
  refine leftOf_congr fun text hText => ?_
  cases hInner : Statement.ofLine (some (innermost text)) with
  | oneLine => exact absurd hInner (Statement.ofLine_innermost_ne_oneLine _ _ _ _)
  | method found =>
    rw [Statement.ofLine_eq_method_iff, h text hText] at hInner
    simp at hInner
  | _ => simp only [leftOf, hInner, Statement.render, hEmpty, hComments]

/-! ## Searching piece by piece -/

section Pieces

variable {part : Text}

/-- A part without a given character cannot stand across it. -/
lemma isInfix_append_cons {before after : Text} {mark : Char} (hMark : mark ∉ part) :
    part <:+: before ++ mark :: after ↔ part <:+: before ∨ part <:+: after := by
  constructor
  · rintro ⟨lead, rest, h⟩
    rcases List.append_eq_append_iff.1 h with ⟨between, hBefore, -⟩ | ⟨between, hLead, hRest⟩
    · exact .inl ⟨lead, between, hBefore.symm⟩
    · cases between with
      | nil => exact .inl ⟨lead, [], by simpa using hLead⟩
      | cons c between =>
        obtain ⟨rfl, rfl⟩ := List.cons.inj hRest
        -- the mark stands in front of the part, since it is not inside
        rcases List.append_eq_append_iff.1 hLead with ⟨inside, -, hPart⟩ | ⟨front, -, hFront⟩
        · exact absurd (by simp [hPart]) hMark
        · cases front with
          | nil => exact absurd (by simp [← show _ = part from hFront]) hMark
          | cons c front =>
            obtain ⟨-, rfl⟩ := List.cons.inj hFront
            exact .inr ⟨front, rest, by simp⟩
  · rintro (h | h)
    · exact h.trans (List.prefix_append _ _).isInfix
    · exact h.trans ((List.suffix_cons _ _).trans (List.suffix_append _ _)).isInfix

lemma isInfix_framed (hOpen : '{' ∉ part) (hClose : '}' ∉ part) (hne : part ≠ [])
    (heads : List Header) (inside : Text) :
    part <:+: framed heads inside ↔ part <:+: framed heads [] ∨ part <:+: inside := by
  induction heads with
  | nil => simp [hne]
  | cons header heads ih =>
    obtain ⟨lead, hOpening⟩ := header.exists_opening
    have hPieces : ∀ text, part <:+: framed (header :: heads) text ↔
        part <:+: lead ∨ part <:+: framed heads text := by
      intro text
      have hText : framed (header :: heads) text = lead ++ '{' :: (framed heads text ++ ['}']) := by
        rw [framed_cons, hOpening]
        simp
      rw [hText, isInfix_append_cons hOpen, isInfix_append_cons hClose]
      simp [hne]
    rw [hPieces, hPieces, ih, or_assoc]

end Pieces

/-- The word `Stream` holds no brace, so it stands in the headers or in the innermost body. -/
lemma isInfix_stream_framed {heads : List Header} {inside : Text} :
    "Stream".toList <:+: framed heads inside ↔
      "Stream".toList <:+: framed heads [] ∨ "Stream".toList <:+: inside :=
  isInfix_framed (by decide) (by decide) (by decide) heads inside

lemma mentionsStream_typingLines_iff {options : Options} {dialect : Dialect}
    {lines : List (Option Text)} :
    mentionsStream (typingLines options dialect lines) = true ↔
      ∃ line ∈ remaining options lines, "Stream".toList <:+: leftOf options dialect line := by
  rw [mentionsStream_iff, typingLines_eq_map]
  simp only [List.mem_map, exists_exists_and_eq_and]

/-- Runs whose rows agree in holding the word `Stream` agree in needing its import. -/
lemma SideBySide.mentionsStream_eq {Run : Type} {Relates : Option Text → (Run → Text) → Prop}
    {sources : List (Option Text)} {produced : Run → List Text}
    (h : SideBySide Relates sources produced) {one other : Run}
    (hRow : ∀ line row, Relates line row →
      ("Stream".toList <:+: row one ↔ "Stream".toList <:+: row other)) :
    mentionsStream (produced one) = mentionsStream (produced other) := by
  obtain ⟨rows, hRows, hProduced⟩ := h
  rw [Bool.eq_iff_iff, mentionsStream_iff, mentionsStream_iff, hProduced, hProduced]
  clear hProduced
  induction hRows with
  | nil => simp
  | @cons line row lines rows hRelates _ ih =>
    simp only [List.map_cons, List.mem_cons, exists_eq_or_imp, ih, hRow line row hRelates]

/-! ## Generation -/

lemma generate_of_resolve_error {options : Options} {fault : ConfigurationFault}
    (h : options.streams.resolve = .error fault) (schema : Text) :
    generate options schema = .error fault := by
  rw [generate, h]
  rfl

lemma generate_nil {options : Options} {mode : StreamMode}
    (h : options.streams.resolve = .ok mode) : generate options [] = .error .noSchema := by
  rw [generate, h]
  rfl

/-- Whether a schema is refused depends on the stream setting and on the schema alone. -/
lemma generate_eq_error {options other : Options} {schema : Text} {fault : ConfigurationFault}
    (hStreams : options.streams = other.streams) (h : generate options schema = .error fault) :
    generate other schema = .error fault := by
  cases hResolve : options.streams.resolve with
  | error refused =>
    rw [generate_of_resolve_error hResolve] at h
    rw [generate_of_resolve_error (hStreams ▸ hResolve), h]
  | ok mode =>
    by_cases hSchema : schema = []
    · subst hSchema
      rw [generate_nil hResolve] at h
      rw [generate_nil (hStreams ▸ hResolve), h]
    · rw [generate_eq hResolve hSchema] at h
      simp at h

/-- The lines that a schema produces are those of its dialect. -/
lemma producedLines_eq (options : Options) (schema : Text) :
    (producedLines options schema).1
      = typingLines options ((Dialect.detect? schema).getD .proto3) (schemaLines schema) := by
  rw [producedLines, Session.renderLines_eq]

lemma assemble_mode {options : Options} {mode : StreamMode} (h : options.streams = .mode mode)
    (named : Bool) (lines : List Text) :
    Document.assemble options named lines
      = .ok ⟨options.useObservable, mode.neededLibrary? lines, lines, named⟩ := by
  rw [Document.assemble, h]

/-- The text that is generated, with the import of `Stream` where the produced lines need it. -/
lemma generate_eq_text {options : Options} {mode : StreamMode} {schema : Text}
    (hMode : options.streams.resolve = .ok mode) (hSchema : schema ≠ []) :
    let lines := (producedLines { options with streams := .mode mode } schema).1
    generate options schema = .ok
      ((if options.useObservable then observableImport ++ ['\n'] else [])
        ++ (if mentionsStream lines = true ∧ mode ≠ .strip then
              streamImport (if mode = .generic then "ts-stream".toList else "stream".toList)
                ++ ['\n', '\n']
            else [])
        ++ ['\n'].intercalate lines
        ++ if SomeReachesPackage (schemaLines schema) then ['\n', '}'] else []) := by
  intro lines
  rw [generate_eq hMode hSchema, ← producedLines_eq]
  dsimp only
  rw [Document.text, streamImport_neededLibrary?, Text.joinWith]
  simp only [lines, ← mentionsStream_iff, ← somePackage_iff, @and_comm (mode ≠ .strip)]

end ProtoTypings
