import ProtoTypings.Proofs.Characters
import ProtoTypings.Proofs.LineByLine
import ProtoTypings.Proofs.Lines

/-!
# What becomes of each line

A line of a schema leaves at most one line in the generated document, and that line is one line: it
holds no line feed. `LeavesNothing` says which lines leave none. The main statement,
`generate_accounts_for_lines`, puts this together for a whole schema and says what else the document
holds: the imports, the line feeds between the lines and the brace that closes the namespace.
-/

namespace ProtoTypings

/-! ## Lines that leave nothing -/

/-- Whether a line says nothing: it was removed, is blank or holds a label alone. -/
def SaysNothing (line : Option Text) : Prop :=
  ∀ text ∈ line, (∀ c ∈ text, Text.isBlank c = true) ∨ ∃ label : Label, text.words = [label.word]

/-- Whether the first word of a line is the mark of comments. -/
def IsComment (text : Text) : Prop :=
  text.words.head? = some "//".toList

instance : DecidablePred IsComment := fun text =>
  inferInstanceAs (Decidable (text.words.head? = some "//".toList))

/-- Whether nothing is left of a line: of one that says nothing when empty lines are stripped, and
of a comment unless comments are kept. -/
def LeavesNothing (options : Options) (line : Option Text) : Prop :=
  (options.stripEmptyLines = true ∧ SaysNothing line) ∨
    (options.keepComments = false ∧ ∃ text ∈ line, IsComment text)

namespace Statement

lemma member_eq_nothing_iff {label : Option Label} {words : List Text} :
    member label words = .nothing ↔ words = [] := by
  rcases words with _ | ⟨type, _ | ⟨second, later⟩⟩
  · simp [member]
  · simp [member]
  · rw [member]
    split <;> simp

lemma member_ne_comment {label : Option Label} {words : List Text} {line : Text} :
    member label words ≠ .comment line := by
  rcases words with _ | ⟨type, _ | ⟨second, later⟩⟩
  · simp [member]
  · simp [member]
  · rw [member]
    split <;> simp

/-- A line says nothing when it is blank or holds a label alone. -/
lemma ofWords_eq_nothing_iff {line : Text} {words : List Text} :
    ofWords line words = .nothing ↔ words = [] ∨ ∃ label : Label, words = [label.word] := by
  cases words with
  | nil => simp [ofWords]
  | cons word later =>
    cases hKeyword : Keyword.ofWord? word with
    | some announced =>
      -- a keyword always says something, and no label is one
      have hLabel : ∀ label : Label, word ≠ label.word := by
        rintro label rfl
        simp at hKeyword
      rw [ofWords_eq, LineKind.ofWords_of_keyword hKeyword]
      cases announced with
      | block block =>
        rcases hHead : blockHead later with ⟨name, _ | ⟨inner, more⟩⟩ <;> simp [hHead, hLabel]
      | method => cases Method.find? line <;> simp [hLabel]
      | _ => simp [hLabel]
    | none =>
      rw [ofWords_member hKeyword]
      cases hLabel : Label.ofWord? word with
      | some label =>
        obtain rfl := Label.ofWord?_eq_some_iff.1 hLabel
        simp only [member_eq_nothing_iff, List.cons.injEq]
        constructor
        · exact fun h => .inr ⟨label, rfl, h⟩
        · rintro (h | ⟨-, -, h⟩)
          · cases h
          · exact h
      | none =>
        have hWord : ∀ label : Label, word ≠ label.word := by
          rintro label rfl
          simp at hLabel
        simp [member_eq_nothing_iff, hWord]

/-- A line is a comment when its first word is the mark of comments. -/
lemma exists_ofWords_eq_comment_iff {line : Text} {words : List Text} :
    (∃ text, ofWords line words = .comment text) ↔ words.head? = some "//".toList := by
  cases words with
  | nil => simp [ofWords]
  | cons word later =>
    cases hKeyword : Keyword.ofWord? word with
    | some announced =>
      rw [ofWords_eq, LineKind.ofWords_of_keyword hKeyword]
      have hMark : (announced = .comment) ↔ word = "//".toList := by
        constructor
        · rintro rfl
          exact List.mem_singleton.1 (Keyword.ofWord?_eq_some_iff.1 hKeyword)
        · rintro rfl
          have hComment : Keyword.ofWord? "//".toList = some .comment := by decide
          exact Option.some.inj (hKeyword.symm.trans hComment)
      rw [List.head?_cons, Option.some.injEq, ← hMark]
      cases announced with
      | block block =>
        rcases hHead : blockHead later with ⟨name, _ | ⟨inner, more⟩⟩ <;> simp [hHead]
      | method => cases Method.find? line <;> simp
      | _ => simp
    | none =>
      -- a member is never a comment
      rw [ofWords_member hKeyword]
      have hMark : word ≠ "//".toList := by
        rintro rfl
        exact absurd hKeyword (by decide)
      rw [List.head?_cons, Option.some.injEq, iff_false_right hMark]
      rintro ⟨text, h⟩
      split at h <;> exact member_ne_comment h

lemma render_eq_none_iff {options : Options} {dialect : Dialect} {statement : Statement} :
    statement.render options dialect = none ↔
      (options.stripEmptyLines = true ∧ statement = .nothing) ∨
        (options.keepComments = false ∧ ∃ text, statement = .comment text) := by
  cases statement <;> simp [render]

end Statement

lemma saysNothing_iff {line : Option Text} :
    SaysNothing line ↔ Statement.ofLine line = .nothing := by
  cases line with
  | none => simp [SaysNothing, Statement.ofLine]
  | some text =>
    rw [Statement.ofLine, Statement.ofWords_eq_nothing_iff, Text.words_eq_nil_iff]
    simp [SaysNothing]

instance : DecidablePred SaysNothing := fun line =>
  decidable_of_iff (Statement.ofLine line = .nothing) saysNothing_iff.symm

lemma exists_isComment_iff {line : Option Text} :
    (∃ text ∈ line, IsComment text) ↔ ∃ text, Statement.ofLine line = .comment text := by
  cases line with
  | none => simp [Statement.ofLine]
  | some text =>
    rw [Statement.ofLine, Statement.exists_ofWords_eq_comment_iff]
    simp [IsComment]

/-- **Nothing is left of exactly the lines that `LeavesNothing` lists.** -/
lemma render_ofLine_eq_none_iff {options : Options} {dialect : Dialect} {line : Option Text} :
    (Statement.ofLine line).render options dialect = none ↔ LeavesNothing options line := by
  rw [Statement.render_eq_none_iff, LeavesNothing, saysNothing_iff, exists_isComment_iff]

/-- No line feed comes into a line by rendering it. -/
lemma newline_not_mem_render {options : Options} {dialect : Dialect} {line : Option Text}
    (hLine : ∀ text ∈ line, '\n' ∉ text) :
    ∀ text ∈ (Statement.ofLine line).render options dialect, '\n' ∉ text := by
  have hOver : (Statement.ofLine line).Over (· ≠ '\n') := by
    cases line with
    | none => trivial
    | some text =>
      have hText : ∀ c ∈ text, c ≠ '\n' := fun c hc h => hLine text rfl (h ▸ hc)
      exact Statement.over_ofWords (by decide) hText
        fun _ hw c hc => hText c (Text.mem_of_mem_words hw hc)
  intro text hText hc
  refine over_render (fun c h => ?_) (by decide) (by decide) options dialect hOver text hText _ hc
    rfl
  exact fun hc => h (hc ▸ List.mem_cons_self)

/-! ## Whole schemas -/

lemma Session.run_lines (session : Session) (lines : List (Option Text)) :
    (session.run (lines.map .line)).1
      = lines.map fun line => (Statement.ofLine line).render session.options session.dialect := by
  have hMoments : ∀ options dialect, moments options dialect (lines.map .line)
      = lines.map fun line => ⟨options, dialect, line⟩ := by
    intro options dialect
    induction lines with
    | nil => rfl
    | cons line later ih => simp [moments, ih]
  rw [run_output, hMoments, List.map_map]
  refine List.map_congr_left fun line _ => ?_
  exact Session.takeLine_output _ line

lemma mentionsStream_iff {lines : List Text} :
    mentionsStream lines = true ↔ ∃ line ∈ lines, "Stream".toList <:+: line := by
  simp [mentionsStream, Text.holds_iff]

/-- The text of the import of `Stream` for a mode, where the lines need it. -/
lemma streamImport_neededLibrary? (mode : StreamMode) (lines : List Text) :
    ((mode.neededLibrary? lines).map fun library => streamImport library ++ ['\n', '\n']).getD []
      = if mode ≠ .strip ∧ ∃ line ∈ lines, "Stream".toList <:+: line then
          streamImport (if mode = .generic then "ts-stream".toList else "stream".toList)
            ++ ['\n', '\n']
        else [] := by
  simp only [StreamMode.neededLibrary?, ← mentionsStream_iff]
  cases mode <;> cases mentionsStream lines <;> rfl

/-- **What becomes of each line.**  Let the stream mode be resolved and the schema not be empty. A
line leaves nothing exactly when `LeavesNothing` lists it, and any other leaves one line, without a
line feed in it and in its place. The document consists of the import of `Observable` if asked for,
that of `Stream` if a line holds the word and streams are not stripped, the lines as they are with
line feeds between them, and the closing brace of the namespace if a package was named. So if
comments and empty lines are kept, there are as many lines as the schema has. -/
theorem generate_accounts_for_lines {options : Options} {mode : StreamMode} {schema : Text}
    (hMode : options.streams.resolve = .ok mode) (hSchema : schema ≠ []) :
    let chosen := { options with streams := .mode mode }
    let dialect := (Dialect.detect? schema).getD .proto3
    let outputs := (Session.run { options := chosen, dialect } ((schemaLines schema).map .line)).1
    let lines := outputs.filterMap id
    List.Forall₂ (fun line output => (output = none ↔ LeavesNothing options line) ∧
      ∀ text ∈ output, '\n' ∉ text) (schemaLines schema) outputs ∧
    (producedLines chosen schema).1 = lines ∧
    generate options schema = .ok
      ((if options.useObservable then
            "import \x7b Observable \x7d from 'rxjs';".toList ++ ['\n']
          else [])
        ++ (if mode ≠ .strip ∧ ∃ line ∈ lines, "Stream".toList <:+: line then
              "import Stream from '".toList
                ++ (if mode = .generic then "ts-stream".toList else "stream".toList)
                ++ ['\x27'] ++ ['\n', '\n']
            else [])
        ++ ['\n'].intercalate lines
        ++ if SomeReachesPackage (schemaLines schema) then ['\n', '}'] else []) ∧
    (options.keepComments = true → options.stripEmptyLines = false →
      lines.length = schema.count '\n' + 1) := by
  intro chosen dialect outputs lines
  have hOutputs : outputs = (schemaLines schema).map fun line =>
      (Statement.ofLine line).render chosen dialect := Session.run_lines _ _
  have hLines : lines = typingLines chosen dialect (schemaLines schema) := by
    simp only [lines, hOutputs, List.filterMap_map, typingLines]
    rfl
  have hEach : ∀ line ∈ schemaLines schema,
      ((Statement.ofLine line).render chosen dialect = none ↔ LeavesNothing options line) ∧
        ∀ text ∈ (Statement.ofLine line).render chosen dialect, '\n' ∉ text := by
    refine fun line hLine => ⟨render_ofLine_eq_none_iff, newline_not_mem_render ?_⟩
    rintro text rfl
    exact newline_not_mem_of_mem_schemaLines hLine
  refine ⟨?_, ?_, ?_, fun hComments hEmpty => ?_⟩
  -- each line and its output, one by one
  · rw [hOutputs, List.forall₂_map_right_iff]
    exact List.forall₂_same.2 hEach
  · rw [hLines, producedLines, Session.renderLines_eq]
  · have hText := generate_eq hMode hSchema
    rw [← hLines] at hText
    simp only [Document.text, streamImport_neededLibrary?, Text.joinWith, somePackage_iff] at hText
    exact hText
  · -- with both switches set, no line is on the list
    have hAll : ∀ line ∈ schemaLines schema,
        ((Statement.ofLine line).render chosen dialect).isSome = true := by
      intro line hLine
      rw [Option.isSome_iff_ne_none, Ne, (hEach line hLine).1, LeavesNothing, hComments, hEmpty]
      simp
    rw [hLines, typingLines, ← length_schemaLines, List.filterMap_length_eq_length]
    exact hAll

/-- With both switches set, the declaration of the dialect, an empty line and a comment each keep
their line, and what looks like markup is left as it is. The method needs both imports. -/
theorem generate_accounts_for_lines_all_kept :
    let options : Options :=
      { keepComments := true, streams := .unchecked "generic".toList, stripEmptyLines := false,
        useObservable := true }
    let schema : Text := ("syntax = \"proto2\";\n\n// <b> & \x7b\x7b x \x7d\x7d\npackage a;\n"
      ++ "rpc A(stream B) returns (C);").toList
    let chosen : Options := { options with streams := .mode .generic }
    let lines := (Session.run { options := chosen, dialect := .proto2 }
      ((schemaLines schema).map .line)).1
    (options.streams.resolve = .ok .generic ∧ schema ≠ [] ∧ options.keepComments = true ∧
      options.stripEmptyLines = false) ∧
    (lines.filterMap id).length = 5 ∧
    generate options schema = .ok
      ("import \x7b Observable \x7d from 'rxjs';\nimport Stream from 'ts-stream'\n\n"
        ++ "\n\n// <b> & \x7b\x7b x \x7d\x7d\nexport namespace A \x7b\n"
        ++ "a (bStream: Stream<B>): Observable<C>\n\x7d").toList := by
  intro options schema chosen lines
  have hDialect : (Dialect.detect? schema).getD .proto3 = .proto2 := by decide +kernel
  obtain ⟨-, -, hText, hLength⟩ :=
    @generate_accounts_for_lines options .generic schema rfl (by decide)
  rw [hDialect] at hText hLength
  refine ⟨⟨rfl, by decide, rfl, rfl⟩, ?_, hText.trans ?_⟩
  · exact (hLength rfl rfl).trans (by decide +kernel)
  · decide +kernel

end ProtoTypings
