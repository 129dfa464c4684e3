import ProtoTypings.Proofs.Braces.Lines

/-!
# Braces of a schema and of its document

Where a block is opened and closed in the generated document is decided line by line. Adding up the
lines shows how deep the document ends, and that it is balanced if no line has an excess and the
code of the schema is balanced.

The main statement is `generate_depth`.
-/

namespace ProtoTypings

open Text

namespace CodeLine

/-! ## Many lines -/

/-- The number of lines that come to name a package. -/
def packages (lines : List CodeLine) : ℕ :=
  lines.countP fun line => ReachesPackage line.text.words

lemma depth_rendered (options : Options) (dialect : Dialect) (lines : List CodeLine) :
    depth (lines.flatMap (rendered options dialect))
      = depth (lines.flatMap fun line => line.code.text) + packages lines
        + (lines.map excess).sum := by
  induction lines with
  | nil => rfl
  | cons line later ih =>
    have hLine : depth (line.rendered options dialect) = line.rise :=
      (raises_rendered options dialect line).depth_eq
    simp only [List.flatMap_cons, depth_append, hLine, ih, rise, packages, List.countP_cons,
      List.map_cons, List.sum_cons, decide_eq_true_eq]
    split <;> push_cast <;> omega

/-- Without excess the lines rendered stay above the ground as long as the code does. The namespaces
opened on the way only lift them further. -/
lemma staysAbove_rendered (options : Options) (dialect : Dialect) {lines : List CodeLine}
    (hExcess : ∀ line ∈ lines, line.excess = 0) {start lift : ℤ} (hLift : 0 ≤ lift)
    (h : StaysAbove start (lines.flatMap fun line => line.code.text)) :
    StaysAbove (start + lift) (lines.flatMap (rendered options dialect)) := by
  induction lines generalizing start lift with
  | nil =>
    show 0 ≤ start + lift
    exact Int.add_nonneg h hLift
  | cons line later ih =>
    rw [List.flatMap_cons, staysAbove_append] at h ⊢
    obtain ⟨hLine, hLater⟩ := h
    have hRaises := raises_rendered options dialect line
    have hRise : line.rise
        = depth line.code.text + if ReachesPackage line.text.words then 1 else 0 := by
      rw [rise, hExcess line List.mem_cons_self, add_zero]
    have hEnd := hLine.end_nonneg
    have hPackage : (0 : ℤ) ≤ if ReachesPackage line.text.words then 1 else 0 := by
      split <;> decide
    refine ⟨hRaises.staysAbove _ (Int.add_nonneg hLine.start_nonneg hLift) (by omega), ?_⟩
    -- a namespace opened by this line adds to the lift of the later ones
    have hRest := ih (fun other hOther => hExcess other (List.mem_cons_of_mem _ hOther))
      (Int.add_nonneg hLift hPackage) hLater
    rw [hRaises.depth_eq, hRise]
    convert hRest using 1
    omega

end CodeLine

/-! ## The document -/

/-- Line feeds leave the depth as it is. -/
lemma depth_joinWith (texts : List Text) :
    depth (joinWith ['\n'] texts) = depth texts.flatten := by
  induction texts with
  | nil => rfl
  | cons first later ih =>
    cases later with
    | nil => simp
    | cons next later =>
      have hFeed : depth ['\n'] = 0 := rfl
      rw [joinWith_cons_cons, depth_append, depth_append, hFeed, ih, zero_add, ← depth_append]
      rfl

lemma staysAbove_joinWith {start : ℤ} {texts : List Text} (h : StaysAbove start texts.flatten) :
    StaysAbove start (joinWith ['\n'] texts) := by
  induction texts generalizing start with
  | nil => exact h
  | cons first later ih =>
    cases later with
    | nil => simpa using h
    | cons next later =>
      rw [List.flatten_cons, staysAbove_append] at h
      rw [joinWith_cons_cons, staysAbove_append]
      refine ⟨h.1, h.1.end_nonneg, ?_⟩
      rw [weight_eq_zero (by decide), add_zero]
      exact ih h.2

lemma typingLines_flatten (options : Options) (dialect : Dialect) (lines : List CodeLine) :
    (typingLines options dialect (lines.map fun line => declaring? line.text)).flatten
      = lines.flatMap (CodeLine.rendered options dialect) := by
  induction lines with
  | nil => rfl
  | cons line later ih =>
    rw [List.flatMap_cons, ← ih, CodeLine.rendered, List.map_cons, typingLines, List.filterMap_cons]
    cases (Statement.ofLine (declaring? line.text)).render options dialect <;>
      simp [typingLines]

/-- A line that is taken out does not name the package. -/
lemma someReachesPackage_iff_packages {lines : List CodeLine} :
    SomeReachesPackage (lines.map fun line => declaring? line.text)
      ↔ 0 < CodeLine.packages lines := by
  rw [CodeLine.packages, List.countP_pos_iff]
  constructor
  · rintro ⟨text, hText, h⟩
    obtain ⟨line, hLine, hSome⟩ := List.mem_map.1 hText
    rw [declaring?] at hSome
    split at hSome
    · simp at hSome
    · obtain rfl := Option.some.inj hSome
      exact ⟨line, hLine, decide_eq_true h⟩
  · rintro ⟨line, hLine, h⟩
    refine ⟨line.text, List.mem_map.2 ⟨line, hLine, ?_⟩, of_decide_eq_true h⟩
    rw [declaring?, if_neg]
    intro hNothing
    obtain ⟨first, later, hFirst, hKeyword⟩ := keyword_of_declaresNothing hNothing
    have hReaches := of_decide_eq_true h
    rw [hFirst] at hReaches
    exact not_reachesPackage_cons (not_mem_blockKeywords hKeyword) (ne_package hKeyword) hReaches

/-- What stands in front of the lines of a document leaves the depth as it is. -/
lemma raises_imports (options : Options) (mode : StreamMode) (lines : List Text) :
    Raises 0 ((if options.useObservable then observableImport ++ ['\n'] else [])
      ++ ((mode.neededLibrary? lines).map fun library =>
          streamImport library ++ ['\n', '\n']).getD []) := by
  have hObservable :
      Raises 0 (if options.useObservable then observableImport ++ ['\n'] else []) := by
    split
    · have hOpen : Raises (0 + 1) "import \x7b".toList :=
        raises_open.after_braceFree (a := "import ".toList) (by decide)
      have hInside : BraceFree " Observable ".toList := by decide
      exact (hOpen.enclosed hInside.raises (by omega)).before_braceFree
        (b := " from 'rxjs';\n".toList) (by decide)
    · exact raises_nil
  have hStream : BraceFree (((mode.neededLibrary? lines).map fun library =>
      streamImport library ++ ['\n', '\n']).getD []) := by
    rw [StreamMode.neededLibrary?]
    split
    · cases mode <;> decide
    · decide
  exact hObservable.before_braceFree hStream

section Document

variable (options : Options) (mode : StreamMode) (texts : List Text) (inNamespace : Bool)

lemma depth_document :
    depth (Document.text ⟨options.useObservable, mode.neededLibrary? texts, texts, inNamespace⟩)
      = depth texts.flatten - if inNamespace then 1 else 0 := by
  have hClosing :
      depth (if inNamespace then ['\n', '}'] else []) = -if inNamespace then 1 else 0 := by
    cases inNamespace <;> rfl
  simp only [Document.text]
  rw [depth_append, depth_append, (raises_imports options mode texts).depth_eq, depth_joinWith,
    zero_add, hClosing, Int.sub_eq_add_neg]

variable {texts inNamespace} in
lemma staysAbove_document (h : StaysAbove 0 texts.flatten)
    (hEnd : inNamespace = true → 0 < depth texts.flatten) :
    StaysAbove 0
      (Document.text ⟨options.useObservable, mode.neededLibrary? texts, texts, inNamespace⟩) := by
  have hImports := raises_imports options mode texts
  simp only [Document.text]
  rw [staysAbove_append, staysAbove_append, depth_append _ (joinWith _ _), hImports.depth_eq,
    depth_joinWith]
  refine ⟨⟨hImports.staysAbove 0 (by omega) (by omega), staysAbove_joinWith h⟩, ?_⟩
  have hNonneg := h.end_nonneg
  cases inNamespace with
  | false =>
    show 0 ≤ 0 + (0 + depth texts.flatten)
    omega
  | true =>
    have hPositive := hEnd rfl
    simp only [if_true, StaysAbove, weight]
    refine ⟨by omega, by simp; omega, by simp; omega⟩

end Document

/-- **The braces of a document are those of its schema, but for the excess of its lines.**  Every
line is rendered to one that opens as many braces more than it closes as the code of the line does,
the brace of a namespace apart, plus the excess of the line. So let the lines of a schema be spelled
as above. The document has the depth of the code plus the excess of the lines, and one more for each
package after the first, whose namespace is not closed. If no line has an excess and at most one
names a package, the document is balanced whenever the code is. -/
theorem generate_depth {options : Options} {mode : StreamMode} {schema : Text}
    {lines : List CodeLine} (hMode : options.streams.resolve = .ok mode) (hSchema : schema ≠ [])
    (hLines : schema.lines = lines.map CodeLine.text) :
    (∀ (session : Session) (line : CodeLine),
      depth ((session.takeLine (declaring? line.text)).1.getD [])
        = depth line.code.text + (if ReachesPackage line.text.words then 1 else 0)
          + line.excess) ∧
    ∃ document, generate options schema = .ok document ∧
      depth document = depth (lines.flatMap fun line => line.code.text)
        + (lines.map CodeLine.excess).sum + (CodeLine.packages lines - 1 : ℕ) ∧
      ((∀ line ∈ lines, line.excess = 0) → CodeLine.packages lines ≤ 1 →
        Balanced (lines.flatMap fun line => line.code.text) → Balanced document) := by
  refine ⟨fun session line => ?_, ?_⟩
  · rw [Session.takeLine_output]
    exact (CodeLine.raises_rendered session.options session.dialect line).depth_eq
  · have hSchemaLines : schemaLines schema = lines.map fun line => declaring? line.text := by
      rw [schemaLines, hLines, List.map_map]
      rfl
    have hPackage : somePackage (schemaLines schema) = true ↔ 0 < CodeLine.packages lines := by
      rw [somePackage_iff, hSchemaLines, someReachesPackage_iff_packages]
    have hCount : (CodeLine.packages lines : ℤ)
        = (CodeLine.packages lines - 1 : ℕ)
          + if somePackage (schemaLines schema) then 1 else 0 := by
      split
      · next h =>
        have hSome := hPackage.1 h
        omega
      · next h =>
        have hNone := mt hPackage.2 h
        omega
    let chosen := { options with streams := .mode mode }
    let dialect := (Dialect.detect? schema).getD .proto3
    have hRendered : (typingLines chosen dialect (schemaLines schema)).flatten
        = lines.flatMap (CodeLine.rendered chosen dialect) := by
      rw [hSchemaLines, typingLines_flatten]
    have hDepth := CodeLine.depth_rendered chosen dialect lines
    rw [← hRendered, hCount] at hDepth
    have hDocument := depth_document options mode (typingLines chosen dialect (schemaLines schema))
      (somePackage (schemaLines schema))
    refine ⟨_, generate_eq hMode hSchema, hDocument.trans (by omega),
      fun hExcess hPackages hBalanced => ?_⟩
    have hNone : (lines.map CodeLine.excess).sum = 0 := by
      refine List.sum_eq_zero fun excess hMem => ?_
      obtain ⟨line, hLine, rfl⟩ := List.mem_map.1 hMem
      exact hExcess line hLine
    have hLift := CodeLine.staysAbove_rendered chosen dialect hExcess (Int.le_refl 0)
      hBalanced.staysAbove
    rw [← hRendered, add_zero] at hLift
    have hSettled := hBalanced.settled
    -- the brace at the end of the document closes the one namespace that was opened
    refine ⟨staysAbove_document options mode hLift fun hSome => ?_, hDocument.trans (by omega)⟩
    rw [hDepth, if_pos hSome]
    omega

/-- A package, a block with the brace glued to its name and a comment inside it are rendered without
excess, so the document is balanced; an empty body `{}` leaves its block open. -/
theorem generate_depth_balanced_block :
    let noBlanks : Blanks := ⟨[], by decide⟩
    let oneBlank : Blanks := ⟨[' '], by decide⟩
    let start (spacing : Blanks) : BlockStart :=
      ⟨noBlanks, "message".toList, by decide, oneBlank, by decide, "B".toList, by decide, by decide,
        spacing⟩
    let lines : List CodeLine :=
      [⟨.plain ⟨"package a;".toList, by decide⟩, by decide, [], .inl rfl, by decide⟩,
        ⟨.opener (start noBlanks) noBlanks, by decide, [], .inl rfl, by decide⟩,
        ⟨.plain ⟨" int32 x = 1; ".toList, by decide⟩, by decide, "// b".toList, by decide,
          by decide⟩,
        ⟨.close noBlanks oneBlank, by decide, "// c".toList, by decide, by decide⟩]
    let empty : CodeLine :=
      ⟨.emptyBlock (start oneBlank) noBlanks noBlanks, by decide, [], .inl rfl, by decide⟩
    let schema : Text := "package a;\nmessage B\x7b\n int32 x = 1; // b\n\x7d // c".toList
    (({} : Options).streams.resolve = .ok .native ∧ schema ≠ [] ∧
      schema.lines = lines.map CodeLine.text ∧ CodeLine.packages lines ≤ 1 ∧
      (∀ line ∈ lines, line.excess = 0) ∧
      Balanced (lines.flatMap fun line => line.code.text)) ∧
    (∃ document, generate {} schema = .ok document ∧ Balanced document) ∧
    ∃ document, generate {} empty.text = .ok document ∧ depth document = 1 := by
  intro noBlanks oneBlank start lines empty schema
  have hLines : schema.lines = lines.map CodeLine.text := by decide +kernel
  have hPackages : CodeLine.packages lines ≤ 1 := by decide +kernel
  have hExcess : ∀ line ∈ lines, line.excess = 0 := by decide +kernel
  have hBalanced : Balanced (lines.flatMap fun line => line.code.text) :=
    ⟨by decide +kernel, by decide +kernel⟩
  obtain ⟨-, document, hDocument, -, h⟩ :=
    @generate_depth {} .native schema lines rfl (by decide) hLines
  obtain ⟨-, other, hOther, hDepth, -⟩ :=
    @generate_depth {} .native empty.text [empty] rfl (by decide) (by decide +kernel)
  refine ⟨⟨rfl, by decide, hLines, hPackages, hExcess, hBalanced⟩,
    ⟨document, hDocument, h hExcess hPackages hBalanced⟩, other, hOther,
    hDepth.trans (by decide +kernel)⟩

example : generate {} "message B \x7b\x7d".toList = .ok "export interface B \x7b".toList := by
  decide +kernel

end ProtoTypings
