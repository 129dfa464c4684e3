import ProtoTypings.Proofs.Command.Prefixes

/-!
# Documents in one directory

The documents of all schemas go to one directory, under the stems of their names, so schemas with
one stem share a file. A run takes no notice of that: it goes on to its end, counts every schema,
and leaves in the file what it has written last (`Console.run_directory_documents`). No document is
lost exactly if schemas of one stem have the same document.
-/

namespace ProtoTypings

lemma Text.inDirectory_inj {directory one other : Text} :
    inDirectory directory one = inDirectory directory other ↔ one = other := by
  rw [inDirectory, inDirectory]
  split
  · exact List.append_right_inj _
  · simp

namespace Console

variable {console : Console} {workspace : Workspace} {options : Options}
  {directory out schema : Text}

/-- Schemas share a file exactly if their stems are the same. -/
lemma documentPath_inj {one other : Text} :
    documentPath out one = documentPath out other
      ↔ (Path.ofText one).stem = (Path.ofText other).stem :=
  Text.inDirectory_inj.trans documentName_inj

/-! ## Runs that end well -/

/-- A command that stops over a schema does not end well. -/
lemma ne_exit_zero_of_generateAll {ending : Ending} {schemas : List Text}
    (h : (console.generateAll options out schemas).2 = some ending) : ending ≠ .exit 0 := by
  induction schemas generalizing console with
  | nil => simp [generateAll] at h
  | cons schema later ih =>
    rw [generateAll] at h
    split at h
    · exact ih h
    · next fault _ =>
      obtain rfl : _ = ending := Option.some.inj h
      cases fault <;> simp

/-- A run over a directory that ends well has gone through all schemas, of which there are some. -/
lemma run_of_exit_zero
    (hDirectory : workspace.disk.isDirectory workspace.workplace directory = true)
    (hExit : (Console.run { workspace } { schema := directory, out := some out, options }).2
      = .exit 0) :
    workspace.schemasBelow directory ≠ [] ∧
      Console.Succeeds { workspace } options out (workspace.schemasBelow directory) ∧
      (Console.run { workspace } { schema := directory, out := some out, options }).1
        = (Console.after { workspace } options out (workspace.schemasBelow directory)).print
            (doneLine out (workspace.schemasBelow directory).length) := by
  by_cases hSome : workspace.schemasBelow directory = []
  · simp only [run, hDirectory, if_true, hSome] at hExit
    simp at hExit
  rw [run_of_directory hDirectory hSome] at hExit ⊢
  refine ⟨hSome, ?_⟩
  generalize workspace.schemasBelow directory = schemas at *
  have hNone : (Console.generateAll { workspace } options out schemas).2 = none := by
    rw [generateListed] at hExit
    cases hAll : Console.generateAll { workspace } options out schemas with
    | mk last ending =>
      cases ending with
      | none => rfl
      | some ending =>
        rw [hAll] at hExit
        exact absurd hExit (ne_exit_zero_of_generateAll (congrArg Prod.snd hAll))
  have hSucceeds := succeeds_of_generateAll hNone
  exact ⟨hSucceeds, congrArg Prod.fst (generateListed_of_succeeds hSucceeds)⟩

/-! ## Files after a run -/

/-- A schema whose turn comes in a run that ends well has a document, and this is in its file
until another schema of the same stem is taken. -/
lemma read_after (hTree : workspace.disk.IsTree) (hFormat : options.formatOutput = false)
    {earlier later : List Text}
    (hSucceeds : Console.Succeeds { workspace } options out (earlier ++ schema :: later))
    (hSchema : schema ∈ workspace.schemasBelow directory) :
    ∃ document, workspace.translation options (.path (.ofText schema)) = .ok document ∧
      ((∀ other ∈ later, (Path.ofText other).stem ≠ (Path.ofText schema).stem) →
        (Console.after { workspace } options out (earlier ++ schema :: later)).workspace.disk.read
          workspace.workplace (.ofText (documentPath out schema))
            = .ok (Utf8.encode document)) := by
  have hStep := hSucceeds earlier schema ⟨later, by simp⟩
  have hContinues := continues_after workspace options out earlier
  obtain ⟨place, entry, hFinds⟩ := Workspace.mem_schemasBelow_iff.1 hSchema
  obtain ⟨-, report, hReport, hRead⟩ := generate_eq_ok hStep
  rw [Workspace.typings_eq (by simp [hFormat]), hFinds.translation_eq hTree hContinues,
    ← hFinds.translation_eq hTree (.refl _)] at hReport
  obtain ⟨document, hDocument, rfl⟩ : ∃ document,
      workspace.translation options (.path (.ofText schema)) = .ok document ∧
        { text := document } = report := by
    cases hDocument : workspace.translation options (.path (.ofText schema)) with
    | error fault => simp [hDocument, Except.map] at hReport
    | ok document =>
      rw [hDocument] at hReport
      refine ⟨document, rfl, ?_⟩
      simpa [Except.map, Workspace.finish, hFormat] using hReport
  refine ⟨document, hDocument, fun hLater => ?_⟩
  rw [hContinues.workplace_eq] at hRead
  rw [after_append, after_cons]
  obtain ⟨front, hParts⟩ := exists_pathParts_documentPath out schema
  refine (goesOn_after _ options out later).keeps.read hRead hParts ?_
  rintro place hPlace ⟨other, hOther, hSame⟩
  exact hLater other hOther (documentName_inj.1 (Option.some.inj (hSame.symm.trans hPlace)))

/-- Whether the file for a schema holds the document that the schema has in a workspace. -/
def HoldsDocument (console : Console) (workspace : Workspace) (options : Options)
    (out schema : Text) : Prop :=
  ∃ document, workspace.translation options (.path (.ofText schema)) = .ok document ∧
    console.workspace.disk.read workspace.workplace (.ofText (documentPath out schema))
      = .ok (Utf8.encode document)

/-- Among schemas with a property there is a last one. -/
lemma exists_last_of_mem {schemas : List Text} {P : Text → Prop} [DecidablePred P]
    (hMem : schema ∈ schemas) (hP : P schema) :
    ∃ earlier final later, schemas = earlier ++ final :: later ∧ P final ∧
      ∀ other ∈ later, ¬ P other := by
  have hSome : (schemas.reverse.find? fun other => decide (P other)).isSome := by
    rw [List.find?_isSome]
    exact ⟨schema, List.mem_reverse.2 hMem, by simpa using hP⟩
  obtain ⟨final, hFinal⟩ := Option.isSome_iff_exists.1 hSome
  obtain ⟨hPFinal, later, earlier, hReverse, hLater⟩ := List.find?_eq_some_iff_append.1 hFinal
  refine ⟨earlier.reverse, final, later.reverse, ?_, by simpa using hPFinal, fun other hOther => ?_⟩
  · rw [← List.reverse_reverse schemas, hReverse]
    simp
  · simpa using hLater other (List.mem_reverse.1 hOther)

/-- **What a run that ends well leaves in the files.**  Every schema below the directory has a
document then. Its file holds that document if no schema after it, in the order of their paths, has
the same stem; so no document is lost exactly if schemas of one stem have documents of the same
bytes, as they do if no two have one stem. The last line of output counts the schemas, and these are
as many as the files exactly if no two have one stem. -/
theorem run_directory_documents (hTree : workspace.disk.IsTree)
    (hDirectory : workspace.disk.isDirectory workspace.workplace directory = true)
    (hFormat : options.formatOutput = false)
    (hExit : (Console.run { workspace } { schema := directory, out := some out, options }).2
      = .exit 0) :
    let schemas := workspace.schemasBelow directory
    let last := (Console.run { workspace } { schema := directory, out := some out, options }).1
    let stem (schema : Text) : Text := (Path.ofText schema).stem
    (schemas.Nodup ∧
      ∀ schema, schema ∈ schemas ↔ ∃ place entry, workspace.Finds directory schema place entry) ∧
    (∀ earlier schema later, schemas = earlier ++ schema :: later →
      (∀ other ∈ later, stem other ≠ stem schema) →
        last.HoldsDocument workspace options out schema) ∧
    ((∀ schema ∈ schemas, last.HoldsDocument workspace options out schema) ↔
      ∀ one ∈ schemas, ∀ other ∈ schemas, stem one = stem other →
        (workspace.translation options (.path (.ofText one))).map Utf8.encode
          = (workspace.translation options (.path (.ofText other))).map Utf8.encode) ∧
    ((schemas.map stem).Nodup →
      ∀ schema ∈ schemas, last.HoldsDocument workspace options out schema) ∧
    last.output = schemas.map (generatedLine out) ++ [doneLine out schemas.length] ∧
    ((schemas.map (documentPath out)).toFinset.card = schemas.length ↔
      (schemas.map stem).Nodup) := by
  intro schemas last stem
  obtain ⟨-, hSucceeds, hLast⟩ := run_of_exit_zero hDirectory hExit
  have hFiles : ∀ earlier schema later, schemas = earlier ++ schema :: later →
      ∃ document, workspace.translation options (.path (.ofText schema)) = .ok document ∧
        ((∀ other ∈ later, stem other ≠ stem schema) →
          last.workspace.disk.read workspace.workplace (.ofText (documentPath out schema))
            = .ok (Utf8.encode document)) := by
    intro earlier schema later hSchemas
    have hSchema : schema ∈ schemas := by simp [hSchemas]
    rw [show last = _ from hLast]
    change Console.Succeeds { workspace } options out schemas at hSucceeds
    change ∃ document, _ ∧ (_ →
      (Console.after { workspace } options out schemas).workspace.disk.read _ _ = _)
    rw [hSchemas] at hSucceeds ⊢
    exact read_after hTree hFormat hSucceeds hSchema
  have hHolds : ∀ earlier schema later, schemas = earlier ++ schema :: later →
      (∀ other ∈ later, stem other ≠ stem schema) →
        last.HoldsDocument workspace options out schema := by
    intro earlier schema later hSchemas hLater
    obtain ⟨document, hDocument, hRead⟩ := hFiles earlier schema later hSchemas
    exact ⟨document, hDocument, hRead hLater⟩
  refine ⟨⟨Workspace.nodup_schemasBelow hTree _, fun schema => Workspace.mem_schemasBelow_iff⟩,
    hHolds, ⟨?_, ?_⟩, ?_, ?_, ?_⟩
  · -- schemas of one stem are read from the same file
    intro hAll one hOne other hOther hStem
    obtain ⟨document, hDocument, hRead⟩ := hAll one hOne
    obtain ⟨otherDocument, hOtherDocument, hOtherRead⟩ := hAll other hOther
    rw [documentPath_inj.2 hStem] at hRead
    have hSame := Except.ok.inj (hRead.symm.trans hOtherRead)
    rw [hDocument, hOtherDocument, Except.map, Except.map, hSame]
  · -- the file holds what the last schema of the stem gives
    intro hSame schema hSchema
    obtain ⟨before, after, hBoth⟩ := List.append_of_mem hSchema
    obtain ⟨document, hDocument, -⟩ := hFiles before schema after hBoth
    obtain ⟨earlier, final, later, hSchemas, hStem, hLater⟩ :=
      exists_last_of_mem (P := fun other => stem other = stem schema) hSchema rfl
    have hFinal : final ∈ schemas := by simp [hSchemas]
    obtain ⟨finalDocument, hFinalDocument, hRead⟩ :=
      hHolds earlier final later hSchemas fun other hOther => hStem ▸ hLater other hOther
    have hBytes := hSame final hFinal schema hSchema hStem
    rw [hFinalDocument, hDocument] at hBytes
    refine ⟨document, hDocument, ?_⟩
    rw [← documentPath_inj.2 hStem, hRead]
    simpa [Except.map] using hBytes
  · intro hStems schema hSchema
    obtain ⟨earlier, later, hSchemas⟩ := List.append_of_mem hSchema
    refine hHolds earlier schema later hSchemas fun other hOther hStem => ?_
    rw [hSchemas, List.map_append, List.map_cons] at hStems
    have hLater := (List.nodup_cons.1 hStems.of_append_right).1
    exact hLater (List.mem_map.2 ⟨other, hOther, hStem⟩)
  · rw [show last = _ from hLast, print, output_after]
    rfl
  · rw [← List.length_map (documentPath out)]
    have hCard := @Multiset.toFinset_card_eq_card_iff_nodup _ _
      (schemas.map (documentPath out) : Multiset Text)
    refine hCard.trans ?_
    rw [Multiset.coe_nodup, List.nodup_iff_pairwise_ne, List.nodup_iff_pairwise_ne,
      List.pairwise_map, List.pairwise_map]
    simp only [ne_eq, documentPath_inj, stem]

/-- Of two schemas with one stem the first loses its document, and the run counts two files. -/
theorem run_directory_documents_of_one_stem :
    let folder : Place := ["in".toList]
    let schema (name : String) : Text := "message ".toList ++ name.toList ++ " \x7b\n\x7d".toList
    let workspace : Workspace :=
      { disk := ⟨[(folder, .directory), (folder ++ ["n".toList], .directory),
          (folder ++ ["a.proto".toList], .file (Utf8.encode (schema "A"))),
          (folder ++ ["n".toList, "a.proto".toList], .file (Utf8.encode (schema "B")))]⟩
        workplace := [] }
    let options : Options := { formatOutput := false }
    let first := "in/a.proto".toList
    let second := "in/n/a.proto".toList
    let document := "export interface B \x7b\n\x7d".toList
    let last := (Console.run { workspace }
      { schema := "in".toList, out := some "out".toList, options }).1
    let ending := (Console.run { workspace }
      { schema := "in".toList, out := some "out".toList, options }).2
    (workspace.disk.IsTree ∧ workspace.disk.isDirectory workspace.workplace "in".toList = true ∧
      options.formatOutput = false ∧ ending = .exit 0) ∧
    workspace.schemasBelow "in".toList = [first, second] ∧
    last.workspace.disk.read [] (.ofText "out/a.ts".toList) = .ok (Utf8.encode document) ∧
    workspace.translation options (.path (.ofText second)) = .ok document ∧
    ¬ last.HoldsDocument workspace options "out".toList first ∧
    last.output.getLast? = some "Done! 2 file(s) written to out".toList := by
  intro folder schema workspace options first second document last ending
  have hTree : workspace.disk.IsTree := by decide +kernel
  have hSchemas : workspace.schemasBelow "in".toList = [first, second] :=
    @Workspace.schemasBelow_of_pairwise workspace "in".toList folder _ rfl rfl (by decide +kernel)
  have hExit : ending = .exit 0 := by
    simp only [ending]
    rw [run_of_directory rfl (hSchemas ▸ List.cons_ne_nil _ _), hSchemas]
    decide +kernel
  obtain ⟨-, hHolds, -, -, hOutput, -⟩ := run_directory_documents hTree rfl rfl hExit
  have hSecond : workspace.translation options (.path (.ofText second)) = .ok document := by
    decide +kernel
  have hRead : last.workspace.disk.read [] (.ofText "out/a.ts".toList)
      = .ok (Utf8.encode document) := by
    obtain ⟨other, hOther, hRead⟩ := hHolds [first] second [] hSchemas (by simp)
    obtain rfl := Except.ok.inj (hOther.symm.trans hSecond)
    exact hRead
  refine ⟨⟨hTree, rfl, rfl, hExit⟩, hSchemas, hRead, hSecond, ?_, ?_⟩
  · rintro ⟨other, hOther, hOtherRead⟩
    have hFirst : workspace.translation options (.path (.ofText first))
        = .ok "export interface A \x7b\n\x7d".toList := by
      decide +kernel
    obtain rfl := Except.ok.inj (hOther.symm.trans hFirst)
    have hSame := Except.ok.inj (hRead.symm.trans hOtherRead)
    revert hSame
    decide +kernel
  · rw [hOutput, hSchemas, List.getLast?_concat]
    decide +kernel

end Console

end ProtoTypings
