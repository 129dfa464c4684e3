import ProtoTypings.Proofs.Command.Steps

/-!
# Runs over a directory

A run over a directory takes the schemas below it in the order of their paths. Whether a schema can
be translated is settled by the disk at the start of the run, even where documents are written among
the schemas. The first schema that cannot be translated ends the run, and what is there then is what
the steps for the schemas before it have left (`Console.run_directory`).
-/

namespace ProtoTypings

/-- Whether a workspace has a document for a schema, by its path. -/
def Workspace.Translates (workspace : Workspace) (options : Options) (schema : Text) : Prop :=
  ∃ document, workspace.translation options (.path (.ofText schema)) = .ok document

namespace Console

variable {console : Console} {workspace : Workspace} {options : Options}
  {directory out schema : Text}

/-- Over a directory with schemas the command goes through them. -/
lemma run_of_directory
    (hDirectory : workspace.disk.isDirectory workspace.workplace directory = true)
    (hSome : workspace.schemasBelow directory ≠ []) (options : Options) (out : Text) :
    Console.run { workspace } { schema := directory, out := some out, options }
      = Console.generateListed { workspace } options out (workspace.schemasBelow directory) := by
  simp only [run, hDirectory, if_true]
  rfl

/-- Schemas that can be translated at the start give files, each when its turn comes, if the disk
lets these be written. -/
lemma succeeds_of_translates {schemas : List Text} (hTree : workspace.disk.IsTree)
    (hSearch : options.formatOutput = true → workspace.IsSearchable)
    (hFound : ∀ schema ∈ schemas, schema ∈ workspace.schemasBelow directory)
    (hTranslates : ∀ schema ∈ schemas, workspace.Translates options schema)
    (hWrites : ∀ earlier schema, earlier ++ [schema] <+: schemas →
      (Console.after { workspace } options out earlier).CanWrite out schema) :
    Console.Succeeds { workspace } options out schemas := by
  intro earlier schema hPrefix
  have hMem : schema ∈ schemas := hPrefix.subset (by simp)
  have hContinues := continues_after workspace options out earlier
  obtain ⟨place, entry, hFinds⟩ := Workspace.mem_schemasBelow_iff.1 (hFound schema hMem)
  obtain ⟨document, hDocument⟩ := hTranslates schema hMem
  rw [hFinds.translation_eq hTree (.refl _), ← hFinds.translation_eq hTree hContinues] at hDocument
  exact generate_of_document (fun hFormat => hContinues.isSearchable (hSearch hFormat)) hDocument
    (hWrites earlier schema hPrefix)

/-- **A run over a directory leaves the work of a prefix.**  The schemas are the entries below the
directory with the extension of a schema, once each and in the order of their paths. One of them
cannot be translated exactly if the options are refused, or its path is too long, or it is a
directory, an empty file or one that cannot be decoded.

The run ends at the first schema that cannot be translated, with exit code 1 and a single message
that names it, after one line of output for each schema before it; and on the disk there is what the
steps for these have left, which is nothing new where there are none. If all can be translated, the
run ends with exit code 0 once the steps for all of them have been taken.

The disk is assumed to let each document be written when its turn comes, and the working directory
to be searchable where formatting is asked for. -/
theorem run_directory (hTree : workspace.disk.IsTree)
    (hDirectory : workspace.disk.isDirectory workspace.workplace directory = true)
    (hSome : workspace.schemasBelow directory ≠ [])
    (hSearch : options.formatOutput = true → workspace.IsSearchable)
    (hWrites : ∀ earlier schema, earlier ++ [schema] <+: workspace.schemasBelow directory →
      (∀ other ∈ earlier ++ [schema], workspace.Translates options other) →
        (Console.after { workspace } options out earlier).CanWrite out schema) :
    let schemas := workspace.schemasBelow directory
    let start : Console := { workspace }
    let last := (start.run { schema := directory, out := some out, options }).1
    let ending := (start.run { schema := directory, out := some out, options }).2
    (schemas.Pairwise (fun one other => one.notAfter other = true) ∧ schemas.Nodup ∧
      ∀ schema, schema ∈ schemas ↔ ∃ place entry, workspace.Finds directory schema place entry) ∧
    (∀ schema place entry, workspace.Finds directory schema place entry →
      (¬ workspace.Translates options schema ↔
        (∃ fault, options.resolve = .error fault) ∨ entry.IsUnreadable schema)) ∧
    (∀ earlier schema later, schemas = earlier ++ schema :: later →
      (∀ other ∈ earlier, workspace.Translates options other) →
      ¬ workspace.Translates options schema →
        ∃ warnings fault, ending = .exit 1 ∧
          workspace.translation options (.path (.ofText schema)) = .error fault ∧
          last.output = earlier.map (generatedLine out) ∧
          last.messages = warnings ++ [fatalLine schema fault] ∧
          (∀ warning ∈ warnings, ∃ fault : FormatterFault, warning = fault.warning) ∧
          last.workspace.disk = (start.after options out earlier).workspace.disk ∧
          (earlier = [] → last.workspace.disk = workspace.disk)) ∧
    ((∀ schema ∈ schemas, workspace.Translates options schema) →
      ending = .exit 0 ∧
        last.output = schemas.map (generatedLine out) ++ [doneLine out schemas.length] ∧
        (∀ warning ∈ last.messages, ∃ fault : FormatterFault, warning = fault.warning) ∧
        last.workspace.disk = (start.after options out schemas).workspace.disk) := by
  intro schemas start last ending
  have hRun : start.run { schema := directory, out := some out, options }
      = start.generateListed options out schemas := run_of_directory hDirectory hSome options out
  have hWarnings : ∀ taken, ∀ warning ∈ (start.after options out taken).messages,
      ∃ fault : FormatterFault, warning = fault.warning := by
    intro taken
    obtain ⟨warnings, hMessages, hWarnings⟩ := (goesOn_after start options out taken).messages
    rw [hMessages]
    exact hWarnings
  have hSucceeds : ∀ taken, taken <+: schemas →
      (∀ schema ∈ taken, workspace.Translates options schema) →
      start.Succeeds options out taken := by
    intro taken hTaken hTranslates
    apply succeeds_of_translates hTree hSearch (fun schema hMem => hTaken.subset hMem) hTranslates
    intro earlier schema hPrefix
    exact hWrites earlier schema (hPrefix.trans hTaken)
      fun other hOther => hTranslates other (hPrefix.subset hOther)
  refine ⟨⟨Workspace.pairwise_schemasBelow _ _, Workspace.nodup_schemasBelow hTree _,
    fun schema => Workspace.mem_schemasBelow_iff⟩, ?_, ?_, ?_⟩
  · intro schema place entry hFinds
    rw [Workspace.Translates, hFinds.translation_eq hTree (.refl _)]
    obtain ⟨hWhy, fault, hFault, -⟩ | ⟨hWhy, document, hDocument⟩ :=
      Entry.translation_cases options schema entry
    · simp [hFault, hWhy]
    · simp [hDocument, hWhy]
  · intro earlier schema later hSchemas hEarlier hSchema
    have hMem : schema ∈ schemas := by simp [hSchemas]
    obtain ⟨place, entry, hFinds⟩ := Workspace.mem_schemasBelow_iff.1 hMem
    have hStart := hFinds.translation_eq hTree (.refl _) options
    obtain ⟨-, fault, hFault, hExpected⟩ | ⟨-, document, hDocument⟩ :=
      Entry.translation_cases options schema entry
    · -- the steps before may have written below the directory, but to no schema
      have hContinues := continues_after workspace options out earlier
      have hStep : (start.after options out earlier).generate options out schema
          = (start.after options out earlier, .error fault) :=
        generate_of_fault (fun hFormat => hContinues.isSearchable (hSearch hFormat))
          ((hFinds.translation_eq hTree hContinues options).trans hFault) out
      have hStopped := generateListed_of_fault (hSucceeds earlier ⟨_, hSchemas.symm⟩ hEarlier) hStep
        hExpected later
      rw [← hSchemas, ← hRun] at hStopped
      rw [show last = _ from congrArg Prod.fst hStopped]
      refine ⟨(start.after options out earlier).messages, fault, congrArg Prod.snd hStopped,
        hStart.trans hFault, output_after start options out earlier, rfl, hWarnings earlier, rfl,
        ?_⟩
      rintro rfl
      rfl
    · exact absurd ⟨document, hStart.trans hDocument⟩ hSchema
  · intro hAll
    have hDone := generateListed_of_succeeds (hSucceeds schemas List.prefix_rfl hAll)
    rw [← hRun] at hDone
    rw [show last = _ from congrArg Prod.fst hDone]
    refine ⟨congrArg Prod.snd hDone, ?_, hWarnings schemas, rfl⟩
    rw [print, output_after]
    rfl

/-- A run that comes upon a directory with the extension of a schema, after one schema and before
another, and writes into a new directory among them. -/
theorem run_directory_to_second_schema :
    let folder : Place := ["in".toList]
    let schema (name : String) : Text := "message ".toList ++ name.toList ++ " \x7b\n\x7d".toList
    let workspace : Workspace :=
      { disk := ⟨[(folder, .directory),
          (folder ++ ["a.proto".toList], .file (Utf8.encode (schema "A"))),
          (folder ++ ["b.proto".toList], .directory),
          (folder ++ ["b.proto".toList, "c.proto".toList], .file (Utf8.encode (schema "C"))),
          ([".prettierrc".toList], .file [])]⟩
        workplace := []
        formatter := .fails "no".toList }
    let first := "in/a.proto".toList
    let second := "in/b.proto".toList
    let arguments : Arguments := { schema := "in".toList, out := some "in/ts".toList }
    let last := (Console.run { workspace } arguments).1
    let ending := (Console.run { workspace } arguments).2
    (workspace.disk.IsTree ∧ workspace.disk.isDirectory workspace.workplace "in".toList = true ∧
      workspace.schemasBelow "in".toList = [first, second, "in/b.proto/c.proto".toList] ∧
      workspace.IsSearchable ∧ Console.CanWrite { workspace } "in/ts".toList first ∧
      workspace.Translates {} first ∧ ¬ workspace.Translates {} second) ∧
    ending = .exit 1 ∧ last.output = ["  Generated: in/ts/a.ts".toList] ∧
    (∃ warnings cause, last.messages = warnings ++ ["FATAL: in/b.proto: ".toList ++ cause]) ∧
    last.workspace.disk.read [] (.ofText "in/ts/a.ts".toList)
      = .ok (Utf8.encode "export interface A \x7b\n\x7d".toList) ∧
    last.workspace.disk.holds [] "in/ts/c.ts".toList = false := by
  intro folder schema workspace first second arguments last ending
  have hTree : workspace.disk.IsTree := by decide +kernel
  have hSchemas : workspace.schemasBelow "in".toList
      = [first, second, "in/b.proto/c.proto".toList] := by
    exact @Workspace.schemasBelow_of_pairwise workspace "in".toList folder _ rfl rfl
      (by decide +kernel)
  have hSearch : workspace.IsSearchable := ⟨rfl, by decide +kernel⟩
  have hWrite : Console.CanWrite { workspace } "in/ts".toList first := by
    have hMade : workspace.disk.makeDirectories [] "in/ts".toList
        = (workspace.disk.put (folder ++ ["ts".toList]) .directory, .ok ()) := by
      decide +kernel
    exact ⟨_, hMade, fun bytes => ⟨_, rfl⟩⟩
  have hFirst : workspace.Translates {} first :=
    ⟨"export interface A \x7b\n\x7d".toList, by decide +kernel⟩
  have hSecond : ¬ workspace.Translates {} second := by
    have hFault : workspace.translation {} (.path (.ofText second))
        = .error (.source (.unreadable second (.disk (.refused .isDirectory second)))) := by
      decide +kernel
    rintro ⟨document, hDocument⟩
    rw [hFault] at hDocument
    simp at hDocument
  have hWrites : ∀ earlier other, earlier ++ [other] <+: workspace.schemasBelow "in".toList →
      (∀ one ∈ earlier ++ [other], workspace.Translates {} one) →
        (Console.after { workspace } {} "in/ts".toList earlier).CanWrite "in/ts".toList other := by
    intro earlier other hPrefix hAll
    rw [hSchemas] at hPrefix
    cases earlier with
    | nil =>
      obtain rfl : other = first := by simpa using hPrefix
      exact hWrite
    | cons one rest =>
      -- the second schema is among these, and has no document
      have hRest := (List.cons_prefix_cons.1 hPrefix).2
      have hMem : second ∈ one :: rest ++ [other] := by
        cases rest with
        | nil => simp [(List.cons_prefix_cons.1 hRest).1]
        | cons two rest => simp [(List.cons_prefix_cons.1 hRest).1]
      exact absurd (hAll second hMem) hSecond
  obtain ⟨-, -, hStopped, -⟩ := @run_directory workspace {} "in".toList "in/ts".toList hTree rfl
    (hSchemas ▸ List.cons_ne_nil _ _) (fun _ => hSearch) hWrites
  obtain ⟨warnings, fault, hEnding, -, hOutput, hMessages, -, hDisk, -⟩ :=
    hStopped [first] second _ hSchemas (by simpa using hFirst) hSecond
  refine ⟨⟨hTree, rfl, hSchemas, hSearch, hWrite, hFirst, hSecond⟩, hEnding, hOutput,
    ⟨warnings, fault.message, hMessages⟩, ?_, ?_⟩
  · rw [hDisk]
    decide +kernel
  · rw [hDisk]
    decide +kernel

end Console

end ProtoTypings
