import ProtoTypings.Proofs.Command.Schemas

/-!
# Steps of the command

The command takes one schema after the other. A step first makes the document, which changes nothing
on the disk, and then writes it to a file named after the schema. Whatever comes of a step, the
messages it adds are warnings about the formatter, and on the disk at most the file of that name
changes (`Console.goesOn_generate`).

The steps of a run are followed by `Console.after`, and `Console.generateAll_append` says that the
command goes through the schemas in this way for as long as they give documents.
-/

namespace ProtoTypings

namespace Console

variable {console old new : Console} {options : Options} {out schema : Text}

/-! ## Files for documents -/

/-- The name of the file for the document of a schema. -/
def documentName (schema : Text) : Text :=
  (Path.ofText schema).stem ++ ".ts".toList

lemma documentName_inj {one other : Text} :
    documentName one = documentName other ↔ (Path.ofText one).stem = (Path.ofText other).stem :=
  List.append_left_inj _

lemma no_slash_documentName (schema : Text) : '/' ∉ documentName schema := by
  intro hc
  rcases List.mem_append.1 hc with hc | hc
  · have hName := Path.stem_subset _ hc
    rw [Path.name] at hName
    cases hLast : (Path.ofText schema).parts.getLast? with
    | none => simp [hLast] at hName
    | some part =>
      rw [hLast] at hName
      exact ((Path.isTidy_ofText schema).parts part (List.mem_of_getLast? hLast)).no_slash hName
  · revert hc
    decide

lemma not_proto_documentName (schema : Text) :
    ¬ Workspace.schemaExtension <:+ documentName schema := by
  intro h
  have hBoth : "ts".toList <:+ Workspace.schemaExtension :=
    List.suffix_of_suffix_length_le ⟨(Path.ofText schema).stem ++ ['.'], by simp [documentName]⟩ h
      (by decide)
  revert hBoth
  decide

/-- The path for a document ends with the name of its file. -/
lemma exists_pathParts_documentPath (out schema : Text) :
    ∃ front, (Path.ofText (documentPath out schema)).text.pathParts
      = front ++ [documentName schema] := by
  have hNil : documentName schema ≠ [] := by simp [documentName]
  have hDot : documentName schema ≠ ['.'] := by
    intro h
    have hLength := congrArg List.length h
    simp [documentName] at hLength
  have hParts : (Path.ofText (documentPath out schema)).parts
      = out.pathParts.filter (· ≠ ['.']) ++ [documentName schema] := by
    rw [Path.ofText, documentPath, ← documentName,
      Text.pathParts_inDirectory out hNil (no_slash_documentName schema), List.filter_append]
    simp [hDot]
  refine ⟨_, ((Path.isTidy_ofText _).pathParts_text ?_).trans hParts⟩
  simp [hParts]

/-! ## One step -/

/-- The console with another disk. -/
def withDisk (console : Console) (disk : Disk) : Console :=
  { console with workspace := { console.workspace with disk } }

lemma exists_make {report : Report}
    (h : console.workspace.typings options (.path (.ofText schema)) = .ok report) :
    ∃ made, made.workspace = console.workspace ∧
      console.make options schema = (made, .ok report.text) := by
  rw [make, h]
  refine ⟨_, ?_, rfl⟩
  rfl

lemma generate_of_make_error {made : Console} {fault : Fault}
    (h : console.make options schema = (made, .error fault)) (out : Text) :
    console.generate options out schema = (made, .error fault) := by
  rw [generate, h]

/-- A document that has been made is written, unless the directory for it cannot be made or the disk
refuses the file. -/
lemma generate_of_make {made : Console} {document : Text}
    (h : console.make options schema = (made, .ok document)) (out : Text) :
    ∃ disk answer,
      made.workspace.disk.makeDirectories made.workspace.workplace out = (disk, answer) ∧
      ((∃ fault, answer = .error fault ∧
          console.generate options out schema = (made.withDisk disk, .error (.disk fault))) ∨
        answer = .ok () ∧
          ((∃ fault, disk.write made.workspace.workplace (.ofText (documentPath out schema))
                (Utf8.encode document) = .error fault ∧
              console.generate options out schema = (made.withDisk disk, .error (.disk fault))) ∨
            ∃ written, disk.write made.workspace.workplace (.ofText (documentPath out schema))
                (Utf8.encode document) = .ok written ∧
              console.generate options out schema
                = (made.withDisk written, .ok (documentPath out schema)))) := by
  cases hMade : made.workspace.disk.makeDirectories made.workspace.workplace out with
  | mk disk answer =>
    refine ⟨disk, answer, rfl, ?_⟩
    simp only [generate, h, hMade, Workspace.save]
    cases answer with
    | error fault => exact .inl ⟨fault, rfl, rfl⟩
    | ok answer =>
      refine .inr ⟨rfl, ?_⟩
      cases hWrite : disk.write made.workspace.workplace (.ofText (documentPath out schema))
          (Utf8.encode document) with
      | error fault => exact .inl ⟨fault, rfl, rfl⟩
      | ok written => exact .inr ⟨written, rfl, rfl⟩

/-- What a step leaves of what was there: the messages, followed by warnings; and on the disk
everything but what some files hold. -/
structure GoesOn (changing : Place → Prop) (before after : Console) : Prop where
  messages : ∃ warnings, after.messages = before.messages ++ warnings ∧
    ∀ warning ∈ warnings, ∃ fault : FormatterFault, warning = fault.warning
  workplace_eq : after.workspace.workplace = before.workspace.workplace
  formatter_eq : after.workspace.formatter = before.workspace.formatter
  keeps : before.workspace.disk.Keeps changing after.workspace.disk

namespace GoesOn

variable {changing : Place → Prop}

protected lemma refl (changing : Place → Prop) (console : Console) :
    GoesOn changing console console :=
  ⟨⟨[], by simp⟩, rfl, rfl, .refl _ _⟩

protected lemma trans {last : Console} (h : GoesOn changing old new)
    (hLast : GoesOn changing new last) : GoesOn changing old last := by
  obtain ⟨warnings, hMessages, hWarnings⟩ := h.messages
  obtain ⟨later, hLater, hLaterWarnings⟩ := hLast.messages
  refine ⟨⟨warnings ++ later, ?_, ?_⟩, hLast.workplace_eq.trans h.workplace_eq,
    hLast.formatter_eq.trans h.formatter_eq, h.keeps.trans hLast.keeps⟩
  · rw [hLater, hMessages, List.append_assoc]
  · intro warning hWarning
    exact (List.mem_append.1 hWarning).elim (hWarnings warning) (hLaterWarnings warning)

protected lemma mono {others : Place → Prop} (h : GoesOn changing old new)
    (hOthers : ∀ place, changing place → others place) : GoesOn others old new :=
  { h with keeps := h.keeps.mono hOthers }

lemma continues {schemas : List Text} (h : GoesOn
      (fun place => ∃ schema ∈ schemas, place.getLast? = some (documentName schema)) old new) :
    old.workspace.Continues new.workspace where
  workplace_eq := h.workplace_eq
  formatter_eq := h.formatter_eq
  keeps := h.keeps.mono fun place ⟨schema, _, hPlace⟩ => by
    rw [hPlace, Option.getD_some]
    exact not_proto_documentName schema

end GoesOn

lemma goesOn_make (console : Console) (options : Options) (schema : Text)
    (changing : Place → Prop) : GoesOn changing console (console.make options schema).1 := by
  rw [make]
  split
  · exact .refl _ _
  · next report hReport =>
    exact ⟨⟨report.warnings, rfl, Workspace.warnings_of_typings hReport⟩, rfl, rfl, .refl _ _⟩

@[simp]
lemma output_make (console : Console) (options : Options) (schema : Text) :
    (console.make options schema).1.output = console.output := by
  rw [make]
  split <;> rfl

lemma goesOn_withDisk {changing : Place → Prop} {disk : Disk}
    (h : console.workspace.disk.Keeps changing disk) :
    GoesOn changing console (console.withDisk disk) :=
  ⟨⟨[], by simp [withDisk]⟩, rfl, rfl, h⟩

/-- Whatever comes of a step, at most the file for its document changes. -/
lemma goesOn_generate (console : Console) (options : Options) (out schema : Text) :
    GoesOn (·.getLast? = some (documentName schema)) console
      (console.generate options out schema).1 := by
  have hMake := goesOn_make console options schema (·.getLast? = some (documentName schema))
  cases hMade : console.make options schema with
  | mk made answer =>
    rw [hMade] at hMake
    cases answer with
    | error fault =>
      rw [generate_of_make_error hMade]
      exact hMake
    | ok document =>
      obtain ⟨disk, answer, hDisk, h⟩ := generate_of_make hMade out
      have hDirectories :
          made.workspace.disk.Keeps (·.getLast? = some (documentName schema)) disk := by
        rw [← show (made.workspace.disk.makeDirectories made.workspace.workplace out).1 = disk by
          rw [hDisk]]
        exact Disk.keeps_makeDirectories _ _ _
      obtain ⟨fault, -, h⟩ | ⟨-, ⟨fault, -, h⟩ | ⟨written, hWrite, h⟩⟩ := h
      · rw [h]
        exact hMake.trans (goesOn_withDisk hDirectories)
      · rw [h]
        exact hMake.trans (goesOn_withDisk hDirectories)
      · rw [h]
        obtain ⟨front, hParts⟩ := exists_pathParts_documentPath out schema
        exact hMake.trans (goesOn_withDisk (hDirectories.trans (Disk.keeps_write hWrite hParts)))

@[simp]
lemma output_generate (console : Console) (options : Options) (out schema : Text) :
    (console.generate options out schema).1.output = console.output := by
  have hMake := output_make console options schema
  cases hMade : console.make options schema with
  | mk made answer =>
    rw [hMade] at hMake
    cases answer with
    | error fault =>
      rw [generate_of_make_error hMade]
      exact hMake
    | ok document =>
      obtain ⟨disk, answer, -, ⟨_, -, h⟩ | ⟨-, ⟨_, -, h⟩ | ⟨_, -, h⟩⟩⟩ := generate_of_make hMade out
      all_goals
        rw [h]
        exact hMake

/-- A schema that cannot be translated leaves everything as it is. -/
lemma generate_of_fault {fault : Fault}
    (hSearch : options.formatOutput = true → console.workspace.IsSearchable)
    (h : console.workspace.translation options (.path (.ofText schema)) = .error fault)
    (out : Text) : console.generate options out schema = (console, .error fault) := by
  apply generate_of_make_error
  rw [make, Workspace.typings_eq hSearch, h]
  rfl

/-- Whether the disk lets the document of a schema be written: the directory for it is there or can
be made, and the file can then be written whatever it is to hold. -/
def CanWrite (console : Console) (out schema : Text) : Prop :=
  ∃ disk, console.workspace.disk.makeDirectories console.workspace.workplace out = (disk, .ok ()) ∧
    ∀ bytes, ∃ written, disk.write console.workspace.workplace
      (.ofText (documentPath out schema)) bytes = .ok written

/-- A schema that can be translated gives a file where one can be written. -/
lemma generate_of_document {document : Text}
    (hSearch : options.formatOutput = true → console.workspace.IsSearchable)
    (h : console.workspace.translation options (.path (.ofText schema)) = .ok document)
    (hWrite : console.CanWrite out schema) :
    (console.generate options out schema).2 = .ok (documentPath out schema) := by
  obtain ⟨disk, hDisk, hWrite⟩ := hWrite
  have hReport := @Workspace.typings_eq _ _ (.path (.ofText schema)) hSearch
  rw [h] at hReport
  obtain ⟨made, hWorkspace, hMade⟩ := exists_make hReport
  obtain ⟨other, answer, hOther, h⟩ := generate_of_make hMade out
  rw [hWorkspace] at hOther h
  obtain ⟨rfl, rfl⟩ := Prod.mk.inj (hOther.symm.trans hDisk)
  obtain ⟨fault, hFault, -⟩ | ⟨-, ⟨fault, hFault, -⟩ | ⟨written, -, h⟩⟩ := h
  · simp at hFault
  · obtain ⟨written, hWritten⟩ := hWrite _
    rw [hWritten] at hFault
    simp at hFault
  · rw [h]

/-- A step that succeeds leaves what was made of the schema in the file for its document. -/
lemma generate_eq_ok {path : Text} (h : (console.generate options out schema).2 = .ok path) :
    path = documentPath out schema ∧
      ∃ report, console.workspace.typings options (.path (.ofText schema)) = .ok report ∧
        (console.generate options out schema).1.workspace.disk.read console.workspace.workplace
          (.ofText (documentPath out schema)) = .ok (Utf8.encode report.text) := by
  cases hReport : console.workspace.typings options (.path (.ofText schema)) with
  | error fault =>
    have hMade : console.make options schema = (console, .error fault) := by rw [make, hReport]
    rw [generate_of_make_error hMade] at h
    simp at h
  | ok report =>
    obtain ⟨made, hWorkspace, hMade⟩ := exists_make hReport
    obtain ⟨disk, answer, -, hStep⟩ := generate_of_make hMade out
    rw [hWorkspace] at hStep
    obtain ⟨fault, -, hStep⟩ | ⟨-, ⟨fault, -, hStep⟩ | ⟨written, hWrite, hStep⟩⟩ := hStep
    · simp [hStep] at h
    · simp [hStep] at h
    · rw [hStep] at h ⊢
      exact ⟨(Except.ok.inj h).symm, report, rfl, Disk.read_write hWrite⟩

/-! ## A run of steps -/

/-- The line shown for a schema whose document has been written. -/
def generatedLine (out schema : Text) : Text :=
  "  Generated: ".toList ++ documentPath out schema

/-- The console after schemas have been taken in turn, with a line shown for each. -/
def after (console : Console) (options : Options) (out : Text) (schemas : List Text) : Console :=
  schemas.foldl
    (fun console schema =>
      (console.generate options out schema).1.print (generatedLine out schema))
    console

@[simp]
lemma after_nil (console : Console) (options : Options) (out : Text) :
    console.after options out [] = console := rfl

lemma after_cons (console : Console) (options : Options) (out schema : Text)
    (later : List Text) :
    console.after options out (schema :: later) =
      ((console.generate options out schema).1.print (generatedLine out schema)).after
        options out later := rfl

lemma after_append (console : Console) (options : Options) (out : Text)
    (earlier later : List Text) :
    console.after options out (earlier ++ later)
      = (console.after options out earlier).after options out later :=
  List.foldl_append ..

lemma output_after (console : Console) (options : Options) (out : Text) (schemas : List Text) :
    (console.after options out schemas).output
      = console.output ++ schemas.map (generatedLine out) := by
  induction schemas generalizing console with
  | nil => simp
  | cons schema later ih => simp [after_cons, ih, print]

/-- A run of steps changes at most the files for the documents of its schemas. -/
lemma goesOn_after (console : Console) (options : Options) (out : Text) (schemas : List Text) :
    GoesOn (fun place => ∃ schema ∈ schemas, place.getLast? = some (documentName schema)) console
      (console.after options out schemas) := by
  induction schemas generalizing console with
  | nil => exact .refl _ _
  | cons schema later ih =>
    rw [after_cons]
    have hStep := goesOn_generate console options out schema
    have hPrint : GoesOn (·.getLast? = some (documentName schema)) console
        ((console.generate options out schema).1.print (generatedLine out schema)) :=
      ⟨hStep.messages, hStep.workplace_eq, hStep.formatter_eq, hStep.keeps⟩
    -- the files that may change are those of this schema and of the later ones
    refine (hPrint.mono fun place hPlace => ?_).trans ((ih _).mono fun place hPlace => ?_)
    · exact ⟨schema, List.mem_cons_self, hPlace⟩
    · obtain ⟨other, hOther, hPlace⟩ := hPlace
      exact ⟨other, List.mem_cons_of_mem _ hOther, hPlace⟩

lemma continues_after (workspace : Workspace) (options : Options) (out : Text)
    (schemas : List Text) :
    workspace.Continues (Console.after { workspace } options out schemas).workspace :=
  (goesOn_after { workspace } options out schemas).continues

/-- Whether each schema gives a file when its turn comes. -/
def Succeeds (console : Console) (options : Options) (out : Text) (schemas : List Text) : Prop :=
  ∀ earlier schema, earlier ++ [schema] <+: schemas →
    ((console.after options out earlier).generate options out schema).2
      = .ok (documentPath out schema)

lemma succeeds_cons {later : List Text} :
    console.Succeeds options out (schema :: later) ↔
      (console.generate options out schema).2 = .ok (documentPath out schema) ∧
        ((console.generate options out schema).1.print (generatedLine out schema)).Succeeds
          options out later := by
  constructor
  · intro h
    refine ⟨h [] schema ⟨later, rfl⟩, fun earlier other hPrefix => ?_⟩
    exact h (schema :: earlier) other (by simpa using hPrefix)
  · rintro ⟨hFirst, hLater⟩ earlier other hPrefix
    cases earlier with
    | nil =>
      obtain rfl : other = schema := by simpa using hPrefix
      exact hFirst
    | cons first earlier =>
      obtain ⟨rfl, hRest⟩ := List.cons_prefix_cons.1 hPrefix
      exact hLater earlier other hRest

/-- The command goes through schemas in turn for as long as they give files. -/
lemma generateAll_append {schemas : List Text} (h : console.Succeeds options out schemas)
    (later : List Text) :
    console.generateAll options out (schemas ++ later)
      = (console.after options out schemas).generateAll options out later := by
  induction schemas generalizing console with
  | nil => rfl
  | cons schema rest ih =>
    obtain ⟨hFirst, hRest⟩ := succeeds_cons.1 h
    rw [List.cons_append, generateAll, after_cons, ← ih hRest]
    cases hStep : console.generate options out schema with
    | mk made answer =>
      rw [hStep] at hFirst
      obtain rfl : answer = _ := hFirst
      rfl

/-- The line shown once the documents of all schemas have been written. -/
def doneLine (out : Text) (count : Nat) : Text :=
  "Done! ".toList ++ Nat.toDigits 10 count ++ " file(s) written to ".toList ++ out

/-- Schemas that all give files are counted at the end. -/
lemma generateListed_of_succeeds {schemas : List Text} (h : console.Succeeds options out schemas) :
    console.generateListed options out schemas
      = ((console.after options out schemas).print (doneLine out schemas.length), .exit 0) := by
  have hEnd := generateAll_append h []
  rw [List.append_nil] at hEnd
  rw [generateListed, hEnd]
  rfl

/-- The message over a schema that gives no document. -/
def fatalLine (schema : Text) (fault : Fault) : Text :=
  "FATAL: ".toList ++ schema ++ ": ".toList ++ fault.message

/-- A schema that cannot be translated ends the command, whatever schemas are left. -/
lemma generateListed_of_fault {earlier : List Text} {fault : Fault}
    (h : console.Succeeds options out earlier)
    (hStep : (console.after options out earlier).generate options out schema
      = (console.after options out earlier, .error fault))
    (hExpected : ∀ cause, fault ≠ .disk cause) (later : List Text) :
    console.generateListed options out (earlier ++ schema :: later)
      = ((console.after options out earlier).tell (fatalLine schema fault), .exit 1) := by
  rw [generateListed, generateAll_append h, generateAll, hStep]
  cases fault with
  | disk cause => exact absurd rfl (hExpected cause)
  | configuration fault => rfl
  | source fault => rfl

/-- A command that gets to the end has made a file of every schema. -/
lemma succeeds_of_generateAll {schemas : List Text}
    (h : (console.generateAll options out schemas).2 = none) :
    console.Succeeds options out schemas := by
  induction schemas generalizing console with
  | nil =>
    intro earlier schema hPrefix
    simp at hPrefix
  | cons schema later ih =>
    rw [generateAll] at h
    cases hStep : console.generate options out schema with
    | mk made answer =>
      rw [hStep] at h
      cases answer with
      | error fault => simp at h
      | ok path =>
        have hPath : (console.generate options out schema).2 = .ok path := by rw [hStep]
        obtain rfl := (generate_eq_ok hPath).1
        refine succeeds_cons.2 ⟨hPath, ?_⟩
        rw [hStep]
        exact ih h

end Console

end ProtoTypings
