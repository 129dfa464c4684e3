import ProtoTypings.Proofs.Accesses
import ProtoTypings.Proofs.Choices.SideBySide

/-!
# Options of a call

Options reach a call in three ways: as given, with some choices overridden, or made from the
overriding choices alone. Given options may besides have been assigned any value after they were
made. All ways come to the same: the overriding choices are assigned to the given options, or to the
default ones, and the stream mode that results is resolved (`Options.choose_eq`).

The options of a session change in a way of their own, by choices that are set one by one and are
each checked before they are made (`Options.set_cases`). This refuses more than a call does, and so
no session that is used like this is ever without a document (`Session.exists_document_of_run`).

The main statement is `generateWith_outcome`. A call fails for a stream setting that is no mode and
otherwise for an empty schema, and for nothing else.
-/

namespace ProtoTypings

/-! ## Stream settings -/

/-- The stream setting that a choice is about, if it is about streams. -/
def Setting.streams? : Setting → Option StreamSetting
  | .streams value => some value
  | _ => none

/-- The stream setting that a call asks for: the overriding one, else that of the given options,
else the native mode. -/
def askedStreams (given : Option Options) (overrides : List Setting) : StreamSetting :=
  (overrides.filterMap Setting.streams?).getLast?.getD
    ((given.map Options.streams).getD (.mode .native))

namespace StreamSetting

/-- Whether a setting is a mode or its name. -/
def Names (setting : StreamSetting) (mode : StreamMode) : Prop :=
  setting = .mode mode ∨ setting = .unchecked mode.name

/-- A setting in its written form. -/
def written : StreamSetting → Text
  | .mode given => given.name
  | .unchecked value => value
  | .foreign value => value

lemma resolve_eq_ok_iff {setting : StreamSetting} {mode : StreamMode} :
    setting.resolve = .ok mode ↔ setting.Names mode := by
  cases setting with
  | mode given => simp [resolve, Names]
  | foreign value => simp [resolve, Names]
  | unchecked value =>
    simp only [resolve, Names, reduceCtorEq, unchecked.injEq, false_or,
      ← StreamMode.ofName?_eq_some_iff]
    cases StreamMode.ofName? value <;> simp

/-- A setting that is neither a mode nor the name of one is refused by its written form. -/
lemma resolve_eq_error {setting : StreamSetting} (h : ∀ mode, ¬ setting.Names mode) :
    setting.resolve = .error (.notAStreamMode setting.written) := by
  cases setting with
  | mode given => exact absurd (.inl rfl) (h given)
  | foreign value => rfl
  | unchecked value =>
    cases hName : StreamMode.ofName? value with
    | none => simp [resolve, hName, written]
    | some mode =>
      exact absurd (.inr (congrArg unchecked (StreamMode.ofName?_eq_some_iff.1 hName))) (h mode)

end StreamSetting

/-! ## Choosing -/

namespace Options

/-- The settings that make every choice as it is made in some options. -/
def settings (options : Options) : List Setting :=
  [.keepComments options.keepComments, .streams options.streams,
   .stripEmptyLines options.stripEmptyLines, .useObservable options.useObservable,
   .useMetadata options.useMetadata, .formatOutput options.formatOutput]

@[simp]
lemma assignAll_settings (options other : Options) : other.assignAll options.settings = options :=
  rfl

/-- The last choice about streams counts. -/
lemma streams_assignAll (options : Options) (overrides : List Setting) :
    (options.assignAll overrides).streams
      = (overrides.filterMap Setting.streams?).getLast?.getD options.streams := by
  induction overrides generalizing options with
  | nil => rfl
  | cons setting later ih =>
    have hStep : options.assignAll (setting :: later) = (options.assign setting).assignAll later :=
      rfl
    rw [hStep, ih]
    cases setting with
    | streams value =>
      rw [List.filterMap_cons_some (show Setting.streams? (.streams value) = some value from rfl),
        List.getLast?_cons, Option.getD_some]
      rfl
    | _ => rfl

lemma askedStreams_eq (given : Option Options) (overrides : List Setting) :
    askedStreams given overrides = ((given.getD {}).assignAll overrides).streams := by
  rw [streams_assignAll]
  cases given <;> rfl

/-- Resolved options resolve to themselves. -/
lemma resolve_bind_resolve (options : Options) :
    options.resolve.bind resolve = options.resolve := by
  cases h : options.streams.resolve with
  | error fault => rw [resolve, h]; rfl
  | ok mode => rw [resolve, h]; rfl

/-- However options reach a call, the overriding choices are assigned and the result is resolved. -/
lemma choose_eq (given : Option Options) (overrides : List Setting) :
    choose given overrides = ((given.getD {}).assignAll overrides).resolve := by
  cases given with
  | none => exact resolve_bind_resolve _
  | some options =>
    by_cases hNone : overrides = []
    · subst hNone
      rfl
    · rw [choose]
      simp only [hNone, if_false]
      exact resolve_bind_resolve _

end Options

/-! ## Setting -/

/-- Whether a choice passes the check: if it is about streams, it names a mode. -/
def Setting.IsAccepted (setting : Setting) : Prop :=
  ∀ value ∈ setting.streams?, ∃ mode, value.Names mode

namespace Options

/-- Whether the stream setting is a mode. -/
def HasMode (options : Options) : Prop :=
  ∃ mode, options.streams = .mode mode

lemma revise_cons (options : Options) (setting : Setting) (later : List Setting) :
    options.revise (setting :: later) = (options.assign setting).revise later :=
  rfl

lemma assign_of_streams?_eq_none {setting : Setting} (h : setting.streams? = none)
    (options : Options) (value : StreamSetting) :
    ({ options with streams := value } : Options).assign setting
      = { options.assign setting with streams := value } := by
  cases setting with
  | streams other => simp [Setting.streams?] at h
  | _ => rfl

/-- Revising depends on what the stream setting resolves to, not on how it is written. -/
lemma revise_streams {one other : StreamSetting} (h : one.resolve = other.resolve)
    (options : Options) (settings : List Setting) :
    ({ options with streams := one } : Options).revise settings
      = ({ options with streams := other } : Options).revise settings := by
  induction settings generalizing options with
  | nil =>
    rw [revise, revise]
    simp only [assignAll, List.foldl_nil, resolve, h]
  | cons setting later ih =>
    rw [revise_cons, revise_cons]
    cases hStreams : setting.streams? with
    | none =>
      rw [assign_of_streams?_eq_none hStreams options one,
        assign_of_streams?_eq_none hStreams options other]
      exact ih (options.assign setting)
    | some value =>
      -- the setting itself is overridden
      cases setting with
      | streams value => rfl
      | _ => simp [Setting.streams?] at hStreams

/-- A choice passes the check and then comes to the same as before, or it is refused. -/
lemma checked_cases (setting : Setting) :
    (∃ checked, setting.checked = .ok checked ∧ setting.IsAccepted ∧
      ∀ options : Options, (options.HasMode → (options.assign checked).HasMode) ∧
        ∀ later, (options.assign checked).revise later = (options.assign setting).revise later) ∨
    ∃ value, setting = .streams value ∧ (∀ mode, ¬ value.Names mode) ∧
      setting.checked = .error (.notAStreamMode value.written) := by
  cases setting with
  | streams value =>
    by_cases hNames : ∃ mode, value.Names mode
    · obtain ⟨mode, hMode⟩ := hNames
      have hResolve : value.resolve = .ok mode := StreamSetting.resolve_eq_ok_iff.2 hMode
      have hSame : (StreamSetting.mode mode).resolve = value.resolve := hResolve.symm
      refine .inl ⟨.streams (.mode mode), ?_, ?_, fun options =>
        ⟨fun _ => ⟨mode, rfl⟩, revise_streams hSame options⟩⟩
      · rw [Setting.checked, hResolve]
        rfl
      · rintro _ ⟨⟩
        exact ⟨mode, hMode⟩
    · have hNone := not_exists.1 hNames
      refine .inr ⟨value, rfl, hNone, ?_⟩
      rw [Setting.checked, StreamSetting.resolve_eq_error hNone]
      rfl
  | _ => exact .inl ⟨_, rfl, nofun, fun _ => ⟨id, fun _ => rfl⟩⟩

/-- The first choice is checked and made, then the others. -/
lemma set_cons (options : Options) (setting : Setting) (later : List Setting) :
    options.set (setting :: later)
      = setting.checked.bind fun checked => (options.assign checked).set later := by
  rw [set, List.mapM_cons]
  cases setting.checked with
  | error fault => rfl
  | ok checked =>
    simp only [bind, Except.bind, set]
    cases later.mapM Setting.checked <;> rfl

/-- **Setting choices one by one.**  The first of the choices that does not pass the check is
refused, whatever comes after it. If all pass, the options resolve to what comes of making the
choices unchecked, and a mode remains a mode. -/
theorem set_cases (options : Options) (settings : List Setting) :
    (∃ changed, options.set settings = .ok changed ∧
      (∀ setting ∈ settings, setting.IsAccepted) ∧ changed.resolve = options.revise settings ∧
      (options.HasMode → changed.HasMode)) ∨
    ∃ earlier value later, settings = earlier ++ .streams value :: later ∧
      (∀ setting ∈ earlier, setting.IsAccepted) ∧ (∀ mode, ¬ value.Names mode) ∧
      options.set settings = .error (.notAStreamMode value.written) := by
  induction settings generalizing options with
  | nil => exact .inl ⟨options, rfl, nofun, rfl, id⟩
  | cons setting later ih =>
    rw [set_cons, revise_cons]
    obtain ⟨checked, hChecked, hAccepted, hNext⟩ | ⟨value, rfl, hNone, hRefused⟩ :=
      checked_cases setting
    · obtain ⟨hMode, hRevise⟩ := hNext options
      rw [hChecked]
      obtain ⟨changed, hSet, hAll, hResolve, hLast⟩ |
        ⟨earlier, value, others, rfl, hAll, hNone, hSet⟩ := ih (options.assign checked)
      · exact .inl ⟨changed, hSet, List.forall_mem_cons.2 ⟨hAccepted, hAll⟩,
          hResolve.trans (hRevise later), hLast ∘ hMode⟩
      · exact .inr ⟨setting :: earlier, value, others, rfl,
          List.forall_mem_cons.2 ⟨hAccepted, hAll⟩, hNone, hSet⟩
    · rw [hRefused]
      exact .inr ⟨[], value, later, rfl, nofun, hNone, rfl⟩

/-- What comes after a refused choice does not help, as it does where choices override. -/
example :
    let settings : List Setting := [.streams (.unchecked "bogus".toList), .streams (.mode .strip)]
    ({} : Options).set settings = .error (.notAStreamMode "bogus".toList) ∧
      ({} : Options).revise settings = .ok { streams := .mode .strip } := by
  decide

lemma of_set {options changed : Options} {settings : List Setting}
    (h : options.set settings = .ok changed) :
    changed.resolve = options.revise settings ∧ (options.HasMode → changed.HasMode) := by
  obtain ⟨_, hSet, -, hChanged⟩ | ⟨_, _, _, -, -, -, hSet⟩ := set_cases options settings
  · obtain rfl := Except.ok.inj (h.symm.trans hSet)
    exact hChanged
  · simp [hSet] at h

/-- Options whose choices were set one by one are as good to a call as those before, with the
choices as overriding ones. -/
theorem choose_of_set {options changed : Options} {settings : List Setting}
    (h : options.set settings = .ok changed) :
    choose (some changed) [] = choose (some options) settings := by
  rw [choose_eq, choose_eq]
  exact (of_set h).1

end Options

/-! ### In a session -/

namespace Session

/-- Whether steps change the options, from the given ones on, by setting choices one by one. -/
def SetsChoices : Options → List Step → Prop
  | _, [] => True
  | options, .options changed :: later =>
    (∃ settings, options.set settings = .ok changed) ∧ SetsChoices changed later
  | options, .line _ :: later => SetsChoices options later
  | options, .dialect _ :: later => SetsChoices options later

lemma hasMode_run {session : Session} {steps : List Step} (hMode : session.options.HasMode)
    (hSets : SetsChoices session.options steps) : (session.run steps).2.options.HasMode := by
  induction steps generalizing session with
  | nil => exact hMode
  | cons first later ih =>
    cases first with
    | line line =>
      have hOptions := takeLine_options session line
      exact ih (hOptions.symm ▸ hMode) (hOptions.symm ▸ hSets)
    | options changed =>
      obtain ⟨⟨settings, hSet⟩, hLater⟩ := hSets
      exact ih ((Options.of_set hSet).2 hMode) hLater
    | dialect dialect => exact ih hMode hSets

/-- **A session always has a document.**  Where the options begin with a mode and are changed by
setting choices one by one, no step leaves a stream setting that a document could be refused for. -/
theorem exists_document_of_run {session : Session} {steps : List Step}
    (hMode : session.options.HasMode) (hSets : SetsChoices session.options steps) :
    ∃ document, (session.run steps).2.document = .ok document := by
  obtain ⟨mode, hLast⟩ := hasMode_run hMode hSets
  exact ⟨_, assemble_mode hLast _ _⟩

end Session

/-! ## Calls -/

/-- Generation resolves the options it is given, so it does not matter whether they are resolved
already. -/
lemma generateWith_eq (given : Option Options) (overrides : List Setting) (schema : Text) :
    generateWith given overrides schema
      = generate ((given.getD {}).assignAll overrides) schema := by
  rw [generateWith, Options.choose_eq]
  generalize (given.getD {}).assignAll overrides = options
  cases h : options.streams.resolve with
  | error fault =>
    rw [Options.resolve, h, generate_of_resolve_error h]
    rfl
  | ok mode =>
    rw [Options.resolve, h, generate, h]
    rfl

/-- **What comes of a call.**  The overriding choices are assigned to the given options, or to the
default ones, and it makes no difference whether they are passed as overrides, assigned before the
call, or used to make fresh options with the same choices. If the stream setting asked for is no
mode, the call is refused with a message that names it, whatever the schema. Otherwise an empty
schema is refused, and for any other schema there is a document: no access misses on the way there,
if only the limit on the depth of nested bodies exceeds the number of words on every line. -/
theorem generateWith_outcome (given : Option Options) (overrides : List Setting) :
    let asked := askedStreams given overrides
    let merged := (given.getD {}).assignAll overrides
    (∀ schema, generateWith given overrides schema = generateWith (some merged) [] schema ∧
      generateWith given overrides schema = generateWith none merged.settings schema) ∧
    ((∀ mode, ¬ asked.Names mode) → ∀ schema, ∃ fault,
      generateWith given overrides schema = .error fault ∧
      fault = .notAStreamMode asked.written ∧
      fault.message = '\x22' :: asked.written ++ "\" is not a valid stream behaviour!".toList) ∧
    ∀ mode, asked.Names mode →
      (∃ fault, generateWith given overrides [] = .error fault ∧ fault = .noSchema ∧
        fault.message = "No file specified".toList) ∧
      ∀ schema, schema ≠ [] → ∃ text,
        generateWith given overrides schema = .ok text ∧
        generateWith (some { merged with streams := .mode mode }) [] schema = .ok text ∧
        generateWith none ({ merged with streams := .mode mode } : Options).settings schema
          = .ok text ∧
        ∀ limit, (∀ line, some line ∈ schemaLines schema → line.words.length < limit) →
          Checked.document limit merged mode schema = .ok text := by
  intro asked merged
  have hAsked : asked = merged.streams := Options.askedStreams_eq given overrides
  have hMerged : ∀ schema, generateWith given overrides schema = generate merged schema :=
    generateWith_eq given overrides
  refine ⟨fun schema => ⟨?_, ?_⟩, fun hNone schema => ⟨_, ?_, rfl, rfl⟩, fun mode hMode => ?_⟩
  · rw [hMerged, generateWith_eq]
    rfl
  · rw [hMerged, generateWith_eq, Options.assignAll_settings]
  · rw [hMerged, hAsked]
    rw [hAsked] at hNone
    exact generate_of_resolve_error (StreamSetting.resolve_eq_error hNone) schema
  · have hResolve : merged.streams.resolve = .ok mode :=
      StreamSetting.resolve_eq_ok_iff.2 (hAsked ▸ hMode)
    refine ⟨⟨.noSchema, (hMerged []).trans (generate_nil hResolve), rfl, rfl⟩,
      fun schema hSchema => ?_⟩
    obtain ⟨text, hText⟩ : ∃ text, generate merged schema = .ok text :=
      ⟨_, generate_eq hResolve hSchema⟩
    have hFresh : generate { merged with streams := .mode mode } schema = .ok text := by
      rw [← hText, generate, generate, hResolve]
      rfl
    refine ⟨text, (hMerged schema).trans hText, ?_, ?_, fun limit hLimit => ?_⟩
    · rw [generateWith_eq]
      exact hFresh
    · rw [generateWith_eq, Options.assignAll_settings]
      exact hFresh
    · exact Checked.document_eq hResolve hText hLimit

/-- Options that were assigned a text that names no mode are refused by it, and of use again once
the text is overridden by the name of a mode. -/
theorem generateWith_outcome_of_assigned_text :
    let given : Options := { streams := .unchecked "bogus".toList, useObservable := true }
    let overrides : List Setting := [.useMetadata true, .streams (.unchecked "generic".toList)]
    let schema : Text := "rpc A(stream B) returns (C);".toList
    let document : Text := ("import \x7b Observable \x7d from 'rxjs';\n"
      ++ "import Stream from 'ts-stream'\n\n"
      ++ "a (bStream: Stream<B>, metadata: any): Observable<C>").toList
    ((∀ mode, ¬ (askedStreams given []).Names mode) ∧
      (askedStreams given overrides).Names .generic ∧ schema ≠ [] ∧
      ∀ line, some line ∈ schemaLines schema → line.words.length < 6) ∧
    (∃ fault, generateWith given [] schema = .error fault ∧
      fault.message = "\"bogus\" is not a valid stream behaviour!".toList) ∧
    generateWith given overrides schema = .ok document ∧
    Checked.document 6 (given.assignAll overrides) .generic schema = .ok document := by
  intro given overrides schema document
  have hAsked : ∀ mode, ¬ (askedStreams given []).Names mode := by
    rintro mode (h | h)
    · simp [askedStreams, given] at h
    · cases mode <;> revert h <;> decide
  have hLimit : ∀ line, some line ∈ schemaLines schema → line.words.length < 6 := by
    have hLines : schemaLines schema = [some schema] := by decide +kernel
    rw [hLines]
    rintro line h
    obtain rfl := Option.some.inj (List.mem_singleton.1 h)
    decide +kernel
  obtain ⟨-, hRefused, -⟩ := generateWith_outcome given []
  obtain ⟨-, -, hMade⟩ := generateWith_outcome given overrides
  obtain ⟨fault, hFault, rfl, -⟩ := hRefused hAsked schema
  obtain ⟨text, hText, -, -, hChecked⟩ := (hMade .generic (.inr rfl)).2 schema (by decide)
  obtain rfl : document = text := Except.ok.inj (Eq.trans (by decide +kernel) hText)
  exact ⟨⟨hAsked, .inr rfl, by decide, hLimit⟩, ⟨_, hFault, rfl⟩, hText, hChecked 6 hLimit⟩

end ProtoTypings
