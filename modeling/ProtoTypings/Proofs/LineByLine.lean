import ProtoTypings.Proofs.Rendering

/-!
# A session renders line by line

A session is handed lines in any order, and its user may change the options and the dialect between
two of them. Although it keeps a state, and changes it from inside the bodies of blocks, the line
produced for a line is the one that a fresh session with the options and the dialect of that moment
produces. The one thing that the state gathers is whether a package was named: the predicate
`ReachesPackage` says on the words of a line when that happens.

The main statement is `Session.run_eq_line_by_line`.
-/

namespace ProtoTypings

/-! ## Lines that name the package -/

/-- The words that announce a block. -/
def blockKeywords : List Text :=
  ["message".toList, "service".toList, "enum".toList]

/-- Whether the words of a line begin with `package`, or come to begin with it by going into the
bodies of blocks, each without the closing brace at its end. -/
inductive ReachesPackage : List Text → Prop
  | here (later : List Text) : ReachesPackage ("package".toList :: later)
  | inBody {keyword name : Text} {later body : List Text} (hKeyword : keyword ∈ blockKeywords)
      (hHead : blockHead later = (name, body)) (hBody : ReachesPackage (withoutCloser body)) :
      ReachesPackage (keyword :: later)

lemma mem_blockKeywords_iff {keyword : Text} :
    keyword ∈ blockKeywords ↔ ∃ block, Keyword.ofWord? keyword = some (.block block) := by
  simp only [Keyword.ofWord?_eq_some_iff]
  constructor
  · intro h
    rcases List.mem_cons.1 h with rfl | h
    · exact ⟨.interface, List.mem_cons_self⟩
    · rcases List.mem_pair.1 h with rfl | rfl
      · exact ⟨.interface, List.mem_pair.2 (.inr rfl)⟩
      · exact ⟨.enum, List.mem_singleton.2 rfl⟩
  · rintro ⟨_ | _, h⟩
    · rcases List.mem_pair.1 h with rfl | rfl <;> simp [blockKeywords]
    · obtain rfl := List.mem_singleton.1 h
      simp [blockKeywords]

lemma ReachesPackage.namesPackage {words : List Text} (h : ReachesPackage words) (line : Text) :
    (Statement.ofWords line words).namesPackage = true := by
  induction h generalizing line with
  | here later =>
    rw [Statement.ofWords, show Keyword.ofWord? "package".toList = some .package by decide]
    rfl
  | @inBody keyword name later body hKeyword hHead hBody ih =>
    obtain ⟨block, hBlock⟩ := mem_blockKeywords_iff.1 hKeyword
    rw [Statement.ofWords_block hBlock, hHead]
    cases body with
    | nil =>
      -- an empty body says nothing
      exact absurd (ih line) (by simp [withoutCloser, Statement.ofWords, Statement.namesPackage])
    | cons inner more => exact ih _

lemma reachesPackage_of_namesPackage {line : Text} {words : List Text}
    (h : (Statement.ofWords line words).namesPackage = true) : ReachesPackage words := by
  fun_induction Statement.ofWords line words with
  | case5 line word later block hBlock name inner more hHead body ih =>
    exact .inBody (mem_blockKeywords_iff.2 ⟨block, hBlock⟩) hHead (ih h)
  | case8 line word later hKeyword =>
    obtain rfl := List.mem_singleton.1 (Keyword.ofWord?_eq_some_iff.1 hKeyword)
    exact .here later
  | _ => simp [Statement.namesPackage] at h

lemma namesPackage_iff {line : Text} {words : List Text} :
    (Statement.ofWords line words).namesPackage = true ↔ ReachesPackage words :=
  ⟨reachesPackage_of_namesPackage, fun h => h.namesPackage line⟩

instance : DecidablePred ReachesPackage := fun words =>
  decidable_of_iff ((Statement.ofWords [] words).namesPackage = true) namesPackage_iff

example : ReachesPackage (Text.words "message A{ enum B { package c; } }".toList) := by
  decide +kernel

/-- Whether some line that was not removed comes to name the package. -/
def SomeReachesPackage (lines : List (Option Text)) : Prop :=
  ∃ line, some line ∈ lines ∧ ReachesPackage line.words

lemma somePackage_iff {lines : List (Option Text)} :
    somePackage lines = true ↔ SomeReachesPackage lines := by
  rw [somePackage, List.any_eq_true]
  constructor
  · rintro ⟨_ | line, hLine, h⟩
    · simp [Statement.ofLine, Statement.namesPackage] at h
    · exact ⟨line, hLine, namesPackage_iff.1 h⟩
  · rintro ⟨line, hLine, h⟩
    exact ⟨some line, hLine, namesPackage_iff.2 h⟩

instance : DecidablePred SomeReachesPackage := fun lines =>
  decidable_of_iff (somePackage lines = true) somePackage_iff

/-! ## Steps -/

namespace Session

/-- What the user of a session does next. -/
inductive Step where
  /-- Hand it a line, `none` for a removed one. -/
  | line (line : Option Text)
  /-- Change the options. -/
  | options (options : Options)
  /-- Change the dialect. -/
  | dialect (dialect : Dialect)

/-- Takes one step, and gives the line produced if a line was handed over. -/
def step (session : Session) : Step → List (Option Text) × Session
  | .line line =>
    let (output, next) := session.takeLine line
    ([output], next)
  | .options options => ([], { session with options })
  | .dialect dialect => ([], { session with dialect })

/-- Takes several steps, and gives what is produced for each line handed over. -/
def run (session : Session) : List Step → List (Option Text) × Session
  | [] => ([], session)
  | first :: later =>
    let (outputs, next) := session.step first
    let (others, last) := next.run later
    (outputs ++ others, last)

/-- A line, with what the user has set when handing it over. -/
structure Moment where
  options : Options
  dialect : Dialect
  line : Option Text

/-- What a fresh session produces at a moment. -/
def Moment.alone (moment : Moment) : Option Text :=
  (Session.takeLine { options := moment.options, dialect := moment.dialect } moment.line).1

/-- The moments of several steps, from what is set before them. What the lines say plays no part. -/
def moments (options : Options) (dialect : Dialect) : List Step → List Moment
  | [] => []
  | .line line :: later => ⟨options, dialect, line⟩ :: moments options dialect later
  | .options options :: later => moments options dialect later
  | .dialect dialect :: later => moments options dialect later

/-- What is set after several steps. -/
def settings (options : Options) (dialect : Dialect) : List Step → Options × Dialect
  | [] => (options, dialect)
  | .line _ :: later => settings options dialect later
  | .options options :: later => settings options dialect later
  | .dialect dialect :: later => settings options dialect later

/-- The lines handed over in several steps. -/
def handed : List Step → List (Option Text)
  | [] => []
  | .line line :: later => line :: handed later
  | _ :: later => handed later

/-! ### One line -/

lemma takeLine_output (session : Session) (line : Option Text) :
    (session.takeLine line).1
      = (Statement.ofLine line).render session.options session.dialect := by
  rw [takeLine, renderLine_eq]

@[simp]
lemma takeLine_options (session : Session) (line : Option Text) :
    (session.takeLine line).2.options = session.options := by
  rw [takeLine, renderLine_eq]
  rfl

@[simp]
lemma takeLine_dialect (session : Session) (line : Option Text) :
    (session.takeLine line).2.dialect = session.dialect := by
  rw [takeLine, renderLine_eq]
  rfl

@[simp]
lemma takeLine_inNamespace (session : Session) (line : Option Text) :
    (session.takeLine line).2.inNamespace = (session.inNamespace || somePackage [line]) := by
  rw [takeLine, renderLine_eq]
  simp [afterStatement, somePackage]

lemma takeLine_eq_alone (session : Session) (line : Option Text) :
    (session.takeLine line).1 = Moment.alone ⟨session.options, session.dialect, line⟩ := by
  rw [Moment.alone, takeLine_output, takeLine_output]

lemma takeLines_output (session : Session) (lines : List (Option Text)) :
    (session.takeLines lines).1 = typingLines session.options session.dialect lines := by
  rw [takeLines, renderLines_eq]

/-! ### Many steps -/

lemma run_output (session : Session) (steps : List Step) :
    (session.run steps).1
      = (moments session.options session.dialect steps).map Moment.alone := by
  induction steps generalizing session with
  | nil => rfl
  | cons first later ih =>
    cases first with
    | line line => simp [run, step, moments, ih, takeLine_eq_alone]
    | options options => simp [run, step, moments, ih]
    | dialect dialect => simp [run, step, moments, ih]

lemma run_settings (session : Session) (steps : List Step) :
    ((session.run steps).2.options, (session.run steps).2.dialect)
      = settings session.options session.dialect steps := by
  induction steps generalizing session with
  | nil => rfl
  | cons first later ih => cases first <;> simp [run, step, settings, ih]

lemma run_inNamespace (session : Session) (steps : List Step) :
    (session.run steps).2.inNamespace = (session.inNamespace || somePackage (handed steps)) := by
  induction steps generalizing session with
  | nil => simp [run, handed, somePackage]
  | cons first later ih =>
    cases first with
    | line line => simp [run, step, handed, ih, somePackage, Bool.or_assoc]
    | options options => simp [run, step, handed, ih]
    | dialect dialect => simp [run, step, handed, ih]

lemma run_append_inNamespace {session : Session} {steps : List Step} (later : List Step)
    (h : (session.run steps).2.inNamespace = true) :
    (session.run (steps ++ later)).2.inNamespace = true := by
  rw [run_inNamespace, Bool.or_eq_true] at h ⊢
  have hHanded : handed (steps ++ later) = handed steps ++ handed later := by
    -- what the first steps did to the session plays no part in this
    clear h
    induction steps with
    | nil => rfl
    | cons first others ih => cases first <;> simp [handed, ih]
  rw [hHanded, somePackage, List.any_append, Bool.or_eq_true]
  exact h.imp_right .inl

lemma typingLines_eq_alone (options : Options) (dialect : Dialect) (lines : List (Option Text)) :
    typingLines options dialect lines
      = lines.filterMap fun line => Moment.alone ⟨options, dialect, line⟩ := by
  simp only [typingLines, Moment.alone, takeLine_output]

/-- **A session renders line by line.**  Whatever its state and whatever its user changes between
two lines, each line is rendered as by a fresh session with the options and the dialect of the
moment. The options and the dialect are those that the user sets, and a package is named from the
first line on that reaches a `package` statement. So several lines may be taken at once or in
parts, and the generated document closes a namespace exactly when some line of the schema that was
not removed, wherever it stands, reaches one. -/
theorem run_eq_line_by_line :
    (∀ (session : Session) (steps : List Step),
      (session.run steps).1 = (moments session.options session.dialect steps).map Moment.alone ∧
      ((session.run steps).2.options, (session.run steps).2.dialect)
        = settings session.options session.dialect steps ∧
      ((session.run steps).2.inNamespace = true
        ↔ session.inNamespace = true ∨ SomeReachesPackage (handed steps)) ∧
      ∀ later, (session.run steps).2.inNamespace = true →
        (session.run (steps ++ later)).2.inNamespace = true) ∧
    (∀ (session : Session) (line : Option Text),
      (session.takeLine line).2.options = session.options ∧
      (session.takeLine line).2.dialect = session.dialect) ∧
    (∀ (session : Session) (xs ys : List (Option Text)),
      (session.takeLines (xs ++ ys)).1 = (session.takeLines xs).1 ++ (session.takeLines ys).1 ∧
      (session.takeLines (xs ++ ys)).1
        = (session.takeLines xs).1 ++ ((session.takeLines xs).2.takeLines ys).1) ∧
    ∀ (options : Options) (mode : StreamMode) (schema : Text),
      options.streams.resolve = .ok mode → schema ≠ [] →
      let dialect := (Dialect.detect? schema).getD .proto3
      let lines := (schemaLines schema).filterMap fun line =>
        Moment.alone ⟨{ options with streams := .mode mode }, dialect, line⟩
      generate options schema = .ok
        (Document.text ⟨options.useObservable, mode.neededLibrary? lines, lines, false⟩
          ++ if SomeReachesPackage (schemaLines schema) then ['\n', '}'] else []) := by
  refine ⟨fun session steps => ⟨run_output session steps, run_settings session steps, ?_,
    fun later => run_append_inNamespace later⟩,
    fun session line => ⟨takeLine_options session line, takeLine_dialect session line⟩,
    fun session xs ys => ?_, fun options mode schema hMode hSchema => ?_⟩
  · rw [run_inNamespace, Bool.or_eq_true, somePackage_iff]
  · have hOptions : (session.takeLines xs).2.options = session.options := by
      rw [takeLines, renderLines_eq]
    have hDialect : (session.takeLines xs).2.dialect = session.dialect := by
      rw [takeLines, renderLines_eq]
    simp only [takeLines_output, hOptions, hDialect, typingLines, List.filterMap_append, and_self]
  · rw [generate_eq hMode hSchema]
    simp only [typingLines_eq_alone, Document.text, ← somePackage_iff]
    cases somePackage (schemaLines schema) <;> simp

/-- A package named inside two bodies on one line closes the namespace at the end of the schema, and
is still remembered after the dialect was changed and another line was taken. -/
theorem run_eq_line_by_line_nested_package :
    let line : Text := "message M\x7b enum E \x7b package a.b; \x7d \x7d".toList
    let schema : Text := line ++ "\nint32 x = 1;".toList
    let session : Session := {}
    (({} : Options).streams.resolve = .ok .native ∧ schema ≠ [] ∧
      (session.run [.line (some line)]).2.inNamespace = true) ∧
    (session.run ([.line (some line)] ++ [.dialect .proto2, .line none])).2.inNamespace = true ∧
    generate {} schema
      = .ok ("export interface M \x7bexport enum E \x7bexport namespace AB \x7b\x7d\x7d\n"
        ++ "x?: number\n\x7d").toList := by
  intro line schema session
  have hNamed : (session.run [.line (some line)]).2.inNamespace = true := by decide +kernel
  obtain ⟨hRun, -, -, hGenerate⟩ := run_eq_line_by_line
  refine ⟨⟨rfl, by decide, hNamed⟩, (hRun session _).2.2.2 _ hNamed, ?_⟩
  exact (hGenerate {} .native schema rfl (by decide)).trans (by decide +kernel)

end Session

end ProtoTypings
