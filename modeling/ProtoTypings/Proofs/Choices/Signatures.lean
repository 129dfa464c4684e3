import ProtoTypings.Proofs.Choices.SideBySide

/-!
# Metadata and observables

Two switches are about the signatures of methods: one gives every method a parameter for metadata,
the other wraps every result in `Observable`. The main statement, `generate_switches`, compares the
four runs that they make. The runs differ in the lines that declare a method, each switch in its own
place of the signature, and in the import of `Observable`; whether `Stream` is imported is the same
in all four, since neither switch can write or break that word.
-/

namespace ProtoTypings

/-- How what the four runs make of a line is related, the first switch being that of metadata and
the second that of observables. If its innermost body declares a method, the metadata stand behind
the type of the request and `Observable` around the type of the response. All other lines are the
same in all runs. -/
inductive SignatureRow (mode : StreamMode) : Option Text → (Bool × Bool → Text) → Prop
  | method {text : Text} {method : Method} {row : Bool × Bool → Text}
      (hMethod : declaredMethod? (innermost text) = some method)
      (hWritten : ∀ metadata observable, row (metadata, observable) = framed (headers text)
        (Name.camel method.name ++ " (".toList ++ method.parameterName (.mode mode) ++ ": ".toList
          ++ method.request.render (.mode mode)
          ++ (if metadata then ", metadata: any".toList else []) ++ "): ".toList
          ++ if observable then
              "Observable<".toList ++ method.response.render (.mode mode) ++ ['>']
            else method.response.render (.mode mode))) :
      SignatureRow mode (some text) row
  | other {line : Option Text} {row : Bool × Bool → Text}
      (hOther : ∀ text ∈ line, declaredMethod? (innermost text) = none)
      (hSame : ∀ one other, row one = row other) :
      SignatureRow mode line row

/-- The options with the two switches set. -/
def Options.withSwitches (options : Options) (switches : Bool × Bool) : Options :=
  { options with useMetadata := switches.1, useObservable := switches.2 }

/-! ## Rows -/

lemma Method.signature_withSwitches (options : Options) (mode : StreamMode)
    (metadata observable : Bool) (method : Method) :
    method.signature
        { options.withSwitches (metadata, observable) with streams := .mode mode }
      = Name.camel method.name ++ " (".toList ++ method.parameterName (.mode mode) ++ ": ".toList
          ++ method.request.render (.mode mode)
          ++ (if metadata then ", metadata: any".toList else []) ++ "): ".toList
          ++ if observable then
              "Observable<".toList ++ method.response.render (.mode mode) ++ ['>']
            else method.response.render (.mode mode) := by
  rw [signature, parameters, result]
  simp only [List.append_assoc]
  rfl

lemma signatureRow_leftOf (options : Options) (mode : StreamMode) (dialect : Dialect)
    (line : Option Text) :
    SignatureRow mode line fun switches =>
      leftOf { options.withSwitches switches with streams := .mode mode } dialect line := by
  rcases reads_innermost_or declaredMethod? line with ⟨text, method, rfl, hMethod⟩ | hNone
  · refine .method hMethod fun metadata observable => ?_
    rw [leftOf_innermost, leftOf_of_declaredMethod? hMethod, Method.signature_withSwitches]
  · refine .other hNone fun one other => ?_
    refine leftOf_eq_of_no_method ?_ ?_ dialect hNone
    · rfl
    · rfl

/-! ## The word `Stream` -/

lemma isInfix_metadata_iff (lead : Text) :
    "Stream".toList <:+: lead ++ ", metadata: any".toList ↔ "Stream".toList <:+: lead := by
  have hComma : ", metadata: any".toList = ',' :: " metadata: any".toList := rfl
  rw [hComma, isInfix_append_cons (by decide), or_iff_left (by decide)]

lemma isInfix_closing_iff (lead rest : Text) :
    "Stream".toList <:+: lead ++ "): ".toList ++ rest ↔
      "Stream".toList <:+: lead ∨ "Stream".toList <:+: rest := by
  have hClosing : lead ++ "): ".toList ++ rest = lead ++ ')' :: ([':'] ++ ' ' :: rest) := by
    rw [List.append_assoc]
    rfl
  rw [hClosing, isInfix_append_cons (by decide), isInfix_append_cons (by decide)]
  exact or_congr_right (or_iff_right (by decide))

lemma isInfix_observable_iff (type : Text) :
    "Stream".toList <:+: "Observable<".toList ++ type ++ ['>'] ↔ "Stream".toList <:+: type := by
  have hWrapped : "Observable<".toList ++ type ++ ['>']
      = "Observable".toList ++ '<' :: (type ++ '>' :: []) := by
    rw [List.append_assoc]
    rfl
  rw [hWrapped, isInfix_append_cons (by decide), isInfix_append_cons (by decide),
    or_iff_right (by decide), or_iff_left (by decide)]

/-- Neither switch writes or breaks the word `Stream`. -/
lemma SignatureRow.isInfix_iff {mode : StreamMode} {line : Option Text}
    {row : Bool × Bool → Text} (h : SignatureRow mode line row) (one other : Bool × Bool) :
    "Stream".toList <:+: row one ↔ "Stream".toList <:+: row other := by
  cases h with
  | other hOther hSame => rw [hSame one other]
  | @method text method row hMethod hWritten =>
    have hParts : ∀ switches, "Stream".toList <:+: row switches ↔
        "Stream".toList <:+: framed (headers text) [] ∨
          "Stream".toList <:+: Name.camel method.name ++ " (".toList
              ++ method.parameterName (.mode mode) ++ ": ".toList
              ++ method.request.render (.mode mode) ∨
          "Stream".toList <:+: method.response.render (.mode mode) := by
      rintro ⟨metadata, observable⟩
      rw [hWritten, isInfix_stream_framed, isInfix_closing_iff]
      refine or_congr_right (or_congr ?_ ?_)
      · cases metadata with
        | false => simp only [Bool.false_eq_true, if_false, List.append_nil]
        | true => exact isInfix_metadata_iff _
      · cases observable with
        | false => exact Iff.rfl
        | true => exact isInfix_observable_iff _
    rw [hParts, hParts]

/-! ## Documents -/

/-- **What the switches for metadata and observables change.**  The four runs are refused together.
Otherwise their lines stand in rows, and `SignatureRow` says how the lines of a row differ: only
where the line declares a method, each switch in its own place. The switch for observables adds the
line that imports `Observable` in front of the document; the `Stream` import and the closing brace
of the namespace are the same in all four documents. -/
theorem generate_switches (options : Options) (schema : Text) :
    (∀ one other fault, generate (options.withSwitches one) schema = .error fault →
      generate (options.withSwitches other) schema = .error fault) ∧
    ∀ mode, options.streams.resolve = .ok mode → schema ≠ [] →
      let produced (switches : Bool × Bool) : List Text :=
        (producedLines { options.withSwitches switches with streams := .mode mode } schema).1
      let sources := remaining options (schemaLines schema)
      SideBySide (SignatureRow mode) sources produced ∧
      (∀ switches, (produced switches).length = sources.length) ∧
      ∀ switches, generate (options.withSwitches switches) schema = .ok
        ((if switches.2 then observableImport ++ ['\n'] else [])
          ++ (if (∃ line ∈ produced (false, false), "Stream".toList <:+: line) ∧ mode ≠ .strip then
                streamImport (if mode = .generic then "ts-stream".toList else "stream".toList)
                  ++ ['\n', '\n']
              else [])
          ++ ['\n'].intercalate (produced switches)
          ++ if SomeReachesPackage (schemaLines schema) then ['\n', '}'] else []) := by
  refine ⟨fun one other fault => ?_, fun mode hMode hSchema => ?_⟩
  · exact generate_eq_error rfl
  · intro produced sources
    have hProduced : ∀ switches, produced switches = typingLines
        { options.withSwitches switches with streams := .mode mode }
        ((Dialect.detect? schema).getD .proto3) (schemaLines schema) := by
      intro switches
      exact producedLines_eq _ schema
    have hRows : SideBySide (SignatureRow mode) sources produced := by
      rw [funext hProduced]
      refine sideBySide_typingLines
        (fun switches => { options.withSwitches switches with streams := .mode mode })
        (fun _ => _) (fun _ _ => Iff.rfl) ?_ _
      exact signatureRow_leftOf options mode _
    refine ⟨hRows, hRows.length_eq, fun switches => ?_⟩
    have hMentions := hRows.mentionsStream_eq
      fun line row hRow => SignatureRow.isInfix_iff hRow switches (false, false)
    simp only [← mentionsStream_iff, ← hMentions]
    exact @generate_eq_text (options.withSwitches switches) mode schema hMode hSchema

/-- A request type with a parenthesis and a comma, and a response type that needs the import of
`Stream` by its name alone, with each switch and with both. -/
theorem generate_switches_of_unusual_types :
    let options : Options := {}
    let schema : Text := "package p;\n rpc Get(A(B,C) returns (Stream);".toList
    let imported : String := "import Stream from 'stream'\n\nexport namespace P \x7b\n"
    (options.streams.resolve = .ok .native ∧ schema ≠ [] ∧
      generate (options.withSwitches (true, true)) [] = .error .noSchema) ∧
    generate (options.withSwitches (false, true)) [] = .error .noSchema ∧
    generate (options.withSwitches (false, false)) schema
      = .ok (imported ++ "get (aBC: A(B,C): Stream\n\x7d").toList ∧
    generate (options.withSwitches (true, false)) schema
      = .ok (imported ++ "get (aBC: A(B,C, metadata: any): Stream\n\x7d").toList ∧
    generate (options.withSwitches (true, true)) schema
      = .ok ("import \x7b Observable \x7d from 'rxjs';\n" ++ imported
        ++ "get (aBC: A(B,C, metadata: any): Observable<Stream>\n\x7d").toList := by
  intro options schema imported
  have hRefused : generate (options.withSwitches (true, true)) [] = .error .noSchema := rfl
  obtain ⟨hRefusals, -⟩ := generate_switches options []
  obtain ⟨-, hRuns⟩ := generate_switches options schema
  obtain ⟨-, -, hGenerate⟩ := hRuns .native rfl (by decide)
  refine ⟨⟨rfl, by decide, hRefused⟩, hRefusals _ _ _ hRefused, (hGenerate _).trans ?_,
    (hGenerate _).trans ?_, (hGenerate _).trans ?_⟩
  · decide +kernel
  · decide +kernel
  · decide +kernel

end ProtoTypings
