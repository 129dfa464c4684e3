import ProtoTypings.Proofs.Choices.SideBySide

/-!
# How streams are written

The three modes differ in the lines of methods with a mark `stream`, wherever on a line such a
method stands, and in the import of `Stream`. The import is there for the lines that hold the word,
which is decided after the lines are written; the main statement, `generate_streams`, says that this
comes to the same for both modes that write the word, and that no method with a mark goes without
its import.
-/

namespace ProtoTypings

/-- A stream of messages of a type, as a mode writes it. -/
def StreamMode.streamOf : StreamMode → Text → Text
  | .strip, type => type
  | .generic, type => "Stream<".toList ++ type ++ ['>']
  | .native, _ => "Stream".toList

/-- What a payload is written as: its type, unless it carries the mark. -/
def Payload.writtenIn (mode : StreamMode) (payload : Payload) : Text :=
  if payload.streamed then mode.streamOf payload.type else payload.type

namespace Method

/-- Whether a method carries the mark `stream` on at least one side. -/
def HasStream (method : Method) : Prop :=
  method.request.streamed = true ∨ method.response.streamed = true

instance : DecidablePred HasStream := fun method =>
  inferInstanceAs (Decidable (method.request.streamed = true ∨ method.response.streamed = true))

/-- The same method without its marks. -/
def unmarked (method : Method) : Method :=
  { method with
    request := { method.request with streamed := false }
    response := { method.response with streamed := false } }

end Method

/-- How what the three modes make of a line is related. If its innermost body declares a method with
a mark, stripping writes the method as if it had none; every mode writes each side on its own, and
the parameter is called a stream if the request is marked and streams are not stripped. All other
lines are the same in all modes. -/
inductive StreamRow (options : Options) : Option Text → (StreamMode → Text) → Prop
  | streaming {text : Text} {method : Method} {row : StreamMode → Text}
      (hMethod : declaredMethod? (innermost text) = some method) (hStream : method.HasStream)
      (hStripped : ∀ mode, row .strip
        = framed (headers text) (method.unmarked.signature { options with streams := .mode mode }))
      (hWritten : ∀ mode, row mode = framed (headers text)
        (Name.camel method.name ++ " (".toList
          ++ (Name.camel method.request.type
            ++ if method.request.streamed ∧ mode ≠ .strip then "Stream".toList else [])
          ++ ": ".toList ++ method.request.writtenIn mode
          ++ (if options.useMetadata then ", metadata: any".toList else []) ++ "): ".toList
          ++ if options.useObservable then
              "Observable<".toList ++ method.response.writtenIn mode ++ ['>']
            else method.response.writtenIn mode)) :
      StreamRow options (some text) row
  | other {line : Option Text} {row : StreamMode → Text}
      (hOther : ∀ text ∈ line, ∀ method, declaredMethod? (innermost text) = some method →
        ¬ method.HasStream)
      (hSame : ∀ one other, row one = row other) :
      StreamRow options line row

/-! ## Signatures -/

namespace Payload

lemma render_mode (mode : StreamMode) (payload : Payload) :
    payload.render (.mode mode) = payload.writtenIn mode := by
  rw [render, writtenIn]
  cases payload.streamed <;> cases mode <;> rfl

lemma writtenIn_strip (payload : Payload) : payload.writtenIn .strip = payload.type := by
  rw [writtenIn]
  split <;> rfl

lemma writtenIn_of_unmarked {payload : Payload} (h : payload.streamed = false)
    (mode : StreamMode) : payload.writtenIn mode = payload.type := by
  rw [writtenIn, h]
  rfl

end Payload

namespace Method

lemma parameterName_mode (mode : StreamMode) (method : Method) :
    method.parameterName (.mode mode)
      = Name.camel method.request.type
        ++ if method.request.streamed ∧ mode ≠ .strip then "Stream".toList else [] := by
  rw [parameterName]
  congr 1
  cases method.request.streamed <;> cases mode <;> rfl

/-- A signature in its parts. -/
lemma signature_mode (options : Options) (mode : StreamMode) (method : Method) :
    method.signature { options with streams := .mode mode }
      = Name.camel method.name ++ " (".toList
          ++ (Name.camel method.request.type
            ++ if method.request.streamed ∧ mode ≠ .strip then "Stream".toList else [])
          ++ ": ".toList ++ method.request.writtenIn mode
          ++ (if options.useMetadata then ", metadata: any".toList else []) ++ "): ".toList
          ++ if options.useObservable then
              "Observable<".toList ++ method.response.writtenIn mode ++ ['>']
            else method.response.writtenIn mode := by
  rw [signature, parameters, result, parameterName_mode, Payload.render_mode, Payload.render_mode]
  simp only [List.append_assoc]

lemma signature_of_no_stream (options : Options) {method : Method} (h : ¬ method.HasStream)
    (one other : StreamMode) :
    method.signature { options with streams := .mode one }
      = method.signature { options with streams := .mode other } := by
  obtain ⟨hRequest, hResponse⟩ := not_or.1 h
  rw [Bool.not_eq_true] at hRequest hResponse
  have hSuffix : ∀ mode : StreamMode, ¬ (method.request.streamed = true ∧ mode ≠ .strip) := by
    simp [hRequest]
  simp only [signature_mode, Payload.writtenIn_of_unmarked hRequest,
    Payload.writtenIn_of_unmarked hResponse, if_neg (hSuffix _)]

lemma signature_unmarked (options : Options) (mode : StreamMode) (method : Method) :
    method.unmarked.signature { options with streams := .mode mode }
      = method.signature { options with streams := .mode .strip } := by
  have hNoStream : ¬ method.unmarked.HasStream := by simp [HasStream, unmarked]
  rw [signature_of_no_stream options hNoStream mode .strip, signature_mode, signature_mode]
  have hSuffix : ∀ streamed : Bool, ¬ (streamed = true ∧ StreamMode.strip ≠ .strip) := by simp
  simp only [Payload.writtenIn_strip, if_neg (hSuffix _)]
  rfl

end Method

/-! ## Rows -/

lemma streamRow_leftOf (options : Options) (dialect : Dialect) (line : Option Text) :
    StreamRow options line fun mode =>
      leftOf { options with streams := .mode mode } dialect line := by
  rcases reads_innermost_or declaredMethod? line with ⟨text, method, rfl, hMethod⟩ | hNone
  · by_cases hStream : method.HasStream
    · refine .streaming hMethod hStream (fun mode => ?_) fun mode => ?_
      · rw [leftOf_innermost, leftOf_of_declaredMethod? hMethod, Method.signature_unmarked]
      · rw [leftOf_innermost, leftOf_of_declaredMethod? hMethod, Method.signature_mode]
    · refine .other ?_ fun one other => ?_
      · rintro _ ⟨⟩ found hFound hMarked
        obtain rfl := Option.some.inj (hMethod.symm.trans hFound)
        exact hStream hMarked
      · rw [leftOf_innermost, leftOf_innermost { options with streams := .mode other },
          leftOf_of_declaredMethod? hMethod, leftOf_of_declaredMethod? hMethod,
          Method.signature_of_no_stream options hStream one other]
  · refine .other ?_ fun one other => ?_
    · intro text hText method hMethod
      exact absurd hMethod (by simp [hNone text hText])
    · refine leftOf_eq_of_no_method ?_ ?_ dialect hNone
      · rfl
      · rfl

/-- What is written for a mark holds the word `Stream`. -/
lemma StreamMode.isInfix_streamOf {mode : StreamMode} (h : mode ≠ .strip) (type : Text) :
    "Stream".toList <:+: mode.streamOf type := by
  cases mode with
  | strip => exact absurd rfl h
  | generic => exact ⟨[], '<' :: type ++ ['>'], rfl⟩
  | native => exact List.infix_rfl

lemma Method.isInfix_signature (options : Options) {mode : StreamMode} (hMode : mode ≠ .strip)
    {method : Method} (hStream : method.HasStream) :
    "Stream".toList <:+: method.signature { options with streams := .mode mode } := by
  have hWritten : ∀ payload : Payload, payload.streamed = true →
      "Stream".toList <:+: payload.writtenIn mode := by
    intro payload hStreamed
    rw [Payload.writtenIn, hStreamed]
    exact StreamMode.isInfix_streamOf hMode payload.type
  rw [signature, parameters, result, Payload.render_mode, Payload.render_mode]
  rcases hStream with hRequest | hResponse
  · -- the request stands among the parameters
    refine List.infix_append_of_infix_left (List.infix_append_of_infix_left
      (List.infix_append_of_infix_right ?_))
    exact List.infix_append_of_infix_left (List.infix_append_of_infix_right (hWritten _ hRequest))
  · refine List.infix_append_of_infix_right ?_
    dsimp only
    split
    · exact List.infix_append_of_infix_left
        (List.infix_append_of_infix_right (hWritten _ hResponse))
    · exact hWritten _ hResponse

lemma isInfix_leftOf (options : Options) (dialect : Dialect) {mode : StreamMode}
    (hMode : mode ≠ .strip) {text : Text} {method : Method}
    (hMethod : declaredMethod? (innermost text) = some method) (hStream : method.HasStream) :
    "Stream".toList <:+: leftOf { options with streams := .mode mode } dialect (some text) := by
  rw [leftOf_innermost, leftOf_of_declaredMethod? hMethod, isInfix_stream_framed]
  exact .inr (Method.isInfix_signature options hMode hStream)

/-- **What the stream mode changes.**  The three modes produce lines in rows, and `StreamRow` says
how the lines of a row differ: only where the line declares a method with a mark `stream`. In all
three modes the `Observable` import comes first, if asked for, and the produced lines come last;
between them stands the `Stream` import when streams are not stripped and a line holds the word. The
modes that write the word agree in whether a line holds it, and it does when the schema declares a
method with a mark. -/
theorem generate_streams (options : Options) (schema : Text) :
    let chosen (mode : StreamMode) : Options := { options with streams := .mode mode }
    let produced (mode : StreamMode) : List Text := (producedLines (chosen mode) schema).1
    let sources := remaining options (schemaLines schema)
    SideBySide (StreamRow options) sources produced ∧
    (∀ mode, (produced mode).length = sources.length) ∧
    ∃ imported : Bool,
      (∀ mode, generate (chosen mode) schema =
        if schema = [] then .error .noSchema
        else .ok
          ((if options.useObservable then observableImport ++ ['\n'] else [])
            ++ (if imported = true ∧ mode ≠ .strip then
                  streamImport (if mode = .generic then "ts-stream".toList else "stream".toList)
                    ++ ['\n', '\n']
                else [])
            ++ ['\n'].intercalate (produced mode)
            ++ if SomeReachesPackage (schemaLines schema) then ['\n', '}'] else [])) ∧
      (∀ mode, mode ≠ .strip →
        (imported = true ↔ ∃ line ∈ produced mode, "Stream".toList <:+: line)) ∧
      ∀ text, some text ∈ schemaLines schema →
        ∀ method, declaredMethod? (innermost text) = some method → method.HasStream →
          imported = true := by
  intro chosen produced sources
  have hProduced : ∀ mode, produced mode = typingLines (chosen mode)
      ((Dialect.detect? schema).getD .proto3) (schemaLines schema) := by
    intro mode
    exact producedLines_eq (chosen mode) schema
  have hRows : SideBySide (StreamRow options) sources produced := by
    rw [funext hProduced]
    exact sideBySide_typingLines chosen (fun _ => _) (fun _ _ => Iff.rfl)
      (streamRow_leftOf options _) _
  have hImported : ∀ mode, mode ≠ .strip →
      mentionsStream (produced .native) = mentionsStream (produced mode) := by
    intro mode hMode
    refine hRows.mentionsStream_eq fun line row hRow => ?_
    cases hRow with
    | other hOther hSame => rw [hSame .native mode]
    | @streaming text method row hMethod hStream hStripped hWritten =>
      have hHolds : ∀ mode, mode ≠ .strip → "Stream".toList <:+: row mode := by
        intro mode hMode
        rw [hWritten, ← Method.signature_mode, isInfix_stream_framed]
        exact .inr (Method.isInfix_signature options hMode hStream)
      exact iff_of_true (hHolds .native (by decide)) (hHolds mode hMode)
  refine ⟨hRows, hRows.length_eq, mentionsStream (produced .native), fun mode => ?_,
    fun mode hMode => ?_, fun text hText method hMethod hStream => ?_⟩
  · by_cases hSchema : schema = []
    · subst hSchema
      rfl
    · rw [if_neg hSchema]
      refine (@generate_eq_text (chosen mode) mode schema rfl hSchema).trans ?_
      by_cases hMode : mode = .strip
      · simp only [hMode, ne_eq, not_true, and_false]
        rfl
      · rw [hImported mode hMode]
  · rw [hImported mode hMode, mentionsStream_iff]
  · rw [hProduced, mentionsStream_typingLines_iff]
    refine ⟨some text, mem_remaining.2 ⟨hText, ?_⟩,
      isInfix_leftOf options _ (by decide) hMethod hStream⟩
    exact not_leavesNothing_of_innermost (congrArg _ (Statement.ofLine_eq_method_iff.2 hMethod))

/-- A method on the line of its service, with a mark on its request alone, as each mode has it. -/
theorem generate_streams_of_service_on_one_line :
    let text : Text := "service S \x7b rpc Get( stream A ) returns (B); \x7d".toList
    let method : Method := ⟨"Get".toList, ⟨"A".toList, true⟩, ⟨"B".toList, false⟩⟩
    (some text ∈ schemaLines text ∧ declaredMethod? (innermost text) = some method ∧
      method.HasStream) ∧
    generate { streams := .mode .strip } text
      = .ok "export interface S \x7bget (a: A): B\x7d".toList ∧
    generate { streams := .mode .generic } text
      = .ok ("import Stream from 'ts-stream'\n\n"
        ++ "export interface S \x7bget (aStream: Stream<A>): B\x7d").toList ∧
    generate { streams := .mode .native, useObservable := true } text
      = .ok ("import \x7b Observable \x7d from 'rxjs';\nimport Stream from 'stream'\n\n"
        ++ "export interface S \x7bget (aStream: Stream): Observable<B>\x7d").toList := by
  intro text method
  have hText : some text ∈ schemaLines text := by decide +kernel
  have hMethod : declaredMethod? (innermost text) = some method := by decide +kernel
  have hStream : method.HasStream := by decide
  obtain ⟨-, -, imported, hGenerate, -, hImported⟩ := generate_streams {} text
  obtain ⟨-, -, wrapped, hWrapped, -, hWrappedImported⟩ :=
    generate_streams { useObservable := true } text
  obtain rfl := hImported text hText method hMethod hStream
  obtain rfl := hWrappedImported text hText method hMethod hStream
  refine ⟨⟨hText, hMethod, hStream⟩, (hGenerate .strip).trans ?_, (hGenerate .generic).trans ?_,
    (hWrapped .native).trans ?_⟩
  · decide +kernel
  · decide +kernel
  · decide +kernel

end ProtoTypings
