import ProtoTypings.Proofs.Decoding
import ProtoTypings.Proofs.Disk.Keeping
import ProtoTypings.Proofs.Formatting

/-!
# Sources of the same bytes

The bytes of a schema can be handed over as they are, by something that can be read, or as a file,
which is named by its path or by a text (`Source.Gives`). A file is read with its line endings
unified, the other ways keep them. Where a line feed follows each carriage return, the texts read in
the two ways differ in carriage returns in front of line feeds only, and the documents do not
differ.

A text names a file only if it has a character that is not blank. A blank text is taken for the
schema, even where a file of that name exists (`typingsWith_of_blank_name`).

The main statement is `typingsWith_of_gives`.
-/

namespace ProtoTypings

/-! ## Files named by a text -/

namespace Disk

variable {disk : Disk} {workplace : Place} {name : Text} {bytes : List UInt8}

lemma exists_locate_of_status (h : disk.status workplace name = .ok (.file bytes)) :
    ∃ place, disk.locate workplace name = .ok (.found place (.file bytes)) := by
  rw [status] at h
  cases hLocate : disk.locate workplace name with
  | error fault => simp [hLocate, bind, Except.bind] at h
  | ok target =>
    simp only [hLocate, bind, Except.bind] at h
    cases target with
    | vacant place => simp [throw, throwThe, MonadExceptOf.throw] at h
    | found place entry =>
      cases entry with
      | directory => simp [pure, Except.pure] at h
      | file held =>
        dsimp only at h
        split at h
        · -- a slash at the end of the name asks for a directory
          simp [throw, throwThe, MonadExceptOf.throw] at h
        · obtain rfl := Entry.file.inj (Except.ok.inj h)
          exact ⟨place, rfl⟩

/-- **A file that a text names is read by the path of that text.**  The path is tidied before it is
followed: single dots and doubled slashes go, which do not matter on the way to a file. -/
lemma read_ofText (h : disk.status workplace name = .ok (.file bytes)) :
    disk.read workplace (.ofText name) = .ok bytes := by
  obtain ⟨place, hLocate⟩ := exists_locate_of_status h
  obtain ⟨hNull, hNil, hSize, hFollow⟩ := locate_eq_ok_iff.1 hLocate
  obtain ⟨directory, hTarget⟩ | ⟨front, last, directory, hParts, hFront, hDot, hUp, hPart,
    ⟨found, hFound, hTarget⟩ | ⟨-, hTarget⟩⟩ := follow_cases hFollow
  · simp at hTarget
  · obtain ⟨rfl, hFile⟩ := Target.found.inj hTarget
    obtain rfl := Entry.file.inj hFile
    have hTidy := Path.isTidy_ofText name
    have hTidied : (Path.ofText name).parts = front.filter (· ≠ ['.']) ++ [last] := by
      rw [Path.ofText, hParts, List.filter_append]
      simp [hDot]
    have hSome : (Path.ofText name).parts ≠ [] := by simp [hTidied]
    refine read_eq_ok_iff.2 ⟨directory ++ [last], locate_eq_ok_iff.2 ⟨?_, ?_, ?_, ?_⟩⟩
    · intro hMem
      exact hNull ((Path.sublist_text_ofText hSome).subset hMem)
    · intro hText
      have hEmpty := hTidy.pathParts_text hSome
      rw [hText] at hEmpty
      exact hSome hEmpty.symm
    · exact (Utf8.size_le_of_sublist (Path.sublist_text_ofText hSome)).trans hSize
    · have hStart : workplace.startFor (Path.ofText name).text = workplace.startFor name := by
        simp only [Place.startFor, hTidy.head?_text.trans Path.rootOf_ne_nil_iff]
      rw [hStart, hTidy.pathParts_text hSome, hTidied, follow_append (follow_filter_dots hFront),
        follow_cons hDot hUp hPart, hFound]
      rfl
  · simp at hTarget

end Disk

/-! ## Ways to hand over a schema -/

/-- Whether a source hands over bytes, as they are or in a file. A file is named by its path or by a
text that stands on one line and is not blank. -/
inductive Source.Gives (disk : Disk) (workplace : Place) (bytes : List UInt8) : Source → Prop
  | bytes : Gives disk workplace bytes (.bytes bytes)
  | stream : Gives disk workplace bytes (.stream (.bytes bytes))
  | path {path : Path} (hFile : disk.read workplace path = .ok bytes) :
      Gives disk workplace bytes (.path path)
  | name {name : Text} (hLine : '\n' ∉ name) (hName : name.trim ≠ [])
      (hFile : disk.status workplace name = .ok (.file bytes)) :
      Gives disk workplace bytes (.text name)

namespace Source

variable {disk : Disk} {workplace : Place} {bytes : List UInt8} {text : Text} {source : Source}

lemma readFile_eq_ok {path : Path} {shown : Text} (hFile : disk.read workplace path = .ok bytes)
    (hText : Utf8.decode bytes = .ok text) :
    readFile disk workplace path shown = .ok text.unifyLineEnds := by
  rw [readFile, hFile]
  simp [Utf8.decodeFile, hText, Except.map]

/-- A text on one line that is not blank is read as the file that it names. -/
lemma content_of_status {name : Text} (hLine : '\n' ∉ name) (hName : name.trim ≠ [])
    (hFile : disk.status workplace name = .ok (.file bytes)) :
    (Source.text name).content disk workplace
      = readFile disk workplace (.ofText name) name := by
  have hGiven : ¬ (name.contains '\n' = true ∨ name.trim = []) := by
    simp [hLine, hName]
  have hIsFile : disk.isFile workplace name = true := by
    rw [Disk.isFile, hFile]
  simp only [content, if_neg hGiven, if_pos hIsFile]

/-- The line endings of a file are unified; those of other bytes are kept. -/
lemma Gives.content_eq (h : source.Gives disk workplace bytes)
    (hText : Utf8.decode bytes = .ok text) :
    source.content disk workplace = .ok text ∨
      source.content disk workplace = .ok text.unifyLineEnds := by
  cases h with
  | bytes => exact .inl (by simp [content, decodeBytes, hText, Except.mapError])
  | stream => exact .inl (by simp [content, decodeBytes, hText, Except.mapError])
  | path hFile => exact .inr (readFile_eq_ok hFile hText)
  | @name name hLine hName hFile =>
    rw [content_of_status hLine hName hFile]
    exact .inr (readFile_eq_ok (Disk.read_ofText hFile) hText)

/-- **A source that hands over bytes is read**, and what is read has the document of the text in
them. -/
lemma Gives.exists_read (h : source.Gives disk workplace bytes) (hBytes : bytes ≠ [])
    (hText : Utf8.decode bytes = .ok text) (hReturns : FollowedBy 0x0D 0x0A bytes) :
    ∃ schema, source.read disk workplace = .ok schema ∧
      ∀ options, generate options schema = generate options text := by
  have hNil : text ≠ [] := by
    rintro rfl
    exact hBytes (Utf8.decodeFrom_eq_nil hText).2
  have hReturned : Text.Returned text text.unifyLineEnds :=
    Text.returned_unifyLineEnds (Utf8.followedBy_of_decode hText hReturns)
  rcases h.content_eq hText with hContent | hContent
  · exact ⟨text, by simp [read, hContent, hNil, bind, Except.bind, pure, Except.pure], fun _ => rfl⟩
  · have hUnified : text.unifyLineEnds ≠ [] := fun hEmpty => hNil (hReturned.eq_nil_iff.2 hEmpty)
    refine ⟨text.unifyLineEnds, ?_, fun options => (generate_of_returned hReturned options).symm⟩
    simp [read, hContent, hUnified, bind, Except.bind, pure, Except.pure]

end Source

/-! ## Documents -/

namespace Workspace

variable {workspace : Workspace} {source : Source} {schema text : Text}

/-- What is made of a source, said by the text that its document is that of. -/
lemma translation_of_read (h : source.read workspace.disk workspace.workplace = .ok schema)
    (hText : ∀ options, generate options schema = generate options text) (options : Options) :
    workspace.translation options source
      = (options.resolve.mapError .configuration).bind fun options =>
          (generate options text).mapError .configuration := by
  simp only [translation, h, hText, bind, Except.bind]

lemma typingsWith_of_read (h : source.read workspace.disk workspace.workplace = .ok schema)
    (hText : ∀ options, generate options schema = generate options text)
    (given : Option Options) (overrides : List Setting) :
    workspace.typingsWith given overrides source
      = ((Options.choose given overrides).mapError .configuration).bind fun options =>
          ((options.resolve.mapError .configuration).bind fun options =>
            (generate options text).mapError .configuration).bind
              (workspace.formatted options) := by
  rw [typingsWith]
  simp only [typings_eq_bind, translation_of_read h hText]
  rfl

end Workspace

/-- **Line endings and the way in do not show in the document.**  A text without carriage returns
declares the same dialect, has the same lines and the same document with carriage returns in front
of any of its line feeds. And bytes in which a line feed follows each carriage return have one
document, in whatever way they are handed over: it is what comes of a call that asks for no
formatting. -/
theorem typingsWith_of_gives (workspace : Workspace) (given : Option Options)
    (overrides : List Setting) :
    (∀ (text : Text) (chosen : ℕ → Bool), '\r' ∉ text →
      Dialect.detect? (text.withReturns chosen) = Dialect.detect? text ∧
      (text.withReturns chosen).lines = text.lines ∧
      generateWith given overrides (text.withReturns chosen)
        = generateWith given overrides text) ∧
    (∀ (bytes : List UInt8) (text : Text), bytes ≠ [] → Utf8.decode bytes = .ok text →
      FollowedBy 0x0D 0x0A bytes →
      ∀ source : Source, source.Gives workspace.disk workspace.workplace bytes →
        (∀ other : Source, other.Gives workspace.disk workspace.workplace bytes →
          workspace.typingsWith given overrides source
            = workspace.typingsWith given overrides other) ∧
        ∀ options, Options.choose given overrides = .ok options → options.formatOutput = false →
          ∃ document, generateWith given overrides text = .ok document ∧
            workspace.typingsWith given overrides source = .ok { text := document }) := by
  constructor
  · intro text chosen hReturn
    have hReturned := Text.returned_withReturns chosen hReturn
    exact ⟨Dialect.detect?_of_returned hReturned, hReturned.lines_eq,
      generateWith_of_returned hReturned given overrides⟩
  · intro bytes text hBytes hText hReturns source hSource
    obtain ⟨schema, hRead, hSchema⟩ := hSource.exists_read hBytes hText hReturns
    rw [Workspace.typingsWith_of_read hRead hSchema]
    constructor
    · intro other hOther
      obtain ⟨otherSchema, hOtherRead, hOtherSchema⟩ := hOther.exists_read hBytes hText hReturns
      rw [Workspace.typingsWith_of_read hOtherRead hOtherSchema]
    · intro options hOptions hFormat
      have hResolve := Options.resolve_of_choose hOptions
      have hNil : text ≠ [] := by
        rintro rfl
        exact hBytes (Utf8.decodeFrom_eq_nil hText).2
      obtain ⟨document, hDocument⟩ := exists_generate_of_resolve hResolve hNil
      refine ⟨document, ?_, ?_⟩
      · rw [generateWith, hOptions]
        exact hDocument
      · simp [hOptions, hResolve, hDocument, Except.mapError, Except.bind, Workspace.formatted,
          hFormat]

/-- A schema whose line endings are mixed, with one of them inside the declaration of its dialect.
Its bytes have the document of the file they are in, which a text names that is not tidy. -/
theorem typingsWith_of_gives_mixed_line_ends :
    let plain : Text := "syntax =\n\x22proto2\x22;\nmessage A \x7b\nint32 x = 1;\n\x7d\n".toList
    let schema := plain.withReturns fun n => n % 2 = 0
    let bytes := Utf8.encode schema
    let workspace : Workspace := ⟨⟨[([['a']], .file bytes)]⟩, [], .notInstalled⟩
    let overrides : List Setting := [.formatOutput false]
    let name : Text := ".//a".toList
    schema = "syntax =\r\n\x22proto2\x22;\nmessage A \x7b\r\nint32 x = 1;\n\x7d\r\n".toList ∧
      Dialect.detect? schema = Dialect.detect? plain ∧
      Utf8.decode bytes = .ok schema ∧ FollowedBy 0x0D 0x0A bytes ∧
      Source.Gives workspace.disk workspace.workplace bytes (.text name) ∧
      workspace.typingsWith none overrides (.bytes bytes)
        = workspace.typingsWith none overrides (.text name) ∧
      ∃ document, generateWith none overrides schema = .ok document ∧
        workspace.typingsWith none overrides (.bytes bytes) = .ok { text := document } := by
  intro plain schema bytes workspace overrides name
  have hPlain : '\r' ∉ plain := by decide
  have hText : Utf8.decode bytes = .ok schema := by decide +kernel
  have hReturns : FollowedBy 0x0D 0x0A bytes := by decide +kernel
  have hName : Source.Gives workspace.disk workspace.workplace bytes (.text name) :=
    .name (by decide) (by decide) (by decide +kernel)
  have hTexts := (typingsWith_of_gives workspace none overrides).1 plain (fun n => n % 2 = 0) hPlain
  have hSources := (typingsWith_of_gives workspace none overrides).2 bytes schema (by decide) hText
    hReturns (.bytes bytes) .bytes
  exact ⟨by decide, hTexts.1, hText, hReturns, hName, hSources.1 (.text name) hName,
    hSources.2 _ rfl rfl⟩

/-- **A blank text names no file.**  It is taken for the schema itself, although there is a file of
that name, whose document comes of its path and of its bytes. -/
theorem typingsWith_of_blank_name :
    let bytes := Utf8.encode "message A \x7b\n\x7d".toList
    let workspace : Workspace := ⟨⟨[([[' ']], .file bytes)]⟩, [], .notInstalled⟩
    let overrides : List Setting := [.formatOutput false]
    let report : Report := { text := "export interface A \x7b\n\x7d".toList }
    FollowedBy 0x0D 0x0A bytes ∧
      workspace.disk.status workspace.workplace [' '] = .ok (.file bytes) ∧
      workspace.typingsWith none overrides (.bytes bytes) = .ok report ∧
      workspace.typingsWith none overrides (.path (.ofText [' '])) = .ok report ∧
      workspace.typingsWith none overrides (.text [' ']) = .ok { text := [] } := by
  refine ⟨?_, ?_, ?_, ?_, ?_⟩ <;> decide +kernel

end ProtoTypings
