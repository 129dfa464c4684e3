import ProtoTypings.Proofs.Sources

/-!
# What sources hold

What a source holds for a schema (`Source.Holds`) and which sources are refused
(`Source.IsRefused`) is said without the order in which a source is examined. Every source but an
absent one holds one text or is refused, so it is enough to follow the two through the reading. A
source that holds the empty text is no better than an absent one.

A text is a schema or the path of one. Where it stands on several lines or is blank, the disk has no
say; else the file that it names goes before the schema that it may be, and a schema before a path
that leads to no file.

The main statement is `Source.read_outcome`.
-/

namespace ProtoTypings

open Text

lemma Text.trim_eq_nil_iff {text : Text} : text.trim = [] ↔ ∀ c ∈ text, isBlank c = true := by
  rw [trim, trimEnd, List.reverse_eq_nil_iff, List.dropWhile_eq_nil_iff]
  simp only [List.mem_reverse]
  constructor
  · intro h c hc
    rw [← List.takeWhile_append_dropWhile (p := isBlank) (l := text)] at hc
    rcases List.mem_append.1 hc with hc | hc
    · exact List.mem_takeWhile_imp hc
    · exact h c hc
  · intro h c hc
    exact h c ((List.dropWhile_suffix _).subset hc)

namespace Disk

/-- A file stands where a text names one. -/
lemma isFile_iff {disk : Disk} {workplace : Place} {name : Text} :
    disk.isFile workplace name = true ↔
      ∃ bytes, disk.status workplace name = .ok (.file bytes) := by
  rw [isFile]
  cases disk.status workplace name with
  | error fault => simp
  | ok entry => cases entry <;> simp

/-- Only a path with a null character is not passed on to the disk. -/
lemma read_ne_nullInPath {disk : Disk} {workplace : Place} {path : Path}
    (h : '\x00' ∉ path.text) : disk.read workplace path ≠ .error .nullInPath := by
  have hLocate : disk.locate workplace path.text ≠ .error .nullInPath := by
    rw [locate, if_neg (by simpa using h)]
    split
    · simp
    split
    · simp
    · dsimp only
      cases disk.follow _ path.text.pathParts <;> simp [Except.mapError]
  rw [read]
  cases hTarget : disk.locate workplace path.text with
  | error fault => simpa [hTarget, bind, Except.bind] using hLocate
  | ok target =>
    cases target with
    | found place entry =>
      cases entry <;>
        simp [bind, Except.bind, pure, Except.pure, throw, throwThe, MonadExceptOf.throw]
    | vacant place => simp [bind, Except.bind, throw, throwThe, MonadExceptOf.throw]

end Disk

namespace Source

/-- Whether a text looks like the path of a schema. -/
def IsPathLike (text : Text) : Prop :=
  ('\x7b' ∉ text ∧ '=' ∉ text ∧ ';' ∉ text) ∧ (".proto".toList <:+ text ∨ '/' ∈ text)

lemma looksLikePath_iff {text : Text} : looksLikePath text = true ↔ IsPathLike text := by
  have hMarks : (text.any fun c => schemaMarks.contains c) = false ↔
      '\x7b' ∉ text ∧ '=' ∉ text ∧ ';' ∉ text := by
    simp only [List.any_eq_false, List.contains_iff_mem]
    constructor
    · intro h
      exact ⟨fun hc => h _ hc (by decide), fun hc => h _ hc (by decide),
        fun hc => h _ hc (by decide)⟩
    · rintro ⟨hBrace, hEquals, hSemicolon⟩ c hc hMark
      simp only [schemaMarks, List.mem_cons, List.not_mem_nil, or_false] at hMark
      rcases hMark with rfl | rfl | rfl
      · exact hBrace hc
      · exact hEquals hc
      · exact hSemicolon hc
  rw [looksLikePath, IsPathLike, Bool.and_eq_true, Bool.not_eq_true', hMarks]
  simp only [Bool.or_eq_true, List.isSuffixOf_iff_suffix, List.contains_iff_mem]

/-- What a source holds for a schema. -/
inductive Holds (disk : Disk) (workplace : Place) : Source → Text → Prop
  /-- A text on several lines, and a blank one, holds itself whatever is on the disk. -/
  | itself {given : Text} (hGiven : '\n' ∈ given ∨ ∀ c ∈ given, isBlank c = true) :
      Holds disk workplace (.text given) given
  /-- Any other text holds what is in the file that it names. -/
  | named {given text : Text} (hLine : '\n' ∉ given) (hName : ∃ c ∈ given, isBlank c = false)
      (hFile : disk.status workplace given = .ok (.file (Utf8.encode text))) :
      Holds disk workplace (.text given) text.unifyLineEnds
  /-- One that names no file and does not look like a path holds itself. -/
  | unnamed {given : Text} (hLine : '\n' ∉ given)
      (hNoFile : ∀ bytes, disk.status workplace given ≠ .ok (.file bytes))
      (hPath : ¬ IsPathLike given.trim) : Holds disk workplace (.text given) given
  | path {path : Path} {text : Text}
      (hFile : disk.read workplace path = .ok (Utf8.encode text)) :
      Holds disk workplace (.path path) text.unifyLineEnds
  | bytes (text : Text) : Holds disk workplace (.bytes (Utf8.encode text)) text
  | streamOfText (text : Text) : Holds disk workplace (.stream (.text text)) text
  | streamOfBytes (text : Text) :
      Holds disk workplace (.stream (.bytes (Utf8.encode text))) text
  | streamOfNothing : Holds disk workplace (.stream .nothing) []

/-- Whether a source is refused. -/
inductive IsRefused (disk : Disk) (workplace : Place) : Source → Prop
  /-- A text that looks like a path names no file. -/
  | noFile {given : Text} (hLine : '\n' ∉ given)
      (hNoFile : ∀ bytes, disk.status workplace given ≠ .ok (.file bytes))
      (hPath : IsPathLike given.trim) : IsRefused disk workplace (.text given)
  /-- The file that a text names does not encode one. -/
  | named {given : Text} {bytes : List UInt8} (hLine : '\n' ∉ given)
      (hName : ∃ c ∈ given, isBlank c = false)
      (hFile : disk.status workplace given = .ok (.file bytes))
      (hBytes : ∀ text, bytes ≠ Utf8.encode text) : IsRefused disk workplace (.text given)
  /-- The disk refuses the path. -/
  | unreadable {path : Path} {fault : DiskFault}
      (hFault : disk.read workplace path = .error fault) : IsRefused disk workplace (.path path)
  | path {path : Path} {bytes : List UInt8} (hFile : disk.read workplace path = .ok bytes)
      (hBytes : ∀ text, bytes ≠ Utf8.encode text) : IsRefused disk workplace (.path path)
  | bytes {bytes : List UInt8} (hBytes : ∀ text, bytes ≠ Utf8.encode text) :
      IsRefused disk workplace (.bytes bytes)
  | stream {bytes : List UInt8} (hBytes : ∀ text, bytes ≠ Utf8.encode text) :
      IsRefused disk workplace (.stream (.bytes bytes))
  | foreign (kind : Text) : IsRefused disk workplace (.foreign kind)

variable {disk : Disk} {workplace : Place} {source : Source} {text : Text}

lemma trim_ne_nil {given : Text} (h : ∃ c ∈ given, isBlank c = false) : given.trim ≠ [] := by
  obtain ⟨c, hc, hBlank⟩ := h
  intro hTrim
  simp [Text.trim_eq_nil_iff.1 hTrim c hc] at hBlank

/-- A text that looks like a path is not blank. -/
lemma IsPathLike.trim_ne_nil {given : Text} (h : IsPathLike given.trim) : given.trim ≠ [] := by
  rintro hTrim
  rw [hTrim] at h
  simp [IsPathLike] at h

/-- A text on one line that names no file is taken for a path or for a schema, by what it looks
like. -/
lemma content_of_no_file {given : Text} (hLine : '\n' ∉ given)
    (hNoFile : ∀ bytes, disk.status workplace given ≠ .ok (.file bytes)) :
    (Source.text given).content disk workplace =
      if looksLikePath given.trim then .error (.source (.noFile given)) else .ok given := by
  have hIsFile : ¬ disk.isFile workplace given = true := by
    rw [Disk.isFile_iff]
    exact not_exists.2 hNoFile
  by_cases hBlank : given.trim = []
  · -- a blank text is not looked for on the disk, but it does not look like a path either
    have hPath : ¬ looksLikePath given.trim = true := fun hPath =>
      (looksLikePath_iff.1 hPath).trim_ne_nil hBlank
    simp only [content, if_pos (Or.inr hBlank), if_neg hPath]
  · have hGiven : ¬ (given.contains '\n' = true ∨ given.trim = []) := by
      simp [hLine, hBlank]
    simp only [content, if_neg hGiven, if_neg hIsFile]

/-! ## Following the reading -/

lemma Holds.content_eq (h : source.Holds disk workplace text) :
    source.content disk workplace = .ok text := by
  have hDecoded (text : Text) : Utf8.decode (Utf8.encode text) = .ok text :=
    Utf8.decode_eq_ok_iff.2 rfl
  cases h with
  | itself hGiven =>
    rw [content, if_pos]
    simpa [Text.trim_eq_nil_iff] using hGiven
  | named hLine hName hFile =>
    rw [content_of_status hLine (trim_ne_nil hName) hFile]
    exact readFile_eq_ok (Disk.read_ofText hFile) (hDecoded _)
  | unnamed hLine hNoFile hPath =>
    rw [content_of_no_file hLine hNoFile, if_neg (mt looksLikePath_iff.1 hPath)]
  | path hFile => exact readFile_eq_ok hFile (hDecoded _)
  | bytes => rw [content, decodeBytes, hDecoded]; rfl
  | streamOfText => rfl
  | streamOfBytes => rw [content, decodeBytes, hDecoded]; rfl
  | streamOfNothing => rfl

lemma exists_readFile_eq_error {path : Path} {bytes : List UInt8}
    (hFile : disk.read workplace path = .ok bytes) (hBytes : ∀ text, bytes ≠ Utf8.encode text)
    (shown : Text) : ∃ fault, readFile disk workplace path shown = .error (.source fault) := by
  obtain ⟨fault, hFault⟩ := Utf8.exists_decode_eq_error hBytes
  refine ⟨.unreadable shown (.encoding fault), ?_⟩
  rw [readFile, hFile]
  simp [Utf8.decodeFile, hFault, Except.map]

lemma exists_decodeBytes_eq_error {bytes : List UInt8} (hBytes : ∀ text, bytes ≠ Utf8.encode text)
    (fromStream : Bool) : ∃ fault, decodeBytes fromStream bytes = .error (.source fault) := by
  obtain ⟨fault, hFault⟩ := Utf8.exists_decode_eq_error hBytes
  exact ⟨.undecodable fromStream fault, by rw [decodeBytes, hFault]; rfl⟩

lemma IsRefused.exists_content_eq (h : source.IsRefused disk workplace)
    (hNull : ∀ path, source = .path path → '\x00' ∉ path.text) :
    ∃ fault, source.content disk workplace = .error (.source fault) := by
  cases h with
  | @noFile given hLine hNoFile hPath =>
    refine ⟨.noFile given, ?_⟩
    rw [content_of_no_file hLine hNoFile, if_pos (looksLikePath_iff.2 hPath)]
  | @named given bytes hLine hName hFile hBytes =>
    rw [content_of_status hLine (trim_ne_nil hName) hFile]
    exact exists_readFile_eq_error (Disk.read_ofText hFile) hBytes given
  | @unreadable path fault hFault =>
    have hPassed : fault ≠ .nullInPath := by
      rintro rfl
      exact Disk.read_ne_nullInPath (hNull path rfl) hFault
    refine ⟨.unreadable path.text (.disk fault), ?_⟩
    rw [content, readFile, hFault]
    cases fault with
    | refused refusal shown => rfl
    | nullInPath => exact absurd rfl hPassed
  | @path path bytes hFile hBytes => exact exists_readFile_eq_error hFile hBytes path.text
  | bytes hBytes => exact exists_decodeBytes_eq_error hBytes false
  | stream hBytes => exact exists_decodeBytes_eq_error hBytes true
  | foreign kind => exact ⟨.unsupported kind, rfl⟩

/-- Every source that is not absent holds a text or is refused. -/
lemma exists_holds_or_isRefused (disk : Disk) (workplace : Place) (h : source ≠ .absent) :
    (∃ text, source.Holds disk workplace text) ∨ source.IsRefused disk workplace := by
  have hEncoded (bytes : List UInt8) :
      (∃ text, bytes = Utf8.encode text) ∨ ∀ text, bytes ≠ Utf8.encode text := by
    rw [← not_exists]
    exact em _
  cases source with
  | absent => exact absurd rfl h
  | text given =>
    by_cases hLine : '\n' ∈ given
    · exact .inl ⟨given, .itself (.inl hLine)⟩
    by_cases hBlank : ∀ c ∈ given, isBlank c = true
    · exact .inl ⟨given, .itself (.inr hBlank)⟩
    by_cases hFile : ∃ bytes, disk.status workplace given = .ok (.file bytes)
    · have hName : ∃ c ∈ given, isBlank c = false := by simpa using hBlank
      obtain ⟨bytes, hFile⟩ := hFile
      obtain ⟨text, rfl⟩ | hBytes := hEncoded bytes
      · exact .inl ⟨_, .named hLine hName hFile⟩
      · exact .inr (.named hLine hName hFile hBytes)
    · by_cases hPath : IsPathLike given.trim
      · exact .inr (.noFile hLine (not_exists.1 hFile) hPath)
      · exact .inl ⟨given, .unnamed hLine (not_exists.1 hFile) hPath⟩
  | bytes given =>
    obtain ⟨text, rfl⟩ | hBytes := hEncoded given
    · exact .inl ⟨text, .bytes text⟩
    · exact .inr (.bytes hBytes)
  | path given =>
    cases hRead : disk.read workplace given with
    | error fault => exact .inr (.unreadable hRead)
    | ok bytes =>
      obtain ⟨text, rfl⟩ | hBytes := hEncoded bytes
      · exact .inl ⟨_, .path hRead⟩
      · exact .inr (.path hRead hBytes)
  | stream given =>
    cases given with
    | text given => exact .inl ⟨given, .streamOfText given⟩
    | bytes given =>
      obtain ⟨text, rfl⟩ | hBytes := hEncoded given
      · exact .inl ⟨text, .streamOfBytes text⟩
      · exact .inr (.stream hBytes)
    | nothing => exact .inl ⟨[], .streamOfNothing⟩
  | foreign kind => exact .inr (.foreign kind)

/-- **A source gives the text it holds, unless that is empty.**  A source that is absent or holds
the empty text is a fault of the configuration, one that is refused is a fault of the source, and
nothing else comes of reading one.

The hypothesis is about a source that is a path: it has no null character, so that the disk takes
it. -/
theorem read_outcome (disk : Disk) (workplace : Place) (source : Source)
    (hNull : ∀ path, source = .path path → '\x00' ∉ path.text) :
    ((∃ schema, source.read disk workplace = .ok schema ∧ schema ≠ []) ∨
      source.read disk workplace = .error (.configuration .noSchema) ∨
      ∃ fault, source.read disk workplace = .error (.source fault)) ∧
    (∀ schema, source.read disk workplace = .ok schema ↔
      source.Holds disk workplace schema ∧ schema ≠ []) ∧
    (source.read disk workplace = .error (.configuration .noSchema) ↔
      source = .absent ∨ source.Holds disk workplace []) ∧
    ((∃ fault, source.read disk workplace = .error (.source fault)) ↔
      source.IsRefused disk workplace) := by
  by_cases hAbsent : source = .absent
  · subst hAbsent
    have hRead : Source.absent.read disk workplace = .error (.configuration .noSchema) := rfl
    refine ⟨.inr (.inl hRead), fun schema => ?_, iff_of_true hRead (.inl rfl), ?_⟩
    · exact iff_of_false (by simp [hRead]) nofun
    · exact iff_of_false (by simp [hRead]) nofun
  -- what is read is settled by what the source holds, so it holds nothing else and is not refused
  obtain ⟨text, hHolds⟩ | hRefused := exists_holds_or_isRefused disk workplace hAbsent
  · have hContent := hHolds.content_eq
    have hRead := read_of_content hContent
    have hOnly (other : Text) : source.Holds disk workplace other ↔ text = other :=
      ⟨fun hOther => Except.ok.inj (hContent.symm.trans hOther.content_eq), fun h => h ▸ hHolds⟩
    have hNotRefused : ¬ source.IsRefused disk workplace := by
      intro hRefused
      obtain ⟨fault, hFault⟩ := hRefused.exists_content_eq hNull
      simp [hContent] at hFault
    by_cases hText : text = []
    · rw [if_pos hText] at hRead
      refine ⟨.inr (.inl hRead), fun schema => ?_, ?_, ?_⟩
      · simp [hRead, hOnly, hText, eq_comm]
      · simp [hRead, hOnly, hText]
      · simp [hRead, hNotRefused]
    · rw [if_neg hText] at hRead
      refine ⟨.inl ⟨text, hRead, hText⟩, fun schema => ?_, ?_, ?_⟩
      · rw [hRead, hOnly, Except.ok.injEq]
        exact ⟨fun h => ⟨h, h ▸ hText⟩, And.left⟩
      · simp [hRead, hOnly, hText, hAbsent]
      · simp [hRead, hNotRefused]
  · obtain ⟨fault, hFault⟩ := hRefused.exists_content_eq hNull
    have hRead := read_of_content_error hFault
    have hNone (text : Text) : ¬ source.Holds disk workplace text := by
      intro hHolds
      simp [hHolds.content_eq] at hFault
    refine ⟨.inr (.inr ⟨fault, hRead⟩), fun schema => ?_, ?_, ?_⟩
    · simp [hRead, hNone]
    · simp [hRead, hNone, hAbsent]
    · simp [hRead, hRefused]

/-- A text with the look of a schema names a file, which has the schema, and a path leads to
none. -/
theorem read_outcome_of_file_named_like_schema :
    let name : Text := "enum /E \x7b;.proto".toList
    let schema : Text := "message A \x7b\n\x7d".toList
    let disk : Disk := ⟨[(["enum ".toList], .directory),
      (["enum ".toList, "E \x7b;.proto".toList],
        .file (Utf8.encode "message A \x7b\r\n\x7d".toList))]⟩
    let missing : Path := .ofText "./enum /missing".toList
    (∀ path, Source.text name = .path path → '\x00' ∉ path.text) ∧
      (Source.text name).Holds disk [] schema ∧
      (Source.text name).read disk [] = .ok schema ∧
      (∀ path, Source.path missing = .path path → '\x00' ∉ path.text) ∧
      (Source.path missing).IsRefused disk [] ∧
      ∃ fault, (Source.path missing).read disk [] = .error (.source fault) := by
  intro name schema disk missing
  have hName : ∀ path, Source.text name = .path path → '\x00' ∉ path.text := nofun
  have hMissing : ∀ path, Source.path missing = .path path → '\x00' ∉ path.text := by
    rintro _ ⟨⟩
    decide
  have hHolds : (Source.text name).Holds disk [] schema :=
    @Holds.named disk [] name "message A \x7b\r\n\x7d".toList (by decide)
      ⟨'e', by decide, by decide⟩ rfl
  have hRefused : (Source.path missing).IsRefused disk [] := .unreadable rfl
  obtain ⟨-, hSchema, -⟩ := read_outcome disk [] (.text name) hName
  obtain ⟨-, -, -, hFault⟩ := read_outcome disk [] (.path missing) hMissing
  exact ⟨hName, hHolds, (hSchema schema).2 ⟨hHolds, by decide⟩, hMissing, hRefused,
    hFault.2 hRefused⟩

end Source

end ProtoTypings
