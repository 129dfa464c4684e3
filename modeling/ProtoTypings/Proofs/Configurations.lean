import ProtoTypings.Formatter.Config
import ProtoTypings.Proofs.Decoding
import ProtoTypings.Proofs.Disk.Trees

/-!
# The nearest configuration

Where a search for a configuration begins is found on the path text alone (`Place.searchStart`). The
text may lead through what does not exist; where it leads to a directory, it is from there that the
search goes up. The search looks at the directories that enclose the beginning, the innermost
first, and in each at the names of configurations by preference. A name counts where it is that of
a file, and that of a manifest where the file configures the formatter (`Disk.Qualifies`).

The search ends at a place that is too long to be looked up. `Place.IsShort` rules this out, and the
search finds the nearest configuration, however the files are placed. The main statement is
`Disk.configFrom_nearest`.
-/

namespace ProtoTypings

/-! ## Resolving a path text -/

namespace Place

/-- Where a search from the directory of a path text begins. -/
def searchStart (workplace : Place) (directory : Text) : Place :=
  (workplace.startFor directory).resolve directory.pathParts

variable {place : Place} {parts : List Text} {part : Text}

/-- Parts that are no dots go on from a place. -/
lemma resolve_of_no_dots (h : ∀ part ∈ parts, part ≠ ['.'] ∧ part ≠ ['.', '.']) :
    place.resolve parts = place ++ parts := by
  induction parts generalizing place with
  | nil => exact (List.append_nil place).symm
  | cons part later ih =>
    obtain ⟨⟨hDot, hUp⟩, hLater⟩ := List.forall_mem_cons.1 h
    rw [resolve, List.foldl_cons, if_neg hDot, if_neg hUp]
    exact (ih hLater).trans (List.append_cons ..).symm

/-- What is left of a path text has no dots but those of the place. -/
lemma mem_resolve (h : part ∈ place.resolve parts) :
    part ∈ place ∨ part ∈ parts ∧ part ≠ ['.'] ∧ part ≠ ['.', '.'] := by
  induction parts generalizing place with
  | nil => exact .inl h
  | cons first later ih =>
    rw [resolve, List.foldl_cons] at h
    obtain hPlace | ⟨hLater, hDots⟩ := ih h
    · split at hPlace
      · exact .inl hPlace
      next hDot =>
      split at hPlace
      · exact .inl (List.dropLast_subset _ hPlace)
      next hUp =>
      rcases List.mem_append.1 hPlace with hPlace | hFirst
      · exact .inl hPlace
      · obtain rfl := List.mem_singleton.1 hFirst
        exact .inr ⟨List.mem_cons_self, hDot, hUp⟩
    · exact .inr ⟨List.mem_cons_of_mem _ hLater, hDots⟩

end Place

namespace Disk

variable {disk : Disk} {start place : Place} {parts : List Text} {entry : Entry} {target : Target}

/-- A path that leads to something leads there by its text alone. -/
lemma resolve_eq_of_follow (h : disk.follow start parts = .ok (.found place entry)) :
    start.resolve parts = place := by
  induction parts generalizing start with
  | nil => exact (Target.found.inj (Except.ok.inj h)).1
  | cons part later ih =>
    rw [Place.resolve, List.foldl_cons]
    obtain ⟨rfl, h⟩ | ⟨rfl, h⟩ | ⟨hDot, hUp, -, h⟩ := follow_cons_eq_ok h
    · exact ih h
    · exact ih h
    · rw [if_neg hDot, if_neg hUp]
      obtain ⟨-, h⟩ | ⟨rfl, bytes, -, h⟩ | ⟨-, -, h⟩ := h
      · exact ih h
      · exact (Target.found.inj h).1.symm
      · simp at h

/-- The parts of a path that leads anywhere are not too long. -/
lemma size_le_of_follow (h : disk.follow start parts = .ok target) :
    ∀ part ∈ parts, Utf8.size part ≤ maxPartSize := by
  induction parts generalizing start with
  | nil => simp
  | cons part later ih =>
    rw [List.forall_mem_cons]
    obtain ⟨rfl, h⟩ | ⟨rfl, h⟩ | ⟨-, -, hPart, ⟨-, h⟩ | ⟨rfl, -⟩ | ⟨rfl, -⟩⟩ := follow_cons_eq_ok h
    · exact ⟨by decide, ih h⟩
    · exact ⟨by decide, ih h⟩
    · exact ⟨hPart, ih h⟩
    · simpa using hPart
    · simpa using hPart

/-- Parts that are not too long are not refused for their length. -/
lemma follow_ne_nameTooLong (h : ∀ part ∈ parts, Utf8.size part ≤ maxPartSize) :
    disk.follow start parts ≠ .error .nameTooLong := by
  induction parts generalizing start with
  | nil => simp
  | cons part later ih =>
    obtain ⟨hPart, hLater⟩ := List.forall_mem_cons.1 h
    rw [follow]
    split
    · exact ih hLater
    split
    · exact ih hLater
    rw [if_neg (Nat.not_lt.2 hPart)]
    dsimp only
    split
    · exact ih hLater
    · split <;> simp
    · split <;> simp

end Disk

/-! ## Directories that enclose a place -/

namespace Place

lemma mem_chain_iff {place directory : Place} : directory ∈ place.chain ↔ directory <+: place := by
  rw [chain, List.mem_map]
  constructor
  · rintro ⟨n, -, rfl⟩
    exact List.take_prefix _ _
  · intro h
    have hLength := h.length_le
    refine ⟨place.length - directory.length, List.mem_range.2 (by omega), ?_⟩
    rw [show place.length - (place.length - directory.length) = directory.length by omega]
    exact (List.prefix_iff_eq_take.1 h).symm

/-- The innermost directory comes first. -/
lemma pairwise_chain (place : Place) :
    place.chain.Pairwise fun one other => other.length < one.length := by
  rw [chain, List.pairwise_map]
  refine List.pairwise_lt_range.imp_of_mem fun {m n} hm hn hLess => ?_
  rw [List.mem_range] at hm hn
  simp only [List.length_take]
  omega

/-- Whether a configuration can be looked up in a place and in all that enclose it. -/
structure IsShort (start : Place) : Prop where
  size_le : ∀ part ∈ start, Utf8.size part ≤ Disk.maxPartSize
  room : ∀ place ∈ configPlaces start, Utf8.size place.path.text ≤ Disk.maxPathSize

end Place

lemma configName_spec : ∀ name ∈ configNames ++ [manifestName],
    name ≠ ['.'] ∧ name ≠ ['.', '.'] ∧ Utf8.size name ≤ Disk.maxPartSize := by
  decide

/-- Where a place is short, no configuration that encloses it is too long. -/
lemma Place.IsShort.findsTooLong_eq {start directory place : Place} (h : start.IsShort)
    (disk : Disk) (hDirectory : directory <+: start) (hPlace : place ∈ configPlaces directory) :
    disk.findsTooLong place = false := by
  obtain ⟨name, hName, rfl⟩ := List.mem_map.1 hPlace
  have hSize : Utf8.size (Place.path (directory ++ [name])).text ≤ Disk.maxPathSize :=
    (Utf8.size_path_le hDirectory name).trans (h.room _ (List.mem_map_of_mem hName))
  have hParts : ∀ part ∈ directory ++ [name], Utf8.size part ≤ Disk.maxPartSize := by
    rw [List.forall_mem_append, List.forall_mem_singleton]
    exact ⟨fun part hPart => h.size_le part (hDirectory.subset hPart),
      (configName_spec name hName).2.2⟩
  rw [Disk.findsTooLong, Bool.or_eq_false_iff]
  refine ⟨by simpa using hSize, ?_⟩
  split
  · next hLong => exact absurd hLong (Disk.follow_ne_nameTooLong hParts)
  · rfl

/-! ## Configurations in one directory -/

namespace Disk

variable {disk : Disk} {directory place : Place} {name : Text} {bytes : List UInt8}

/-- Whether what has a name in a directory is a configuration: a file, whose bytes encode a JSON
object with the key of the formatter if the name is that of a manifest. -/
def Qualifies (disk : Disk) (directory : Place) (name : Text) : Prop :=
  ∃ bytes, disk.lookup? (directory ++ [name]) = some (.file bytes) ∧
    (name = manifestName → ∃ text keys, bytes = Utf8.encode text ∧
      Json.keys? text.unifyLineEnds = some keys ∧ manifestKey ∈ keys)

lemma manifestConfigures_iff :
    manifestConfigures bytes = true ↔ ∃ text keys, bytes = Utf8.encode text ∧
      Json.keys? text.unifyLineEnds = some keys ∧ manifestKey ∈ keys := by
  rw [manifestConfigures, Utf8.decodeFile]
  cases hDecode : Utf8.decode bytes with
  | error fault =>
    refine iff_of_false (by simp [Except.map]) ?_
    rintro ⟨text, _, hText, -⟩
    rw [Utf8.decode_eq_ok_iff.2 hText] at hDecode
    simp at hDecode
  | ok text =>
    have hText (other : Text) : bytes = Utf8.encode other ↔ text = other := by
      rw [← Utf8.decode_eq_ok_iff, hDecode, Except.ok.injEq]
    simp only [Except.map, hText, exists_and_left, exists_eq_left']
    cases Json.keys? text.unifyLineEnds <;> simp

/-- On a tree a file is found at its place, and at no other. -/
lemma IsTree.fileAt?_eq_some_iff (h : disk.IsTree)
    (hPlace : ∀ part ∈ place, part ≠ ['.'] ∧ part ≠ ['.', '.']) :
    disk.fileAt? place = some bytes ↔ disk.lookup? place = some (.file bytes) := by
  constructor
  · intro hFile
    rw [fileAt?] at hFile
    split at hFile
    · next found held hFollow =>
      obtain rfl := Option.some.inj hFile
      obtain rfl : place = found :=
        (Place.resolve_of_no_dots hPlace).symm.trans (resolve_eq_of_follow hFollow)
      obtain ⟨_, hTarget⟩ | ⟨_, _, _, -, -, -, -, -, ⟨other, hLookup, hTarget⟩ | ⟨-, hTarget⟩⟩ :=
        follow_cases hFollow
      · simp at hTarget
      · obtain ⟨hSame, hEntry⟩ := Target.found.inj hTarget
        rw [hSame, hEntry, hLookup]
      · simp at hTarget
    · simp at hFile
  · intro hLookup
    have hSome : place ≠ [] := by
      rintro rfl
      simp [lookup?] at hLookup
    have hNames := h.names _ (List.mem_map.2 ⟨_, mem_of_lookup? hLookup hSome, rfl⟩)
    have hFollow : disk.follow [] place = .ok (.found place (.file bytes)) :=
      h.follow_eq hLookup hNames hSome
    rw [fileAt?, hFollow]

variable (hTree : disk.IsTree) (hDirectory : ∀ part ∈ directory, part ≠ ['.'] ∧ part ≠ ['.', '.'])
include hTree hDirectory

lemma IsTree.configures_iff (hName : name ∈ configNames ++ [manifestName]) :
    disk.configures (directory ++ [name]) = true ↔ disk.Qualifies directory name := by
  obtain ⟨hDot, hUp, -⟩ := configName_spec name hName
  have hPlace : ∀ part ∈ directory ++ [name], part ≠ ['.'] ∧ part ≠ ['.', '.'] :=
    List.forall_mem_append.2 ⟨hDirectory, List.forall_mem_singleton.2 ⟨hDot, hUp⟩⟩
  have hCounts (bytes : List UInt8) :
      ((directory ++ [name]).getLast? ≠ some manifestName || manifestConfigures bytes) = true ↔
        (name = manifestName → manifestConfigures bytes = true) := by
    simp [or_iff_not_imp_left]
  rw [configures, Qualifies]
  simp only [← hTree.fileAt?_eq_some_iff hPlace, ← manifestConfigures_iff]
  cases disk.fileAt? (directory ++ [name]) with
  | none => simp
  | some bytes => simpa using hCounts bytes

/-- In one directory the first name that qualifies gives the configuration. -/
lemma IsTree.find?_configures_eq_some_iff :
    (configPlaces directory).find? disk.configures = some place ↔
      ∃ earlier name later, place = directory ++ [name] ∧
        configNames ++ [manifestName] = earlier ++ name :: later ∧ disk.Qualifies directory name ∧
        ∀ other ∈ earlier, ¬ disk.Qualifies directory other := by
  have hQualifies : ∀ name ∈ configNames ++ [manifestName],
      (disk.configures (directory ++ [name]) = true ↔ disk.Qualifies directory name) :=
    fun name hName => hTree.configures_iff hDirectory hName
  rw [configPlaces, List.find?_map, Option.map_eq_some_iff]
  simp only [List.find?_eq_some_iff_append, Function.comp_apply, Bool.not_eq_true',
    ← Bool.not_eq_true]
  constructor
  · rintro ⟨name, ⟨hName, earlier, later, hNames, hEarlier⟩, rfl⟩
    rw [hNames] at hQualifies
    exact ⟨earlier, name, later, rfl, hNames, (hQualifies name (by simp)).1 hName,
      fun other hOther h => hEarlier other hOther ((hQualifies other (by simp [hOther])).2 h)⟩
  · rintro ⟨earlier, name, later, rfl, hNames, hName, hEarlier⟩
    rw [hNames] at hQualifies
    exact ⟨name, ⟨(hQualifies name (by simp)).2 hName, earlier, later, hNames,
      fun other hOther h => hEarlier other hOther ((hQualifies other (by simp [hOther])).1 h)⟩, rfl⟩

lemma IsTree.find?_configures_eq_none_iff :
    (configPlaces directory).find? disk.configures = none ↔
      ∀ name ∈ configNames ++ [manifestName], ¬ disk.Qualifies directory name := by
  rw [configPlaces, List.find?_map, Option.map_eq_none_iff, List.find?_eq_none]
  refine forall₂_congr fun name hName => ?_
  rw [Function.comp_apply, hTree.configures_iff hDirectory hName]

end Disk

/-! ## Configurations on the way up -/

/-- On a tree a search begins at a place without dots. -/
lemma Place.isPathPart_of_mem_searchStart {disk : Disk} {workplace : Place} (hTree : disk.IsTree)
    (hWorkplace : disk.lookup? workplace = some .directory) (directory : Text) :
    ∀ part ∈ workplace.searchStart directory, IsPathPart part ∧ part ≠ ['.', '.'] := by
  intro part hPart
  obtain hPart | ⟨hPart, hDot, hUp⟩ := Place.mem_resolve hPart
  · have hMem : part ∈ workplace := by
      rw [startFor] at hPart
      split at hPart
      · simp at hPart
      · exact hPart
    have hEntry := Disk.mem_of_lookup? hWorkplace (List.ne_nil_of_mem hMem)
    have hName := hTree.names _ (List.mem_map.2 ⟨_, hEntry, rfl⟩) part hMem
    exact ⟨hName.toIsPathPart, hName.ne_up⟩
  · obtain ⟨hNil, hSlash⟩ := Text.of_mem_pathParts hPart
    exact ⟨⟨hNil, hSlash, hDot⟩, hUp⟩

namespace Disk

/-- **The nearest configuration counts, and in one directory the preferred one.**  A search begins
at the working directory, or at the place that a path text names by itself; where the path leads to
a directory, it is that one. None is found exactly if no name qualifies in any directory that
encloses the beginning. Else the search finds the first name that qualifies in the innermost
directory with any.

The hypotheses are about the disk, which is a tree with the working directory on it, and about the
path text, which the disk takes: it has no null character, and no name or path that a search comes
upon is too long. -/
theorem configFrom_nearest {disk : Disk} {workplace : Place} {directory : Text}
    (hTree : disk.IsTree) (hWorkplace : disk.lookup? workplace = some .directory)
    (hNull : '\x00' ∉ directory) (hShort : (workplace.searchStart directory).IsShort) :
    let start := workplace.searchStart directory
    let names := configNames ++ [manifestName]
    ((directory = [] → start = workplace) ∧
      (∀ part ∈ start, IsPathPart part ∧ part ≠ ['.', '.']) ∧
      ∀ place, disk.locate workplace directory = .ok (.found place .directory) → start = place) ∧
    ∃ result, disk.configFrom workplace directory = .ok result ∧
      (result = none ↔ ∀ enclosing, enclosing <+: start →
        ∀ name ∈ names, ¬ disk.Qualifies enclosing name) ∧
      ∀ place, result = some place ↔
        ∃ enclosing earlier name later, place = enclosing ++ [name] ∧ enclosing <+: start ∧
          names = earlier ++ name :: later ∧ disk.Qualifies enclosing name ∧
          (∀ other ∈ earlier, ¬ disk.Qualifies enclosing other) ∧
          ∀ nearer, nearer <+: start → enclosing.length < nearer.length →
            ∀ other ∈ names, ¬ disk.Qualifies nearer other := by
  intro start names
  have hParts := Place.isPathPart_of_mem_searchStart hTree hWorkplace directory
  have hDots : ∀ enclosing, enclosing <+: start →
      ∀ part ∈ enclosing, part ≠ ['.'] ∧ part ≠ ['.', '.'] := fun enclosing hEnclosing part hPart =>
    have hPart := hParts part (hEnclosing.subset hPart)
    ⟨hPart.1.ne_dot, hPart.2⟩
  have hFound : disk.configFrom workplace directory
      = .ok (start.chain.findSome? fun enclosing =>
          (configPlaces enclosing).find? disk.configures) := by
    rw [configFrom, if_neg (by simpa using hNull)]
    exact nearestConfig?_eq_findSome? fun enclosing hEnclosing place hPlace =>
      hShort.findsTooLong_eq disk (Place.mem_chain_iff.1 hEnclosing) hPlace
  refine ⟨⟨?_, hParts, fun place hPlace => resolve_eq_of_follow (locate_eq_ok_iff.1 hPlace).2.2.2⟩,
    _, hFound, ?_, fun place => ?_⟩
  · rintro rfl
    rfl
  · simp only [List.findSome?_eq_none_iff, Place.mem_chain_iff]
    exact forall₂_congr fun enclosing hEnclosing =>
      hTree.find?_configures_eq_none_iff (hDots enclosing hEnclosing)
  · -- of the enclosing directories a nearer one is longer
    rw [findSome?_eq_some_iff_of_shorter start.pairwise_chain]
    simp only [Place.mem_chain_iff]
    constructor
    · rintro ⟨enclosing, hEnclosing, hSome, hNone⟩
      obtain ⟨earlier, name, later, hPlace, hNames, hName, hEarlier⟩ :=
        (hTree.find?_configures_eq_some_iff (hDots enclosing hEnclosing)).1 hSome
      exact ⟨enclosing, earlier, name, later, hPlace, hEnclosing, hNames, hName, hEarlier,
        fun nearer hNearer hLength => (hTree.find?_configures_eq_none_iff (hDots nearer hNearer)).1
          (hNone nearer hNearer hLength)⟩
    · rintro ⟨enclosing, earlier, name, later, hPlace, hEnclosing, hNames, hName, hEarlier, hNone⟩
      refine ⟨enclosing, hEnclosing, ?_, fun nearer hNearer hLength => ?_⟩
      · exact (hTree.find?_configures_eq_some_iff (hDots enclosing hEnclosing)).2
          ⟨earlier, name, later, hPlace, hNames, hName, hEarlier⟩
      · exact (hTree.find?_configures_eq_none_iff (hDots nearer hNearer)).2
          (hNone nearer hNearer hLength)

/-- The search passes a manifest that is no JSON document and a directory with the name of a
configuration, and above them a manifest for the sake of a preferred name. It begins in a directory
that does not exist. -/
theorem configFrom_nearest_above_malformed_manifest :
    let work : Place := ["w".toList]
    let workplace : Place := work ++ ["in".toList]
    let name : Text := "prettier.config.cjs".toList
    let disk : Disk := ⟨[(work, .directory), (work ++ [name], .file []),
      (work ++ [manifestName], .file (Utf8.encode "\x7b\"prettier\": 1\x7d".toList)),
      (workplace, .directory), (workplace ++ [".prettierrc".toList], .directory),
      (workplace ++ [manifestName], .file (Utf8.encode "\x7b\"prettier\": 1".toList))]⟩
    let directory : Text := "../in/./gone/a/..".toList
    (disk.IsTree ∧ disk.lookup? workplace = some .directory ∧ '\x00' ∉ directory ∧
      (workplace.searchStart directory).IsShort) ∧
    workplace.searchStart directory = workplace ++ ["gone".toList] ∧
    disk.configFrom workplace directory = .ok (some (work ++ [name])) ∧
    disk.Qualifies work manifestName ∧ disk.Qualifies work name ∧
    ∀ other ∈ configNames ++ [manifestName], ¬ disk.Qualifies workplace other := by
  intro work workplace name disk directory
  have hTree : disk.IsTree := by decide +kernel
  have hWorkplace : disk.lookup? workplace = some .directory := by decide
  have hNull : '\x00' ∉ directory := by decide
  have hStart : workplace.searchStart directory = workplace ++ ["gone".toList] := by decide
  have hShort : (workplace.searchStart directory).IsShort := by
    rw [hStart]
    exact ⟨by decide, by decide⟩
  have hConfig : disk.configFrom workplace directory = .ok (some (work ++ [name])) := by
    decide +kernel
  obtain ⟨-, result, hResult, -, hSome⟩ := configFrom_nearest hTree hWorkplace hNull hShort
  obtain rfl : some (work ++ [name]) = result := Except.ok.inj (hConfig.symm.trans hResult)
  obtain ⟨enclosing, earlier, found, later, hPlace, -, -, hFound, -, hNone⟩ := (hSome _).1 rfl
  obtain ⟨rfl, hName⟩ := List.append_inj' hPlace rfl
  obtain rfl := (List.cons.inj hName).1
  have hManifest : disk.Qualifies work manifestName :=
    ⟨_, rfl, fun _ => ⟨_, [manifestKey], rfl, by decide +kernel, by simp⟩⟩
  refine ⟨⟨hTree, hWorkplace, hNull, hShort⟩, hStart, hConfig, hManifest, hFound, ?_⟩
  exact hNone workplace (hStart ▸ List.prefix_append _ _) (by decide)

end Disk

end ProtoTypings
