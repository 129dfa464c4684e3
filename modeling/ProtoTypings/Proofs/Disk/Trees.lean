import ProtoTypings.Proofs.Disk.Keeping

/-!
# Trees

A list of entries is the disk of a machine if it is a tree (`Disk.IsTree`): every place is mentioned
once, its parts are names, and a directory encloses it. On a tree the entries are what a look-up
finds, and the parts of a place lead to it from any directory on the way. So does the path that
names the directory first, which is how the entries below a directory are handed on
(`Disk.IsTree.locate_below`).
-/

namespace ProtoTypings.Disk

/-- Whether the entries of a disk make up a tree. -/
structure IsTree (disk : Disk) : Prop where
  nodup : (disk.entries.map Prod.fst).Nodup
  names : ∀ place ∈ disk.entries.map Prod.fst, ∀ name ∈ place, IsEntryName name
  enclosed : ∀ place ∈ disk.entries.map Prod.fst,
    place ≠ [] ∧ disk.lookup? place.dropLast = some .directory

instance : DecidablePred IsTree := fun disk =>
  decidable_of_iff
    ((disk.entries.map Prod.fst).Nodup ∧
      (∀ place ∈ disk.entries.map Prod.fst, ∀ name ∈ place, IsEntryName name) ∧
      ∀ place ∈ disk.entries.map Prod.fst,
        place ≠ [] ∧ disk.lookup? place.dropLast = some .directory)
    ⟨fun h => ⟨h.1, h.2.1, h.2.2⟩, fun h => ⟨h.nodup, h.names, h.enclosed⟩⟩

variable {disk : Disk} {place : Place} {parts : List Text} {entry : Entry}

lemma mem_of_lookup? (h : disk.lookup? place = some entry) (hPlace : place ≠ []) :
    (place, entry) ∈ disk.entries := by
  rw [lookup?, if_neg hPlace, List.lookup_eq_some_iff] at h
  obtain ⟨before, after, hEntries, -⟩ := h
  simp [hEntries]

namespace IsTree

lemma lookup?_of_mem (h : disk.IsTree) (hEntry : (place, entry) ∈ disk.entries) :
    disk.lookup? place = some entry := by
  have hMem : place ∈ disk.entries.map Prod.fst := List.mem_map.2 ⟨_, hEntry, rfl⟩
  rw [lookup?, if_neg (h.enclosed place hMem).1]
  cases hLookup : disk.entries.lookup place with
  | none => simpa using List.lookup_eq_none_iff.1 hLookup _ hEntry
  | some other =>
    rw [List.lookup_eq_some_iff] at hLookup
    obtain ⟨before, after, hEntries, -⟩ := hLookup
    have hOther : (place, other) ∈ disk.entries := by simp [hEntries]
    exact congrArg (some ∘ Prod.snd) (List.inj_on_of_nodup_map h.nodup hOther hEntry rfl)

/-- Whatever encloses a place is a directory. -/
lemma lookup?_of_append (h : disk.IsTree) (hEntry : disk.lookup? (place ++ parts) = some entry)
    (hParts : parts ≠ []) : disk.lookup? place = some .directory := by
  induction parts using List.reverseRecOn generalizing entry with
  | nil => exact absurd rfl hParts
  | append_singleton front name ih =>
    have hMem := mem_of_lookup? hEntry (by simp)
    have hFront := (h.enclosed _ (List.mem_map.2 ⟨_, hMem, rfl⟩)).2
    rw [← List.append_assoc, List.dropLast_concat] at hFront
    by_cases hNil : front = []
    · rw [hNil, List.append_nil] at hFront
      exact hFront
    · exact ih hFront hNil

/-- The names on the way from a directory to what stands below it lead there. -/
lemma follow_eq (h : disk.IsTree) (hEntry : disk.lookup? (place ++ parts) = some entry)
    (hNames : ∀ name ∈ parts, IsEntryName name) (hParts : parts ≠ []) :
    disk.follow place parts = .ok (.found (place ++ parts) entry) := by
  induction parts generalizing place with
  | nil => exact absurd rfl hParts
  | cons name later ih =>
    obtain ⟨hName, hLater⟩ := List.forall_mem_cons.1 hNames
    rw [follow_cons hName.ne_dot hName.ne_up hName.size_le]
    by_cases hNil : later = []
    · subst hNil
      rw [hEntry]
      cases entry <;> rfl
    · have hSplit : place ++ name :: later = place ++ [name] ++ later := List.append_cons ..
      rw [hSplit] at hEntry ⊢
      rw [h.lookup?_of_append hEntry hNil]
      exact ih hEntry hLater hNil

end IsTree

lemma mem_below_iff {directory : Place} :
    (parts, entry) ∈ disk.below directory ↔
      (directory ++ parts, entry) ∈ disk.entries ∧ parts ≠ [] := by
  rw [below, List.mem_filterMap]
  constructor
  · rintro ⟨⟨place, there⟩, hMem, h⟩
    simp only [Option.ite_none_right_eq_some, List.isPrefixOf_iff_prefix] at h
    obtain ⟨⟨⟨later, rfl⟩, hLength⟩, h⟩ := h
    rw [List.drop_left] at h
    obtain ⟨rfl, rfl⟩ := Prod.mk.inj (Option.some.inj h)
    exact ⟨hMem, by simpa [List.length_pos_iff] using hLength⟩
  · rintro ⟨hMem, hParts⟩
    refine ⟨_, hMem, ?_⟩
    simp [List.isPrefixOf_iff_prefix, List.length_pos_iff, hParts]

/-- Different entries below a directory have different paths. -/
lemma IsTree.pairwise_below (h : disk.IsTree) (directory : Place) :
    (disk.below directory).Pairwise fun one other => one.1 ≠ other.1 := by
  rw [below, List.pairwise_filterMap]
  refine (List.pairwise_map.1 (List.nodup_iff_pairwise_ne.1 h.nodup)).imp ?_
  rintro ⟨one, _⟩ ⟨other, _⟩ hne ⟨oneParts, _⟩ hOne ⟨otherParts, _⟩ hOther rfl
  simp only [Option.ite_none_right_eq_some, List.isPrefixOf_iff_prefix] at hOne hOther
  obtain ⟨⟨⟨oneLater, rfl⟩, -⟩, hOne⟩ := hOne
  obtain ⟨⟨⟨otherLater, rfl⟩, -⟩, hOther⟩ := hOther
  rw [List.drop_left] at hOne hOther
  obtain ⟨rfl, -⟩ := Prod.mk.inj (Option.some.inj hOne)
  obtain ⟨rfl, -⟩ := Prod.mk.inj (Option.some.inj hOther)
  exact hne rfl

/-! ## Paths below a directory -/

variable {workplace root : Place} {directory : Text}

/-- The path of an entry below a directory is in tidy form. -/
lemma IsTree.isTidy_below (h : disk.IsTree) (hMem : (root ++ parts, entry) ∈ disk.entries)
    (directory : Text) : ((Path.ofText directory).below parts).IsTidy :=
  (Path.isTidy_ofText directory).below fun part hPart =>
    have hNames := h.names _ (List.mem_map.2 ⟨_, hMem, rfl⟩)
    (hNames part (List.mem_append_right _ hPart)).toIsPathPart

lemma startFor_below (hTidy : ((Path.ofText directory).below parts).IsTidy) (workplace : Place) :
    workplace.startFor ((Path.ofText directory).below parts).text
      = workplace.startFor directory := by
  have hRoot : ((Path.ofText directory).below parts).text.head? = some '/'
      ↔ directory.head? = some '/' :=
    hTidy.head?_text.trans Path.rootOf_ne_nil_iff
  simp only [Place.startFor, hRoot]

lemma no_null_below (hTidy : ((Path.ofText directory).below parts).IsTidy)
    (hDirectory : '\x00' ∉ directory) (hParts : ∀ part ∈ parts, '\x00' ∉ part) :
    '\x00' ∉ ((Path.ofText directory).below parts).text := by
  intro hc
  obtain hc | hc | ⟨part, hPart, hc⟩ := hTidy.mem_text hc
  · simp at hc
  · simp at hc
  · rcases List.mem_append.1 hPart with hPart | hPart
    · exact hDirectory (Text.mem_of_mem_pathParts (List.mem_filter.1 hPart).1 hc)
    · exact hParts part hPart hc

/-- The path of an entry below a directory leads to it, unless the path is too long, and still does
so on a disk that has kept the entry. -/
lemma IsTree.locate_below (h : disk.IsTree) (hMem : (root ++ parts, entry) ∈ disk.entries)
    (hParts : parts ≠ [])
    (hLocate : disk.locate workplace directory = .ok (.found root .directory))
    {changing : Place → Prop} {later : Disk} (hKeeps : disk.Keeps changing later)
    (hPlace : ¬ changing (root ++ parts)) :
    later.locate workplace ((Path.ofText directory).below parts).text =
      if maxPathSize < Utf8.size ((Path.ofText directory).below parts).text then
        .error (.refused .nameTooLong ((Path.ofText directory).below parts).text)
      else .ok (.found (root ++ parts) entry) := by
  obtain ⟨hNull, -, -, hFollow⟩ := locate_eq_ok_iff.1 hLocate
  have hTidy := h.isTidy_below hMem directory
  have hNames : ∀ part ∈ parts, IsEntryName part := fun part hPart =>
    h.names _ (List.mem_map.2 ⟨_, hMem, rfl⟩) part (List.mem_append_right _ hPart)
  have hBelow : ((Path.ofText directory).below parts).text.pathParts
      = (Path.ofText directory).parts ++ parts :=
    hTidy.pathParts_text (by simp [Path.below, hParts])
  have hClear := no_null_below hTidy hNull fun part hPart => (hNames part hPart).no_null
  have hNil : ((Path.ofText directory).below parts).text ≠ [] := by
    intro hText
    rw [hText] at hBelow
    simp [hParts] at hBelow
  have hFound :
      disk.follow (workplace.startFor ((Path.ofText directory).below parts).text)
        ((Path.ofText directory).below parts).text.pathParts
          = .ok (.found (root ++ parts) entry) := by
    rw [startFor_below hTidy, hBelow, Path.ofText, follow_append (follow_filter_dots hFollow)]
    exact h.follow_eq (h.lookup?_of_mem hMem) hNames hParts
  split
  · next hLong => rw [locate, if_neg (by simpa using hClear), if_neg hNil, if_pos hLong]
  · next hShort =>
    exact locate_eq_ok_iff.2
      ⟨hClear, hNil, Nat.not_lt.1 hShort, hKeeps.follow_found hFound (.inr hPlace)⟩

end ProtoTypings.Disk
