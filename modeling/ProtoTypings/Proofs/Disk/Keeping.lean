import ProtoTypings.Disk.Directories
import ProtoTypings.Proofs.Disk.Following

/-!
# What a disk keeps

Nothing is ever taken off a disk: making directories and writing files leaves every entry where it
is, and a file changes only by being written. `Disk.Keeps` says so for the files at given places.
Paths that led to what was kept still lead there, so a file that has been written is read back for
as long as no file of its name is written again.
-/

namespace ProtoTypings.Disk

/-- What stands on a disk still stands on a later one; only files at some places may hold something
else. -/
def Keeps (changing : Place → Prop) (before after : Disk) : Prop :=
  ∀ place entry, before.lookup? place = some entry →
    after.lookup? place = some entry ∨
      changing place ∧ (∃ old, entry = .file old) ∧ ∃ new, after.lookup? place = some (.file new)

variable {changing : Place → Prop} {disk before after : Disk} {start workplace place : Place}
  {parts front : List Text} {path : Text} {name : Text} {entry : Entry} {bytes : List UInt8}

namespace Keeps

protected lemma refl (changing : Place → Prop) (disk : Disk) : Keeps changing disk disk :=
  fun _ _ h => .inl h

protected lemma trans {last : Disk} (h : Keeps changing before after)
    (hLast : Keeps changing after last) : Keeps changing before last := by
  intro place entry hEntry
  obtain hKept | ⟨hPlace, hOld, new, hNew⟩ := h place entry hEntry
  · exact hLast place entry hKept
  · obtain hKept | ⟨-, -, newer, hNewer⟩ := hLast place _ hNew
    · exact .inr ⟨hPlace, hOld, new, hKept⟩
    · exact .inr ⟨hPlace, hOld, newer, hNewer⟩

protected lemma mono {others : Place → Prop} (h : Keeps changing before after)
    (hOthers : ∀ place, changing place → others place) : Keeps others before after := by
  intro place entry hEntry
  obtain hKept | ⟨hPlace, hFiles⟩ := h place entry hEntry
  · exact .inl hKept
  · exact .inr ⟨hOthers place hPlace, hFiles⟩

/-- A directory is kept, and so is a file that may not change. -/
lemma lookup? (h : Keeps changing before after) (hEntry : before.lookup? place = some entry)
    (hKept : entry = .directory ∨ ¬ changing place) : after.lookup? place = some entry := by
  obtain hAfter | ⟨hPlace, ⟨old, rfl⟩, -⟩ := h place entry hEntry
  · exact hAfter
  · exact absurd hPlace (hKept.resolve_left (by simp))

lemma put_of_vacant (h : disk.lookup? place = none) (entry : Entry) :
    Keeps changing disk (disk.put place entry) := by
  intro other there hThere
  have hOther : other ≠ place := by
    rintro rfl
    simp [h] at hThere
  exact .inl ((lookup?_put_of_ne hOther entry).trans hThere)

lemma put_of_file {old : List UInt8} (h : disk.lookup? place = some (.file old))
    (hPlace : changing place) (new : List UInt8) :
    Keeps changing disk (disk.put place (.file new)) := by
  intro other there hThere
  by_cases hOther : other = place
  · subst hOther
    have hNil : other ≠ [] := by
      rintro rfl
      simp [Disk.lookup?] at h
    have hOld : there = .file old := Option.some.inj (hThere.symm.trans h)
    exact .inr ⟨hPlace, ⟨old, hOld⟩, new, lookup?_put_self hNil _⟩
  · exact .inl ((lookup?_put_of_ne hOther _).trans hThere)

/-! ## Paths to what is kept -/

lemma follow_directory (h : Keeps changing before after)
    (hFollow : before.follow start parts = .ok (.found place .directory)) :
    after.follow start parts = .ok (.found place .directory) := by
  induction parts generalizing start with
  | nil => exact hFollow
  | cons name later ih =>
    obtain ⟨rfl, hFollow⟩ | ⟨rfl, hFollow⟩ | ⟨hDot, hUp, hSize, hFollow⟩ :=
      follow_cons_eq_ok hFollow
    · exact ih hFollow
    · exact ih hFollow
    · obtain ⟨hLookup, hFollow⟩ | ⟨-, bytes, -, hTarget⟩ | ⟨-, -, hTarget⟩ := hFollow
      · rw [follow_cons hDot hUp hSize, h.lookup? hLookup (.inl rfl)]
        exact ih hFollow
      · simp at hTarget
      · simp at hTarget

lemma follow_found (h : Keeps changing before after)
    (hFollow : before.follow start parts = .ok (.found place entry))
    (hKept : entry = .directory ∨ ¬ changing place) :
    after.follow start parts = .ok (.found place entry) := by
  obtain ⟨reached, hTarget⟩ | ⟨front, name, reached, rfl, hFront, hDot, hUp, hSize,
    ⟨bytes, hLookup, hTarget⟩ | ⟨-, hTarget⟩⟩ := follow_cases hFollow
  · obtain ⟨rfl, rfl⟩ := Target.found.inj hTarget
    exact h.follow_directory hFollow
  · obtain ⟨rfl, rfl⟩ := Target.found.inj hTarget
    rw [follow_append (h.follow_directory hFront), follow_cons hDot hUp hSize,
      h.lookup? hLookup hKept]
    rfl
  · simp at hTarget

lemma locate_found (h : Keeps changing before after)
    (hLocate : before.locate workplace path = .ok (.found place entry))
    (hKept : entry = .directory ∨ ¬ changing place) :
    after.locate workplace path = .ok (.found place entry) := by
  rw [locate_eq_ok_iff] at hLocate ⊢
  obtain ⟨hNull, hNil, hSize, hFollow⟩ := hLocate
  exact ⟨hNull, hNil, hSize, h.follow_found hFollow hKept⟩

end Keeps

/-! ## Making directories -/

lemma lookup?_of_follow_vacant (h : disk.follow start parts = .ok (.vacant place)) :
    disk.lookup? place = none := by
  obtain ⟨_, hTarget⟩ | ⟨_, _, _, _, _, _, _, _, ⟨_, _, hTarget⟩ | ⟨hNone, hTarget⟩⟩ :=
    follow_cases h
  · simp at hTarget
  · simp at hTarget
  · exact Target.vacant.inj hTarget ▸ hNone

lemma keeps_makeDirectory {made : Disk} (h : disk.makeDirectory workplace path = .ok made) :
    Keeps changing disk made := by
  rw [makeDirectory] at h
  cases hLocate : disk.locate workplace path with
  | error fault => simp [hLocate, bind, Except.bind] at h
  | ok target =>
    cases target with
    | found place entry =>
      simp [hLocate, bind, Except.bind, throw, throwThe, MonadExceptOf.throw] at h
    | vacant place =>
      simp only [hLocate, bind, Except.bind] at h
      obtain rfl := Except.ok.inj h
      obtain ⟨-, -, -, hFollow⟩ := locate_eq_ok_iff.1 hLocate
      exact .put_of_vacant (lookup?_of_follow_vacant hFollow) _

lemma keeps_ensureDirectory (disk : Disk) (workplace : Place) (path : Text) :
    Keeps changing disk (disk.ensureDirectory workplace path).1 := by
  rw [ensureDirectory]
  split
  · next h => exact keeps_makeDirectory h
  · exact .refl _ _
  · exact .refl _ _

lemma keeps_makeDirectories (disk : Disk) (workplace : Place) (path : Text) :
    Keeps changing disk (disk.makeDirectories workplace path).1 := by
  fun_induction makeDirectories disk workplace path with
  | case1 => exact keeps_ensureDirectory _ _ _
  | case2 _ _ _ part _ _ goOn made hMade ih =>
    rw [hMade] at ih
    simp only [goOn]
    split
    · exact ih
    · exact ih.trans (keeps_ensureDirectory _ _ _)
  | case3 _ _ _ _ _ _ made fault hMade _ ih =>
    rw [hMade] at ih
    exact ih
  | case4 _ _ _ part _ _ goOn made fault hMade _ ih =>
    rw [hMade] at ih
    simp only [goOn]
    split
    · exact ih
    · exact ih.trans (keeps_ensureDirectory _ _ _)
  | case5 => exact keeps_ensureDirectory _ _ _

/-! ## Writing and reading -/

/-- What a write comes to: the file has the last part of its path as its name, and stands in the
directory that the other parts lead to. -/
lemma exists_put_of_write {file : Path} {written : Disk}
    (h : disk.write workplace file bytes = .ok written) :
    '\x00' ∉ file.text ∧ file.text ≠ [] ∧ Utf8.size file.text ≤ maxPathSize ∧
      ∃ front name directory, file.text.pathParts = front ++ [name] ∧
        disk.follow (workplace.startFor file.text) front = .ok (.found directory .directory) ∧
        name ≠ ['.'] ∧ name ≠ ['.', '.'] ∧ Utf8.size name ≤ maxPartSize ∧
        ((∃ old, disk.lookup? (directory ++ [name]) = some (.file old)) ∨
          disk.lookup? (directory ++ [name]) = none) ∧
        written = disk.put (directory ++ [name]) (.file bytes) := by
  rw [write] at h
  cases hLocate : disk.locate workplace file.text with
  | error fault => simp [hLocate, bind, Except.bind] at h
  | ok target =>
    obtain ⟨hNull, hNil, hSize, hFollow⟩ := locate_eq_ok_iff.1 hLocate
    refine ⟨hNull, hNil, hSize, ?_⟩
    obtain ⟨directory, rfl⟩ | ⟨front, name, directory, hParts, hFront, hDot, hUp, hPart,
      ⟨old, hLookup, rfl⟩ | ⟨hLookup, rfl⟩⟩ := follow_cases hFollow
    · simp [hLocate, bind, Except.bind, throw, throwThe, MonadExceptOf.throw] at h
    · simp only [hLocate, bind, Except.bind] at h
      exact ⟨front, name, directory, hParts, hFront, hDot, hUp, hPart, .inl ⟨old, hLookup⟩,
        (Except.ok.inj h).symm⟩
    · simp only [hLocate, bind, Except.bind] at h
      exact ⟨front, name, directory, hParts, hFront, hDot, hUp, hPart, .inr hLookup,
        (Except.ok.inj h).symm⟩

/-- A write changes at most the files of one name. -/
lemma keeps_write {file : Path} {written : Disk}
    (h : disk.write workplace file bytes = .ok written)
    (hParts : file.text.pathParts = front ++ [name]) :
    Keeps (·.getLast? = some name) disk written := by
  obtain ⟨-, -, -, _, other, directory, hOther, -, -, -, -, hLookup, rfl⟩ := exists_put_of_write h
  obtain rfl : name = other :=
    List.singleton_inj.1 (List.append_inj_right' (hParts.symm.trans hOther) rfl)
  obtain ⟨old, hOld⟩ | hNone := hLookup
  · exact .put_of_file hOld List.getLast?_concat bytes
  · exact .put_of_vacant hNone _

lemma read_eq_ok_iff {file : Path} :
    disk.read workplace file = .ok bytes ↔
      ∃ place, disk.locate workplace file.text = .ok (.found place (.file bytes)) := by
  rw [read]
  cases disk.locate workplace file.text with
  | error fault => simp [bind, Except.bind]
  | ok target =>
    cases target with
    | found place entry =>
      cases entry with
      | file bytes => simp [bind, Except.bind, pure, Except.pure]
      | directory => simp [bind, Except.bind, throw, throwThe, MonadExceptOf.throw]
    | vacant place => simp [bind, Except.bind, throw, throwThe, MonadExceptOf.throw]

/-- What has been written is read. -/
lemma read_write {file : Path} {written : Disk}
    (h : disk.write workplace file bytes = .ok written) :
    written.read workplace file = .ok bytes := by
  obtain ⟨hNull, hNil, hSize, front, name, directory, hParts, hFront, hDot, hUp, hPart, -, hPut⟩ :=
    exists_put_of_write h
  have hDirectory := (keeps_write h hParts).follow_directory hFront
  refine read_eq_ok_iff.2 ⟨directory ++ [name], locate_eq_ok_iff.2 ⟨hNull, hNil, hSize, ?_⟩⟩
  rw [hParts, follow_append hDirectory, follow_cons hDot hUp hPart, hPut,
    lookup?_put_self (by simp)]
  rfl

/-- What a file holds is kept if files of its name may not change. -/
lemma Keeps.read {file : Path} (h : Keeps changing before after)
    (hRead : before.read workplace file = .ok bytes)
    (hParts : file.text.pathParts = front ++ [name])
    (hKept : ∀ place, place.getLast? = some name → ¬ changing place) :
    after.read workplace file = .ok bytes := by
  obtain ⟨place, hLocate⟩ := read_eq_ok_iff.1 hRead
  obtain ⟨-, -, -, hFollow⟩ := locate_eq_ok_iff.1 hLocate
  obtain ⟨directory, hTarget⟩ | ⟨_, other, directory, hOther, -, -, -, -,
    ⟨old, -, hTarget⟩ | ⟨-, hTarget⟩⟩ := follow_cases hFollow
  · simp at hTarget
  · obtain ⟨rfl, -⟩ := Target.found.inj hTarget
    obtain rfl : name = other :=
      List.singleton_inj.1 (List.append_inj_right' (hParts.symm.trans hOther) rfl)
    exact read_eq_ok_iff.2 ⟨_, h.locate_found hLocate (.inr (hKept _ List.getLast?_concat))⟩
  · simp at hTarget

end ProtoTypings.Disk
