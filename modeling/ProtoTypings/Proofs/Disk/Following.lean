import ProtoTypings.Proofs.Disk.Paths

/-!
# Following paths

What can come of following the parts of a path is said once, by `Disk.follow_cases`: a path that
leads anywhere leads to a directory, or its last part is a name in the directory that the parts
before it lead to, where a file stands or nothing does. The other facts are drawn from this one and
from `Disk.follow_append`, by which a path may be cut after any directory on its way.
-/

namespace ProtoTypings

/-- A text that can name what stands in a directory. -/
structure IsEntryName (name : Text) : Prop extends IsPathPart name where
  ne_up : name ≠ ['.', '.']
  no_null : '\x00' ∉ name
  size_le : Utf8.size name ≤ Disk.maxPartSize

instance : DecidablePred IsEntryName := fun name =>
  decidable_of_iff
    (IsPathPart name ∧ name ≠ ['.', '.'] ∧ '\x00' ∉ name ∧ Utf8.size name ≤ Disk.maxPartSize)
    ⟨fun h => ⟨h.1, h.2.1, h.2.2.1, h.2.2.2⟩,
      fun h => ⟨h.toIsPathPart, h.ne_up, h.no_null, h.size_le⟩⟩

/-- Where a path text is followed from. -/
def Place.startFor (workplace : Place) (path : Text) : Place :=
  if path.head? = some '/' then [] else workplace

namespace Disk

variable {disk : Disk} {start workplace place : Place} {front parts : List Text}
  {name path : Text} {entry : Entry} {target : Target}

@[simp]
lemma follow_nil : disk.follow start [] = .ok (.found start .directory) := rfl

/-- A part that is no dots and not too long is looked up. -/
lemma follow_cons (hDot : name ≠ ['.']) (hUp : name ≠ ['.', '.'])
    (hSize : Utf8.size name ≤ maxPartSize) :
    disk.follow start (name :: parts) =
      match disk.lookup? (start ++ [name]) with
      | some .directory => disk.follow (start ++ [name]) parts
      | some (.file bytes) =>
        if parts = [] then .ok (.found (start ++ [name]) (.file bytes)) else .error .notDirectory
      | none => if parts = [] then .ok (.vacant (start ++ [name])) else .error .missing :=
  (if_neg hDot).trans ((if_neg hUp).trans (if_neg (Nat.not_lt.2 hSize)))

/-- A path that is followed to an end begins with dots, with the name of a directory in which the
rest is followed, or with its last part. -/
lemma follow_cons_eq_ok (h : disk.follow start (name :: parts) = .ok target) :
    (name = ['.'] ∧ disk.follow start parts = .ok target) ∨
    (name = ['.', '.'] ∧ disk.follow start.dropLast parts = .ok target) ∨
    name ≠ ['.'] ∧ name ≠ ['.', '.'] ∧ Utf8.size name ≤ maxPartSize ∧
      ((disk.lookup? (start ++ [name]) = some .directory ∧
          disk.follow (start ++ [name]) parts = .ok target) ∨
        (parts = [] ∧ ∃ bytes, disk.lookup? (start ++ [name]) = some (.file bytes) ∧
          target = .found (start ++ [name]) (.file bytes)) ∨
        (parts = [] ∧ disk.lookup? (start ++ [name]) = none ∧
          target = .vacant (start ++ [name]))) := by
  by_cases hDot : name = ['.']
  · subst hDot
    exact .inl ⟨rfl, h⟩
  by_cases hUp : name = ['.', '.']
  · subst hUp
    exact .inr (.inl ⟨rfl, h⟩)
  by_cases hSize : Utf8.size name ≤ maxPartSize
  · refine .inr (.inr ⟨hDot, hUp, hSize, ?_⟩)
    rw [follow_cons hDot hUp hSize] at h
    cases hLookup : disk.lookup? (start ++ [name]) with
    | none =>
      simp only [hLookup] at h
      split at h
      · next hLast => exact .inr (.inr ⟨hLast, rfl, by simpa using h.symm⟩)
      · simp at h
    | some entry =>
      cases entry with
      | directory => exact .inl ⟨rfl, by simpa [hLookup] using h⟩
      | file bytes =>
        simp only [hLookup] at h
        split at h
        · next hLast => exact .inr (.inl ⟨hLast, bytes, rfl, by simpa using h.symm⟩)
        · simp at h
  · rw [follow, if_neg hDot, if_neg hUp, if_pos (Nat.not_le.1 hSize)] at h
    simp at h

/-- A path may be cut where it has led to a directory. -/
lemma follow_append (h : disk.follow start front = .ok (.found place .directory))
    (parts : List Text) : disk.follow start (front ++ parts) = disk.follow place parts := by
  -- every part moves the start, by dots to places that are not below it
  induction front generalizing start with
  | nil =>
    obtain ⟨rfl, -⟩ := Target.found.inj (Except.ok.inj h)
    rfl
  | cons name later ih =>
    rw [List.cons_append]
    obtain ⟨rfl, h⟩ | ⟨rfl, h⟩ | ⟨hDot, hUp, hSize, h⟩ := follow_cons_eq_ok h
    · exact ih h
    · exact ih h
    · obtain ⟨hLookup, h⟩ | ⟨-, bytes, -, hTarget⟩ | ⟨-, -, hTarget⟩ := h
      · rw [follow_cons hDot hUp hSize, hLookup]
        exact ih h
      · simp at hTarget
      · simp at hTarget

/-- A path that goes on leads through a directory. -/
lemma directory_of_follow_append (h : disk.follow start (front ++ parts) = .ok target)
    (hMore : parts ≠ []) :
    ∃ place, disk.follow start front = .ok (.found place .directory) ∧
      disk.follow place parts = .ok target := by
  induction front generalizing start with
  | nil => exact ⟨start, rfl, h⟩
  | cons name later ih =>
    rw [List.cons_append] at h
    obtain ⟨rfl, h⟩ | ⟨rfl, h⟩ | ⟨hDot, hUp, hSize, h⟩ := follow_cons_eq_ok h
    · exact ih h
    · exact ih h
    · obtain ⟨hLookup, h⟩ | ⟨hLast, -⟩ | ⟨hLast, -⟩ := h
      · obtain ⟨place, hFront, hParts⟩ := ih h
        refine ⟨place, ?_, hParts⟩
        rw [follow_cons hDot hUp hSize, hLookup]
        exact hFront
      · exact absurd (List.append_eq_nil_iff.1 hLast).2 hMore
      · exact absurd (List.append_eq_nil_iff.1 hLast).2 hMore

/-- What can come of following a path that leads anywhere. -/
lemma follow_cases (h : disk.follow start parts = .ok target) :
    (∃ place, target = .found place .directory) ∨
    ∃ front name place, parts = front ++ [name] ∧
      disk.follow start front = .ok (.found place .directory) ∧
      name ≠ ['.'] ∧ name ≠ ['.', '.'] ∧ Utf8.size name ≤ maxPartSize ∧
      ((∃ bytes, disk.lookup? (place ++ [name]) = some (.file bytes) ∧
          target = .found (place ++ [name]) (.file bytes)) ∨
        (disk.lookup? (place ++ [name]) = none ∧ target = .vacant (place ++ [name]))) := by
  rcases List.eq_nil_or_concat parts with rfl | ⟨front, name, rfl⟩
  · exact .inl ⟨start, (Except.ok.inj h).symm⟩
  · rw [List.concat_eq_append] at h ⊢
    obtain ⟨place, hFront, hName⟩ := directory_of_follow_append h (by simp)
    obtain ⟨-, hName⟩ | ⟨-, hName⟩ | ⟨hDot, hUp, hSize, hName⟩ := follow_cons_eq_ok hName
    · exact .inl ⟨_, (Except.ok.inj hName).symm⟩
    · exact .inl ⟨_, (Except.ok.inj hName).symm⟩
    · obtain ⟨-, hName⟩ | ⟨-, hFile⟩ | ⟨-, hNone⟩ := hName
      · exact .inl ⟨_, (Except.ok.inj hName).symm⟩
      · exact .inr ⟨front, name, place, rfl, hFront, hDot, hUp, hSize, .inl hFile⟩
      · exact .inr ⟨front, name, place, rfl, hFront, hDot, hUp, hSize, .inr hNone⟩

/-- Parts that are a single dot make no difference on the way to a directory. -/
lemma follow_filter_dots (h : disk.follow start parts = .ok (.found place .directory)) :
    disk.follow start (parts.filter (· ≠ ['.'])) = .ok (.found place .directory) := by
  induction parts generalizing start with
  | nil => exact h
  | cons name later ih =>
    obtain ⟨rfl, h⟩ | ⟨rfl, h⟩ | ⟨hDot, hUp, hSize, h⟩ := follow_cons_eq_ok h
    · exact ih h
    · rw [List.filter_cons_of_pos (by decide)]
      exact ih h
    · rw [List.filter_cons_of_pos (by simpa using hDot), follow_cons hDot hUp hSize]
      obtain ⟨hLookup, h⟩ | ⟨-, bytes, -, hTarget⟩ | ⟨-, -, hTarget⟩ := h
      · rw [hLookup]
        exact ih h
      · simp at hTarget
      · simp at hTarget

/-! ## Locating -/

lemma locate_eq_ok_iff :
    disk.locate workplace path = .ok target ↔
      '\x00' ∉ path ∧ path ≠ [] ∧ Utf8.size path ≤ maxPathSize ∧
        disk.follow (workplace.startFor path) path.pathParts = .ok target := by
  rw [locate]
  by_cases hNull : '\x00' ∈ path
  · simp [hNull]
  by_cases hNil : path = []
  · simp [hNil]
  by_cases hSize : maxPathSize < Utf8.size path
  · simp [hNull, hNil, hSize]
  · rw [if_neg (by simpa using hNull), if_neg hNil, if_neg hSize]
    simp only [hNull, hNil, not_false_eq_true, ne_eq, Nat.not_lt.1 hSize, true_and]
    change Except.mapError _ (disk.follow (workplace.startFor path) _) = _ ↔ _
    cases disk.follow (workplace.startFor path) path.pathParts <;> simp [Except.mapError]

end Disk

end ProtoTypings
