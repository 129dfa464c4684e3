import ProtoTypings.Disk.Basic
import ProtoTypings.Proofs.Lines

/-!
# Paths and their texts

A path text falls into parts at its slashes, and joining parts by slashes gives a text with these
parts again (`Text.pathParts_joinWith`). A tidy path is therefore the path that its own text stands
for (`Path.ofText_text`): this is what lets a path found below a directory be handed on as a text.

The text of a place has one slash before each part, so a place has a longer text than any that
encloses it.
-/

namespace ProtoTypings

/-! ## Parts of a path text -/

/-- A text that can be a part of a tidy path. -/
structure IsPathPart (part : Text) : Prop where
  ne_nil : part ≠ []
  no_slash : '/' ∉ part
  ne_dot : part ≠ ['.']

instance : DecidablePred IsPathPart := fun part =>
  decidable_of_iff (part ≠ [] ∧ '/' ∉ part ∧ part ≠ ['.'])
    ⟨fun h => ⟨h.1, h.2.1, h.2.2⟩, fun h => ⟨h.ne_nil, h.no_slash, h.ne_dot⟩⟩

namespace Text

@[simp]
lemma pathParts_nil : pathParts [] = [] := rfl

/-- Slashes part whatever stands on their two sides. -/
lemma pathParts_append_slash (front later : Text) :
    pathParts (front ++ '/' :: later) = pathParts front ++ pathParts later := by
  rw [pathParts, List.splitOn_append_cons_self, List.filter_append]
  rfl

lemma pathParts_slash (later : Text) : pathParts ('/' :: later) = pathParts later :=
  pathParts_append_slash [] later

lemma pathParts_singleton {part : Text} (hNil : part ≠ []) (hSlash : '/' ∉ part) :
    pathParts part = [part] := by
  simp [pathParts, List.splitOn_eq_singleton hSlash, hNil]

lemma pathParts_joinWith {parts : List Text} (h : ∀ part ∈ parts, part ≠ [] ∧ '/' ∉ part) :
    pathParts (joinWith ['/'] parts) = parts := by
  by_cases hNone : parts = []
  · subst hNone
    rfl
  · rw [pathParts, joinWith, List.splitOn_intercalate '/' (fun part hp => (h part hp).2) hNone,
      List.filter_eq_self]
    intro part hp
    simpa using (h part hp).1

lemma of_mem_pathParts {text part : Text} (h : part ∈ pathParts text) : part ≠ [] ∧ '/' ∉ part := by
  obtain ⟨hSplit, hNil⟩ := List.mem_filter.1 h
  exact ⟨by simpa using hNil, not_mem_of_mem_splitOn hSplit⟩

/-- The characters of a part come from the path text. -/
lemma mem_of_mem_pathParts {text part : Text} {c : Char} (h : part ∈ pathParts text)
    (hc : c ∈ part) : c ∈ text := by
  replace h := (List.mem_filter.1 h).1
  induction text generalizing part with
  | nil =>
    obtain rfl : part = [] := by simpa using h
    simp at hc
  | cons d rest ih =>
    rw [List.splitOn_cons_eq_if_modifyHead] at h
    split at h
    · rcases List.mem_cons.1 h with rfl | h
      · simp at hc
      · exact List.mem_cons_of_mem _ (ih hc h)
    · obtain ⟨first, later, hPieces⟩ := List.exists_cons_of_ne_nil (List.splitOn_ne_nil '/' rest)
      rw [hPieces] at h ih
      rcases List.mem_cons.1 h with rfl | h
      · rcases List.mem_cons.1 hc with rfl | hc
        · exact List.mem_cons_self
        · exact List.mem_cons_of_mem _ (ih hc List.mem_cons_self)
      · exact List.mem_cons_of_mem _ (ih hc (List.mem_cons_of_mem _ h))

lemma mem_joinWith {glue : Text} {parts : List Text} {c : Char} (h : c ∈ joinWith glue parts) :
    c ∈ glue ∨ ∃ part ∈ parts, c ∈ part := by
  induction parts with
  | nil => simp [joinWith] at h
  | cons part later ih =>
    cases later with
    | nil => exact .inr ⟨part, List.mem_cons_self, by simpa using h⟩
    | cons next later =>
      rw [joinWith_cons_cons, List.mem_append, List.mem_append] at h
      rcases h with h | h | h
      · exact .inr ⟨part, List.mem_cons_self, h⟩
      · exact .inl h
      · obtain hGlue | ⟨other, hOther, hc⟩ := ih h
        · exact .inl hGlue
        · exact .inr ⟨other, List.mem_cons_of_mem _ hOther, hc⟩

/-- A name inside a directory is the last part of the path text. -/
lemma pathParts_inDirectory (directory : Text) {name : Text} (hNil : name ≠ [])
    (hSlash : '/' ∉ name) :
    pathParts (inDirectory directory name) = pathParts directory ++ [name] := by
  rw [inDirectory]
  split
  · next h =>
    rcases h with rfl | h
    · exact pathParts_singleton hNil hSlash
    · obtain ⟨front, rfl⟩ := List.getLast?_eq_some_iff.1 h
      rw [List.append_assoc, List.singleton_append, pathParts_append_slash,
        pathParts_append_slash, pathParts_singleton hNil hSlash, pathParts_nil, List.append_nil]
  · rw [pathParts_append_slash, pathParts_singleton hNil hSlash]

end Text

/-! ## Tidy paths -/

namespace Path

/-- Whether a path is in the form that a text gives. -/
structure IsTidy (path : Path) : Prop where
  root : path.root = [] ∨ path.root = ['/'] ∨ path.root = ['/', '/']
  parts : ∀ part ∈ path.parts, IsPathPart part

lemma isTidy_ofText (text : Text) : (ofText text).IsTidy where
  root := by
    rw [ofText]
    unfold rootOf
    split <;> simp
  parts part h := by
    obtain ⟨hPart, hDot⟩ := List.mem_filter.1 h
    obtain ⟨hNil, hSlash⟩ := Text.of_mem_pathParts hPart
    exact ⟨hNil, hSlash, by simpa using hDot⟩

lemma IsTidy.below {path : Path} (h : path.IsTidy) {parts : List Text}
    (hParts : ∀ part ∈ parts, IsPathPart part) : (path.below parts).IsTidy where
  root := h.root
  parts := by
    intro part hp
    rcases List.mem_append.1 hp with hp | hp
    · exact h.parts part hp
    · exact hParts part hp

/-- The parts of a tidy path are those of its text. -/
lemma IsTidy.pathParts_text {path : Path} (h : path.IsTidy) (hSome : path.parts ≠ []) :
    path.text.pathParts = path.parts := by
  have hJoin : Text.pathParts (Text.joinWith ['/'] path.parts) = path.parts :=
    Text.pathParts_joinWith fun part hp => ⟨(h.parts part hp).ne_nil, (h.parts part hp).no_slash⟩
  rw [text, if_neg fun hEmpty => hSome hEmpty.2]
  rcases h.root with hRoot | hRoot | hRoot <;> rw [hRoot]
  · exact hJoin
  · exact (Text.pathParts_slash _).trans hJoin
  · exact (Text.pathParts_slash _).trans ((Text.pathParts_slash _).trans hJoin)

/-- Parts that are joined do not begin with a slash. -/
lemma head?_joinWith {parts : List Text} (h : ∀ part ∈ parts, IsPathPart part) :
    (Text.joinWith ['/'] parts).head? ≠ some '/' := by
  cases parts with
  | nil => simp [Text.joinWith]
  | cons part later =>
    obtain ⟨hNil, hSlash, -⟩ := h part List.mem_cons_self
    obtain ⟨c, rest, rfl⟩ := List.exists_cons_of_ne_nil hNil
    have hc : c ≠ '/' := fun hEq => hSlash (hEq ▸ List.mem_cons_self)
    cases later with
    | nil => simpa using hc
    | cons next later => simpa [Text.joinWith_cons_cons] using hc

lemma rootOf_append {root rest : Text} (hRoot : root = [] ∨ root = ['/'] ∨ root = ['/', '/'])
    (hRest : rest.head? ≠ some '/') : rootOf (root ++ rest) = root := by
  have hNone : rootOf rest = [] := by
    unfold rootOf
    split <;> simp_all
  rcases hRoot with rfl | rfl | rfl
  · exact hNone
  · cases rest with
    | nil => rfl
    | cons c rest =>
      have hc : c ≠ '/' := by simpa using hRest
      simp [rootOf, hc]
  · cases rest with
    | nil => rfl
    | cons c rest =>
      have hc : c ≠ '/' := by simpa using hRest
      simp [rootOf, hc]

/-- A tidy path is the path that its text stands for. -/
lemma IsTidy.ofText_text {path : Path} (h : path.IsTidy) : ofText path.text = path := by
  by_cases hSome : path.parts = []
  · obtain ⟨root, parts⟩ := path
    obtain rfl : parts = [] := hSome
    rcases h.root with hRoot | hRoot | hRoot <;> obtain rfl : root = _ := hRoot <;> rfl
  · have hRootOf : rootOf path.text = path.root := by
      rw [text, if_neg fun hEmpty => hSome hEmpty.2]
      exact rootOf_append h.root (head?_joinWith h.parts)
    have hDots : path.parts.filter (· ≠ ['.']) = path.parts := by
      rw [List.filter_eq_self]
      intro part hp
      simpa using (h.parts part hp).ne_dot
    rw [ofText, hRootOf, h.pathParts_text hSome, hDots]

/-- The text of a tidy path leads from the root of the disk exactly if the path does. -/
lemma IsTidy.head?_text {path : Path} (h : path.IsTidy) :
    path.text.head? = some '/' ↔ path.root ≠ [] := by
  rw [text]
  split
  · next hEmpty => simp [hEmpty.1]
  · rcases h.root with hRoot | hRoot | hRoot <;> rw [hRoot]
    · simpa using head?_joinWith h.parts
    · simp
    · simp

/-- What a path text has besides its parts are slashes and the dot of the empty path. -/
lemma IsTidy.mem_text {path : Path} (h : path.IsTidy) {c : Char} (hc : c ∈ path.text) :
    c = '.' ∨ c = '/' ∨ ∃ part ∈ path.parts, c ∈ part := by
  rw [text] at hc
  split at hc
  · exact .inl (List.mem_singleton.1 hc)
  · rcases List.mem_append.1 hc with hc | hc
    · rcases h.root with hRoot | hRoot | hRoot <;> rw [hRoot] at hc <;> simp_all
    · exact .inr ((Text.mem_joinWith hc).imp_left List.mem_singleton.1)

lemma rootOf_ne_nil_iff {text : Text} : rootOf text ≠ [] ↔ text.head? = some '/' := by
  cases text with
  | nil => simp [rootOf]
  | cons c rest =>
    by_cases hc : c = '/'
    · subst hc
      unfold rootOf
      split <;> simp_all
    · simp [rootOf, hc]

lemma sublist_joinWith {glue : Text} {short long : List Text} (h : short.Sublist long) :
    (Text.joinWith glue short).Sublist (Text.joinWith glue long) := by
  induction h with
  | slnil => exact .slnil
  | @cons short long part h ih =>
    cases long with
    | nil =>
      obtain rfl := List.sublist_nil.1 h
      exact List.nil_sublist _
    | cons next later =>
      rw [Text.joinWith_cons_cons]
      exact (ih.trans (List.sublist_append_right glue _)).trans (List.sublist_append_right part _)
  | @cons_cons short long part h ih =>
    cases short with
    | nil =>
      cases long with
      | nil => exact List.Sublist.refl _
      | cons next later =>
        rw [Text.joinWith_singleton, Text.joinWith_cons_cons]
        exact List.sublist_append_left part _
    | cons first rest =>
      cases long with
      | nil => exact absurd h (by simp)
      | cons next later =>
        rw [Text.joinWith_cons_cons, Text.joinWith_cons_cons]
        exact (ih.append_left glue).append_left part

/-- The slashes that a tidy path keeps in front stand in front of its text. -/
lemma exists_rootOf_append (text : Text) :
    ∃ rest, text = rootOf text ++ rest ∧ rest.pathParts = text.pathParts := by
  unfold rootOf
  split
  · exact ⟨_, rfl, (Text.pathParts_slash _).symm⟩
  · exact ⟨_, rfl, ((Text.pathParts_slash _).trans (Text.pathParts_slash _)).symm⟩
  · exact ⟨_, rfl, (Text.pathParts_slash _).symm⟩
  · exact ⟨_, rfl, rfl⟩

/-- Tidying a path leaves out characters of its text. -/
lemma sublist_text_ofText {text : Text} (h : (ofText text).parts ≠ []) :
    (ofText text).text.Sublist text := by
  obtain ⟨rest, hText, hParts⟩ := exists_rootOf_append text
  have hSublist : (ofText text).parts.Sublist (rest.splitOn '/') := by
    rw [ofText, ← hParts]
    exact List.filter_sublist.trans List.filter_sublist
  have hRest : Text.joinWith ['/'] (rest.splitOn '/') = rest := List.intercalate_splitOn '/'
  have hJoin : (Text.joinWith ['/'] (ofText text).parts).Sublist rest :=
    hRest ▸ sublist_joinWith hSublist
  rw [Path.text, if_neg fun hEmpty => h hEmpty.2]
  conv_rhs => rw [hText]
  exact hJoin.append_left (rootOf text)

/-! ## Stems -/

lemma stem_subset (path : Path) : path.stem ⊆ path.name := by
  rw [stem]
  split
  · next hDropped =>
    intro c hc
    have hSuffix := List.dropWhile_suffix (l := path.name.reverse) (· ≠ '.')
    rw [hDropped] at hSuffix
    exact List.mem_reverse.1 (hSuffix.subset (List.mem_cons_of_mem _ (List.mem_reverse.1 hc)))
  · exact fun c hc => hc

end Path

/-! ## Places -/

/-- The text of a place has a slash before each part. -/
lemma Place.text_path {place : Place} (h : place ≠ []) :
    place.path.text = place.flatMap ('/' :: ·) := by
  rw [Place.path, Path.text, if_neg (by simp)]
  induction place with
  | nil => exact absurd rfl h
  | cons part later ih =>
    cases later with
    | nil => simp
    | cons next later =>
      rw [List.flatMap_cons, ← ih (by simp), Text.joinWith_cons_cons]
      simp

namespace Utf8

lemma size_le_of_sublist {short long : Text} (h : short.Sublist long) : size short ≤ size long := by
  rw [← length_encode, ← length_encode]
  exact (h.flatMap String.utf8EncodeChar).length_le

/-- A name has the longer path, the deeper the directory is that holds it. -/
lemma size_path_le {outer inner : Place} (h : outer <+: inner) (name : Text) :
    size (Place.path (outer ++ [name])).text ≤ size (Place.path (inner ++ [name])).text := by
  rw [Place.text_path (by simp), Place.text_path (by simp)]
  exact size_le_of_sublist ((h.sublist.append_right [name]).flatMap _)

end Utf8

end ProtoTypings
