import ProtoTypings.Command.Run
import ProtoTypings.Proofs.Decoding
import ProtoTypings.Proofs.Disk.Trees
import ProtoTypings.Proofs.Formatting

/-!
# Schemas below a directory

The search for schemas comes upon the entries below a directory whose names end with the extension
of a schema, once each and in the order of their paths. The path it gives leads back to the entry it
stands for, and so says what the schema is: the document depends on the entry only
(`Workspace.Finds.translation_eq`).

Documents are written to files of another extension. A run may write them among the schemas, but
the entries of schemas stay as they are, and with them all that a translation depends on
(`Workspace.Continues`).
-/

namespace ProtoTypings

open Workspace (schemaExtension)

/-! ## What a schema's entry gives -/

/-- The text of a schema, by its path and by what stands there. -/
def Entry.text (schema : Text) (entry : Entry) : Except Fault Text :=
  if Disk.maxPathSize < Utf8.size schema then
    .error (.source (.unreadable schema (.disk (.refused .nameTooLong schema))))
  else
    match entry with
    | .directory => .error (.source (.unreadable schema (.disk (.refused .isDirectory schema))))
    | .file bytes =>
      (Utf8.decodeFile bytes).mapError fun fault => .source (.unreadable schema (.encoding fault))

/-- The document of a schema before it is formatted, by its path and by what stands there. -/
def Entry.translation (options : Options) (schema : Text) (entry : Entry) : Except Fault Text := do
  let options ← options.resolve.mapError .configuration
  let text ← entry.text schema
  if text = [] then throw (.configuration .noSchema)
  (generate options text).mapError .configuration

namespace Entry

/-- Whether no schema can be read by a path from what stands there: the path is too long, a
directory stands there, or a file that is empty or cannot be decoded. -/
def IsUnreadable (schema : Text) (entry : Entry) : Prop :=
  Disk.maxPathSize < Utf8.size schema ∨ entry = .directory ∨
    ∃ bytes, entry = .file bytes ∧ (bytes = [] ∨ ∃ fault, Utf8.decode bytes = .error fault)

/-- What reading an entry comes to. -/
lemma text_cases (schema : Text) (entry : Entry) :
    (entry.IsUnreadable schema ∧
      ((∃ fault, entry.text schema = .error (.source fault)) ∨ entry.text schema = .ok [])) ∨
    ¬ entry.IsUnreadable schema ∧ ∃ text, entry.text schema = .ok text ∧ text ≠ [] := by
  unfold Entry.text IsUnreadable
  by_cases hLong : Disk.maxPathSize < Utf8.size schema
  · rw [if_pos hLong]
    exact .inl ⟨.inl hLong, .inl ⟨_, rfl⟩⟩
  rw [if_neg hLong]
  -- the path is not too long, so it is up to what stands there
  cases entry with
  | directory => exact .inl ⟨.inr (.inl rfl), .inl ⟨_, rfl⟩⟩
  | file bytes =>
    simp only [Utf8.decodeFile, hLong, reduceCtorEq, file.injEq, exists_eq_left', false_or]
    cases hDecode : Utf8.decode bytes with
    | error fault => exact .inl ⟨.inr ⟨fault, rfl⟩, .inl ⟨_, rfl⟩⟩
    | ok text =>
      by_cases hNil : bytes = []
      · subst hNil
        obtain rfl : [] = text := Except.ok.inj hDecode
        exact .inl ⟨.inl rfl, .inr rfl⟩
      · refine .inr ⟨by simp [hNil], _, rfl, fun hText => ?_⟩
        rw [Text.eq_nil_of_unifyLineEnds hText] at hDecode
        exact hNil (Utf8.decodeFrom_eq_nil hDecode).2

/-- A schema gives no document exactly if the options are refused or it cannot be read, and the
fault is then one that the command expects. -/
lemma translation_cases (options : Options) (schema : Text) (entry : Entry) :
    (((∃ fault, options.resolve = .error fault) ∨ entry.IsUnreadable schema) ∧
      ∃ fault, entry.translation options schema = .error fault ∧ ∀ cause, fault ≠ .disk cause) ∨
    ¬ ((∃ fault, options.resolve = .error fault) ∨ entry.IsUnreadable schema) ∧
      ∃ document, entry.translation options schema = .ok document := by
  rw [translation]
  cases hResolve : options.resolve with
  | error fault => exact .inl ⟨.inl ⟨fault, rfl⟩, _, rfl, by simp⟩
  | ok resolved =>
    simp only [reduceCtorEq, exists_false, false_or, bind, Except.bind, Except.mapError]
    obtain ⟨hUnreadable, ⟨fault, hText⟩ | hText⟩ | ⟨hReadable, text, hText, hNil⟩ :=
      text_cases schema entry
    · rw [hText]
      exact .inl ⟨hUnreadable, _, rfl, by simp⟩
    · rw [hText]
      exact .inl ⟨hUnreadable, _, rfl, by simp⟩
    · obtain ⟨document, hDocument⟩ := exists_generate_of_resolve hResolve hNil
      simp only [hText, if_neg hNil, hDocument]
      exact .inr ⟨hReadable, document, rfl⟩

end Entry

/-! ## What the search comes upon -/

namespace Workspace

variable {workspace after : Workspace} {directory schema : Text} {place : Place} {entry : Entry}

/-- Whether the search below a directory comes upon an entry, and by which path. -/
def Finds (workspace : Workspace) (directory schema : Text) (place : Place) (entry : Entry) :
    Prop :=
  (place, entry) ∈ workspace.disk.entries ∧
    ∃ root front name,
      workspace.disk.locate workspace.workplace directory = .ok (.found root .directory) ∧
        place = root ++ (front ++ [name]) ∧ schemaExtension <:+ name ∧
        schema = ((Path.ofText directory).below (front ++ [name])).text

lemma mem_schemasBelow_iff :
    schema ∈ workspace.schemasBelow directory ↔
      ∃ place entry, workspace.Finds directory schema place entry := by
  rw [schemasBelow]
  split
  · next root hLocate =>
    simp only [List.mem_mergeSort, List.mem_filterMap, Prod.exists, Disk.mem_below_iff,
      Option.ite_none_right_eq_some, List.isSuffixOf_iff_suffix]
    constructor
    · rintro ⟨parts, entry, ⟨hMem, hParts⟩, hName, hSchema⟩
      obtain ⟨front, name, rfl⟩ := (List.eq_nil_or_concat parts).resolve_left hParts
      rw [List.concat_eq_append] at hMem hName hSchema
      rw [List.getLast?_concat] at hName
      exact ⟨_, entry, hMem, root, front, name, hLocate, rfl, hName,
        (Option.some.inj hSchema).symm⟩
    · rintro ⟨_, entry, hMem, root', front, name, hLocate', rfl, hName, rfl⟩
      obtain ⟨rfl, -⟩ := Target.found.inj (Except.ok.inj (hLocate.symm.trans hLocate'))
      exact ⟨front ++ [name], entry, ⟨hMem, by simp⟩, by simpa using hName, rfl⟩
  · next hNone =>
    simp only [List.not_mem_nil, false_iff]
    rintro ⟨_, _, -, root, _, _, hLocate, -⟩
    exact hNone root hLocate

lemma pairwise_schemasBelow (workspace : Workspace) (directory : Text) :
    (workspace.schemasBelow directory).Pairwise fun one other => one.notAfter other = true := by
  rw [schemasBelow]
  split
  · exact @List.pairwise_mergeSort _ Text.notAfter (fun _ _ _ => Text.notAfter_trans)
      Text.notAfter_total _
  · exact List.Pairwise.nil

/-- Paths that are found in order stay in order. -/
lemma schemasBelow_of_pairwise {root : Place} {found : List Text}
    (hLocate : workspace.disk.locate workspace.workplace directory = .ok (.found root .directory))
    (hFound : ((workspace.disk.below root).filterMap fun (parts, _) =>
      if schemaExtension.isSuffixOf (parts.getLast?.getD []) then
        some ((Path.ofText directory).below parts).text
      else none) = found)
    (hOrder : found.Pairwise fun one other => one.notAfter other = true) :
    workspace.schemasBelow directory = found := by
  rw [schemasBelow, hLocate]
  simp only [hFound]
  exact List.mergeSort_of_pairwise hOrder

/-- The search gives no path twice. -/
lemma nodup_schemasBelow (hTree : workspace.disk.IsTree) (directory : Text) :
    (workspace.schemasBelow directory).Nodup := by
  rw [schemasBelow]
  split
  · next root _ =>
    rw [(List.mergeSort_perm _ _).nodup_iff, List.nodup_iff_pairwise_ne, List.pairwise_filterMap]
    refine (hTree.pairwise_below root).imp_of_mem ?_
    rintro ⟨one, _⟩ ⟨other, _⟩ hOne hOther hne path hOnePath otherPath hOtherPath rfl
    rw [Option.ite_none_right_eq_some] at hOnePath hOtherPath
    have hOneTidy := hTree.isTidy_below (Disk.mem_below_iff.1 hOne).1 directory
    have hOtherTidy := hTree.isTidy_below (Disk.mem_below_iff.1 hOther).1 directory
    have hSame : (Path.ofText directory).below one = (Path.ofText directory).below other := by
      rw [← hOneTidy.ofText_text, ← hOtherTidy.ofText_text, Option.some.inj hOnePath.2,
        Option.some.inj hOtherPath.2]
    exact hne (List.append_cancel_left (Path.mk.inj hSame).2)
  · exact List.nodup_nil

namespace Finds

/-- The path that the search gives stands for itself. -/
lemma text_ofText (h : workspace.Finds directory schema place entry)
    (hTree : workspace.disk.IsTree) : (Path.ofText schema).text = schema := by
  obtain ⟨hMem, root, front, name, -, rfl, -, rfl⟩ := h
  rw [(hTree.isTidy_below hMem directory).ofText_text]

/-- The path that the search gives leads to the entry, unless it is too long, and still does so on a
disk that has kept the entry. -/
lemma locate_eq (h : workspace.Finds directory schema place entry) (hTree : workspace.disk.IsTree)
    {changing : Place → Prop} {later : Disk} (hKeeps : workspace.disk.Keeps changing later)
    (hPlace : ¬ changing place) :
    later.locate workspace.workplace schema =
      if Disk.maxPathSize < Utf8.size schema then .error (.refused .nameTooLong schema)
      else .ok (.found place entry) := by
  obtain ⟨hMem, root, front, name, hLocate, rfl, -, rfl⟩ := h
  exact hTree.locate_below hMem (by simp) hLocate hKeeps hPlace

lemma not_changing (h : workspace.Finds directory schema place entry) :
    schemaExtension <:+ place.getLast?.getD [] := by
  obtain ⟨-, root, front, name, -, rfl, hName, -⟩ := h
  simpa [← List.append_assoc] using hName

end Finds

/-! ## Going on -/

/-- Whether a workspace comes from another by making directories and writing files that are no
schemas. -/
structure Continues (before after : Workspace) : Prop where
  workplace_eq : after.workplace = before.workplace
  formatter_eq : after.formatter = before.formatter
  keeps : before.disk.Keeps (fun place => ¬ schemaExtension <:+ place.getLast?.getD []) after.disk

namespace Continues

protected lemma refl (workspace : Workspace) : workspace.Continues workspace :=
  ⟨rfl, rfl, .refl _ _⟩

lemma isSearchable (h : workspace.Continues after) (hSearch : workspace.IsSearchable) :
    after.IsSearchable where
  stands := by
    rw [h.workplace_eq]
    exact h.keeps.follow_directory hSearch.stands
  room := by
    rw [h.workplace_eq]
    exact hSearch.room

end Continues

/-- What a found schema gives is settled by its entry, however far the run has gone on. -/
lemma Finds.translation_eq (h : workspace.Finds directory schema place entry)
    (hTree : workspace.disk.IsTree) (hAfter : workspace.Continues after) (options : Options) :
    after.translation options (.path (.ofText schema)) = entry.translation options schema := by
  have hLocate := h.locate_eq hTree hAfter.keeps (not_not.2 h.not_changing)
  rw [← hAfter.workplace_eq] at hLocate
  have hContent : (Source.path (.ofText schema)).content after.disk after.workplace
      = entry.text schema := by
    rw [Source.content, Source.readFile, Disk.read, h.text_ofText hTree, hLocate]
    unfold Entry.text
    by_cases hLong : Disk.maxPathSize < Utf8.size schema
    · simp only [if_pos hLong]
      rfl
    · simp only [if_neg hLong]
      cases entry with
      | directory => rfl
      | file bytes =>
        simp only [bind, Except.bind, pure, Except.pure]
        cases Utf8.decodeFile bytes <;> rfl
  rw [translation, Entry.translation, Source.read, hContent]
  cases options.resolve with
  | error fault => rfl
  | ok options =>
    cases entry.text schema with
    | error fault => rfl
    | ok text =>
      simp only [bind, Except.bind, Except.mapError]
      by_cases hNil : text = []
      · simp only [if_pos hNil]
        rfl
      · simp only [if_neg hNil]
        rfl

end Workspace

end ProtoTypings
