import ProtoTypings.Proofs.Names.Words
import ProtoTypings.Proofs.Rendering

/-!
# Every access is in range

Words and characters are taken apart by their shape where lines are read, so that nothing can be out
of range there. This file renders the same lines by position instead: words, and the characters of a
word, are looked up by their index, and the library of a stream mode by the mode. A look-up that
finds nothing is a `Miss`, and so is a body nested deeper than a given limit.

The main statement is `Checked.document_eq`: whatever the schema, no look-up misses, and the
document is the one that is generated. The limit only has to exceed the number of words of every
line.
-/

namespace ProtoTypings

/-- Why something that is looked up is not there. -/
inductive Miss where
  /-- Nothing stands at the index. -/
  | index
  /-- The stream mode has no library. -/
  | library
  /-- The bodies on a line are nested deeper than the limit. -/
  | depth
  deriving DecidableEq, Repr

namespace Checked

/-- The entry at an index. -/
def entry {α : Type} (list : List α) (index : Nat) : Except Miss α :=
  match list[index]? with
  | some found => .ok found
  | none => .error .index

/-- The last entry. -/
def lastEntry {α : Type} (list : List α) : Except Miss α :=
  match list.getLast? with
  | some found => .ok found
  | none => .error .index

/-- The entry at an index, and `default` where the list is too short. -/
def entryOr {α : Type} (list : List α) (index : Nat) (default : α) : Except Miss α :=
  if index < list.length then entry list index else .ok default

@[simp]
lemma entry_zero {α : Type} (first : α) (later : List α) : entry (first :: later) 0 = .ok first :=
  rfl

lemma lastEntry_eq {α : Type} {list : List α} {last : α} (h : list.getLast? = some last) :
    lastEntry list = .ok last := by
  rw [lastEntry, h]

lemma entryOr_one {α : Type} (first : α) (later : List α) (default : α) :
    entryOr (first :: later) 1 default = .ok (later.head?.getD default) := by
  cases later <;> rfl

lemma mapM_eq_ok {α β : Type} {look : α → Except Miss β} {found : α → β} {list : List α}
    (h : ∀ a ∈ list, look a = .ok (found a)) : list.mapM look = .ok (list.map found) := by
  induction list with
  | nil => rfl
  | cons a list ih =>
    have hRest := ih fun b hb => h b (List.mem_cons_of_mem _ hb)
    rw [List.mapM_cons, h a List.mem_cons_self, hRest]
    rfl

/-! ## Names -/

/-- A word of an identifier in the converted one, by its position among the words. -/
def convertedWord (index : Nat) (word : Text) : Except Miss Text := do
  let first ← entry word 0
  let rest := Name.lowerCase (word.drop 1)
  if 0 < index ∧ first.isDigit then return '_' :: first :: rest
  return first.toUpper :: rest

/-- An identifier in Pascal case. -/
def pascal (identifier : Text) : Except Miss Text := do
  let converted ← (Name.words identifier).zipIdx.mapM fun entry => convertedWord entry.2 entry.1
  return converted.flatten

/-- An identifier in camel case. -/
def camel (identifier : Text) : Except Miss Text := do
  let words := Name.words identifier
  if words = [] then return []
  let first ← entry words 0
  let converted ← (words.zipIdx.drop 1).mapM fun entry => convertedWord entry.2 entry.1
  return Name.lowerCase first ++ converted.flatten

lemma convertedWord_zero {word : Text} (h : word ≠ []) :
    convertedWord 0 word = .ok (Name.capitalized word) := by
  obtain ⟨c, rest, rfl⟩ := List.exists_cons_of_ne_nil h
  rfl

lemma convertedWord_succ {word : Text} (h : word ≠ []) {index : Nat} (hIndex : 0 < index) :
    convertedWord index word = .ok (Name.attached word) := by
  obtain ⟨c, rest, rfl⟩ := List.exists_cons_of_ne_nil h
  rw [convertedWord, entry_zero, Name.attached]
  by_cases hDigit : c.isDigit = true
  · rw [if_pos hDigit]
    exact if_pos ⟨hIndex, hDigit⟩
  · rw [if_neg hDigit]
    exact if_neg fun hBoth => hDigit hBoth.2

lemma mapM_convertedWord {words : List Text} (h : ∀ word ∈ words, word ≠ []) :
    (words.zipIdx 1).mapM (fun entry => convertedWord entry.2 entry.1)
      = .ok (words.map Name.attached) := by
  have hEach : ∀ entry ∈ words.zipIdx 1,
      convertedWord entry.2 entry.1 = .ok (Name.attached entry.1) := by
    intro entry hEntry
    have hWord := h entry.1 (List.fst_mem_of_mem_zipIdx hEntry)
    exact convertedWord_succ hWord (List.le_snd_of_mem_zipIdx hEntry)
  rw [mapM_eq_ok hEach, ← Function.comp_def Name.attached Prod.fst, ← List.map_map,
    List.zipIdx_map_fst]

/-- Every word has a first character, so names are converted without a miss. -/
lemma pascal_eq (identifier : Text) : pascal identifier = .ok (Name.pascal identifier) := by
  have hNonempty : ∀ word ∈ Name.words identifier, word ≠ [] :=
    fun _ hWord => (Name.isNameWord_of_mem_words hWord).1
  rw [pascal, Name.pascal]
  cases hWords : Name.words identifier with
  | nil => rfl
  | cons word later =>
    rw [hWords] at hNonempty
    have hLater := mapM_convertedWord fun w hw => hNonempty w (List.mem_cons_of_mem _ hw)
    rw [List.zipIdx_cons, List.mapM_cons, convertedWord_zero (hNonempty word List.mem_cons_self)]
    simp only [bind, Except.bind, Nat.zero_add, hLater, pure, Except.pure, Name.joined,
      List.flatten_cons, List.flatMap_def]

lemma camel_eq (identifier : Text) : camel identifier = .ok (Name.camel identifier) := by
  have hNonempty : ∀ word ∈ Name.words identifier, word ≠ [] :=
    fun _ hWord => (Name.isNameWord_of_mem_words hWord).1
  rw [camel, Name.camel]
  cases hWords : Name.words identifier with
  | nil => rfl
  | cons word later =>
    rw [hWords] at hNonempty
    have hLater := mapM_convertedWord fun w hw => hNonempty w (List.mem_cons_of_mem _ hw)
    rw [if_neg (List.cons_ne_nil _ _), List.zipIdx_cons, List.drop_one, List.tail_cons]
    simp only [bind, Except.bind, entry_zero, Nat.zero_add, hLater, pure, Except.pure, Name.joined,
      List.flatMap_def]

/-- The signature of a method. -/
def signature (options : Options) (method : Method) : Except Miss Text := do
  let parameter ← camel method.request.type
  let name ← camel method.name
  let suffix := if method.request.streamed && !options.streams.strips then "Stream".toList else []
  let metadata := if options.useMetadata then ", metadata: any".toList else []
  return name ++ " (".toList
    ++ (parameter ++ suffix ++ ": ".toList ++ method.request.render options.streams ++ metadata)
    ++ "): ".toList ++ method.result options

lemma signature_eq (options : Options) (method : Method) :
    signature options method = .ok (method.signature options) := by
  rw [signature, camel_eq, camel_eq]
  rfl

/-! ## Lines -/

/-- Classifies a line that was not removed. -/
def classify (line : Text) : Except Miss ClassifiedLine :=
  if line.words = [] then return ⟨.blank, line, []⟩
  else do
    let first ← entry line.words 0
    match Keyword.ofWord? first, Label.ofWord? first with
    | some announced, _ => return ⟨.keyword announced, line, line.words⟩
    | none, some label => return ⟨.member (some label), line, line.words.drop 1⟩
    | none, none => return ⟨.member none, line, line.words⟩

lemma classify_eq (line : Text) : classify line = .ok (ClassifiedLine.of (some line)) := by
  rw [classify, ClassifiedLine.of]
  cases line.words with
  | nil => rfl
  | cons word later =>
    rw [if_neg (List.cons_ne_nil _ _), LineKind.ofWords]
    cases hKeyword : Keyword.ofWord? word <;> cases hLabel : Label.ofWord? word <;>
      simp [hKeyword, hLabel, bind, Except.bind, pure, Except.pure]

/-- Whether the words of a member make a value of an enum. -/
def isEnumValue (words : List Text) : Except Miss Bool := do
  let type ← entry words 0
  if (Scalar.ofName? type).isSome then return false
  let second ← entryOr words 1 []
  return second = ['=']

/-- The line for a member. -/
def member (session : Session) (label : Option Label) (words : List Text) :
    Except Miss (Option Text) :=
  if words = [] then return session.emptyLine
  else do
    let type ← entry words 0
    if ← isEnumValue words then return some (type ++ [','])
    let second ← entryOr words 1 []
    let name ← camel second
    let field : Field := ⟨label, type, second⟩
    return some (name ++ (if field.isOptional session.dialect then ['?'] else []) ++ ": ".toList
      ++ fieldType type ++ if label = some .repeated then "[]".toList else [])

lemma member_eq (session : Session) (label : Option Label) (words : List Text) :
    member session label words
      = .ok ((Statement.member label words).render session.options session.dialect) := by
  cases words with
  | nil => rfl
  | cons type later =>
    rw [member, if_neg (List.cons_ne_nil _ _)]
    simp only [isEnumValue, entry_zero, entryOr_one, camel_eq, bind, Except.bind, pure, Except.pure]
    cases later with
    | nil => cases hType : Scalar.ofName? type <;> rfl
    | cons second rest =>
      rw [Statement.member]
      cases hType : Scalar.ofName? type with
      | none =>
        by_cases hSecond : second = ['=']
        · simp [hSecond, Statement.render]
        · simp only [List.head?_cons, Option.getD_some, Option.isSome_none, hSecond, decide_false,
            Bool.false_eq_true, if_false, and_false]
          rfl
      | some scalar =>
        simp only [List.head?_cons, Option.getD_some, Option.isSome_some, if_true, reduceCtorEq,
          false_and, if_false]
        rfl

/-- The line for a package, from all words of its line. -/
def package (words : List Text) : Except Miss Text := do
  let name ← pascal ((← entryOr words 1 []).filter (· ≠ ';'))
  return "export namespace ".toList ++ name ++ [' ', '\x7b']

lemma package_eq (word : Text) (later : List Text) :
    package (word :: later) = .ok (packageOpening (packageName later)) := by
  rw [package, entryOr_one]
  simp only [bind, Except.bind, pascal_eq]
  rfl

/-- The name of a block, and the words of its body where that stands on the line, from all words of
the line. -/
def blockParts (words : List Text) : Except Miss (Text × Option (List Text)) := do
  let name ← entryOr words 1 []
  let glued := name.getLast? = some '\x7b'
  let start := if glued then 2 else 3
  let name := if glued then name.dropLast else name
  if words.length ≤ start then return (name, none)
  let body := words.drop start
  let last ← lastEntry body
  return (name, some (if last = ['\x7d'] then body.dropLast else body))

lemma blockParts_eq (word : Text) (later : List Text) :
    blockParts (word :: later) = .ok ((blockHead later).1,
      if (blockHead later).2 = [] then none else some (withoutCloser (blockHead later).2)) := by
  have hDrop : ∀ {start : Nat}, (word :: later).length ≤ start + 1 ↔ later.drop start = [] := by
    intro start
    rw [List.length_cons, List.drop_eq_nil_iff]
    omega
  have hHead : ((blockHead later).1, (blockHead later).2)
      = (if (later.head?.getD []).getLast? = some '\x7b' then (later.head?.getD []).dropLast
          else later.head?.getD [],
        later.drop (if (later.head?.getD []).getLast? = some '\x7b' then 1 else 2)) := by
    cases later with
    | nil => rfl
    | cons name rest =>
      rw [blockHead]
      split
      · next h => simp [h]
      · next h => simp [h]
  obtain ⟨hName, hBody⟩ := Prod.mk.inj hHead
  rw [blockParts, entryOr_one, hName, hBody]
  simp only [bind, Except.bind, pure, Except.pure]
  generalize later.head?.getD [] = name
  have hStart : (if name.getLast? = some '\x7b' then 2 else 3)
      = (if name.getLast? = some '\x7b' then 1 else 2) + 1 := by
    split <;> rfl
  rw [hStart, List.drop_succ_cons]
  generalize (if name.getLast? = some '\x7b' then 1 else 2) = start
  by_cases hEmpty : later.drop start = []
  · rw [if_pos (hDrop.2 hEmpty), if_pos hEmpty]
  · obtain ⟨last, hLast⟩ := Option.ne_none_iff_exists'.1 (mt List.getLast?_eq_none_iff.1 hEmpty)
    rw [if_neg (mt hDrop.1 hEmpty), if_neg hEmpty, lastEntry_eq hLast, withoutCloser, hLast]
    simp only [Option.some.injEq]

/-- Renders a line that was not removed, with at most `limit` bodies inside each other. -/
def renderText (session : Session) : (limit : Nat) → Text → Except Miss (Option Text × Session)
  | 0, _ => .error .depth
  | limit + 1, line => do
    let classified ← classify line
    match classified.kind with
    | .blank => return (session.emptyLine, session)
    | .removed => return (session.emptyLine, session)
    | .keyword .comment =>
      return (if session.options.keepComments then some line else none, session)
    | .keyword .close => return (some ['\x7d'], session)
    | .keyword (.block block) =>
      match ← blockParts classified.words with
      | (name, none) => return (some (block.opening name), session)
      | (name, some []) => return (some (block.opening name ++ ['\x7d']), session)
      | (name, some (word :: later)) =>
        let (inside, after) ← renderText session limit (Text.unwords (word :: later))
        return (some (block.opening name ++ inside.getD [] ++ ['\x7d']), after)
    | .keyword .method =>
      match Method.find? line with
      | some method => return (some (← signature session.options method), session)
      | none => return (some line, session)
    | .keyword .package =>
      return (some (← package classified.words), { session with inNamespace := true })
    | .member label => return (← member session label classified.words, session)

section Lines

variable (session : Session)

/-- **No access misses while a line is rendered**, and what is rendered is the same. Every body on
the line has fewer words than the line, so a limit above their number is never reached. -/
lemma renderText_eq {limit : Nat} {line : Text} (h : line.words.length < limit) :
    renderText session limit line = .ok (session.renderText line) := by
  induction limit generalizing line with
  | zero => exact absurd h (Nat.not_lt_zero _)
  | succ limit ih =>
    rw [Session.renderText_eq, Statement.ofWords_eq, renderText, classify_eq, ClassifiedLine.of]
    rcases hKind : LineKind.ofWords line.words with ⟨kind, kept⟩
    cases kind with
    | blank => simp [bind, Except.bind, pure, Except.pure, Statement.render, Session.emptyLine,
        Session.afterStatement, Statement.namesPackage]
    | removed => simp [bind, Except.bind, pure, Except.pure, Statement.render, Session.emptyLine,
        Session.afterStatement, Statement.namesPackage]
    | member label =>
      simp [bind, Except.bind, pure, Except.pure, member_eq, Session.afterStatement]
    | keyword announced =>
      obtain rfl := LineKind.words_of_keyword hKind
      obtain ⟨word, later, hWords⟩ : ∃ word later, line.words = word :: later := by
        refine List.exists_cons_of_ne_nil ?_
        intro hNil
        rw [hNil] at hKind
        simp [LineKind.ofWords] at hKind
      cases announced with
      | comment => simp [bind, Except.bind, pure, Except.pure, Statement.render,
          Session.afterStatement, Statement.namesPackage]
      | close => simp [bind, Except.bind, pure, Except.pure, Statement.render,
          Session.afterStatement, Statement.namesPackage]
      | method =>
        cases hFind : Method.find? line <;>
          simp [signature_eq, bind, Except.bind, pure, Except.pure, Statement.render,
            Session.afterStatement, Statement.namesPackage]
      | package =>
        simp [hWords, package_eq, bind, Except.bind, pure, Except.pure, Statement.render,
          Session.afterStatement, Statement.namesPackage]
      | block block =>
        simp only [bind, Except.bind, pure, Except.pure, hWords, blockParts_eq, List.tail_cons]
        rcases hHead : blockHead later with ⟨name, _ | ⟨inner, more⟩⟩
        · simp [Statement.render, Session.afterStatement, Statement.namesPackage]
        · have hBodyWords := words_unwords_body
            (fun _ hw => Text.isWord_of_mem_words (hWords ▸ List.mem_cons_of_mem word hw)) hHead
          rcases hBody : withoutCloser (inner :: more) with _ | ⟨first, rest⟩
          · -- a body that was only a closing brace is an empty line inside the block
            cases hStrip : session.options.stripEmptyLines <;>
              simp [hBody, Statement.ofWords, Statement.render, hStrip, Session.afterStatement,
                Statement.namesPackage]
          · rw [hBody] at hBodyWords
            have hShorter : (Text.unwords (first :: rest)).words.length < limit := by
              have hInner : (inner :: more).length ≤ later.length := by
                simpa only [hHead] using length_blockHead_le later
              have hCloser := length_withoutCloser_le (inner :: more)
              rw [hBody] at hCloser
              rw [hWords, List.length_cons] at h
              rw [hBodyWords]
              omega
            simp [hBody, ih hShorter, Session.renderText_eq, hBodyWords, Statement.render,
              Session.afterStatement, Statement.namesPackage]

/-- Renders a line, `none` for a removed one. -/
def renderLine (limit : Nat) : Option Text → Except Miss (Option Text × Session)
  | none => .ok (session.emptyLine, session)
  | some line => renderText session limit line

/-- Renders several lines one after the other, leaving out those of which nothing is left. -/
def renderLines (limit : Nat) (session : Session) :
    List (Option Text) → Except Miss (List Text × Session)
  | [] => .ok ([], session)
  | line :: later => do
    let (output, next) ← renderLine session limit line
    let (outputs, last) ← renderLines limit next later
    return (output.toList ++ outputs, last)

lemma renderLines_eq {limit : Nat} {lines : List (Option Text)}
    (h : ∀ line, some line ∈ lines → line.words.length < limit) :
    renderLines limit session lines = .ok (session.renderLines lines) := by
  induction lines generalizing session with
  | nil => rfl
  | cons line later ih =>
    have hLine : renderLine session limit line = .ok (session.renderLine line) := by
      cases line with
      | none => rfl
      | some line => exact renderText_eq session (h line List.mem_cons_self)
    have hLater := fun next => ih next fun line hLine => h line (List.mem_cons_of_mem _ hLine)
    simp only [renderLines, hLine, hLater, bind, Except.bind, pure, Except.pure,
      Session.renderLines]

end Lines

/-! ## Documents -/

/-- The library that lines need for the type `Stream`, looked up by the mode unless the mode is to
strip streams. -/
def neededLibrary (mode : StreamMode) (lines : List Text) : Except Miss (Option Text) :=
  if mode ≠ .strip ∧ mentionsStream lines then
    match mode.library? with
    | some library => .ok (some library)
    | none => .error .library
  else .ok none

lemma neededLibrary_eq (mode : StreamMode) (lines : List Text) :
    neededLibrary mode lines = .ok (mode.neededLibrary? lines) := by
  rw [neededLibrary, StreamMode.neededLibrary?]
  cases mode <;> cases mentionsStream lines <;> rfl

/-- The text of the document of a schema, for a stream mode that has been resolved. -/
def document (limit : Nat) (options : Options) (mode : StreamMode) (schema : Text) :
    Except Miss Text := do
  let options := { options with streams := .mode mode }
  let dialect := (Dialect.detect? schema).getD .proto3
  let (lines, session) ← renderLines limit { options, dialect } (schemaLines schema)
  let library ← neededLibrary mode lines
  return Document.text ⟨options.useObservable, library, lines, session.inNamespace⟩

/-- **No access misses while a document is generated.** -/
lemma document_eq {options : Options} {mode : StreamMode} {schema text : Text} {limit : Nat}
    (hMode : options.streams.resolve = .ok mode) (hText : generate options schema = .ok text)
    (hLimit : ∀ line, some line ∈ schemaLines schema → line.words.length < limit) :
    document limit options mode schema = .ok text := by
  have hSchema : schema ≠ [] := by
    rintro rfl
    rw [generate, hMode] at hText
    cases hText
  obtain rfl := Except.ok.inj ((generate_eq hMode hSchema).symm.trans hText)
  simp only [document, renderLines_eq _ hLimit, neededLibrary_eq, Session.renderLines_eq, bind,
    Except.bind, pure, Except.pure, Bool.false_or]

end Checked

end ProtoTypings
