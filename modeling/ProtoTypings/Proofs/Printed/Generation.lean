import ProtoTypings.Proofs.Printed.Statements

/-!
# Generation from printed schemas

The document generated from a printed schema is the one that belongs to the schema. The lines are
cut from the text and rendered one by one, which leaves what is decided over the whole text: the
dialect, whose declaration is looked for from every start of a line on and across line feeds, and
the closing brace of the namespace.

The main statement is `generate_printed`.
-/

namespace ProtoTypings

open Text

/-! ## Starts of lines -/

namespace Text

lemma laterStarts_append {line : Text} (h : '\n' ∉ line) (rest : Text) :
    fromLineStarts.laterStarts (line ++ rest) = fromLineStarts.laterStarts rest := by
  induction line with
  | nil => rfl
  | cons c line ih =>
    rw [List.mem_cons, not_or] at h
    rw [List.cons_append, fromLineStarts.laterStarts, if_neg (Ne.symm h.1)]
    exact ih h.2

lemma fromLineStarts_line {line : Text} (h : '\n' ∉ line) : fromLineStarts line = [line] := by
  rw [fromLineStarts, ← List.append_nil line, laterStarts_append h]
  rfl

lemma fromLineStarts_append {line : Text} (h : '\n' ∉ line) (rest : Text) :
    fromLineStarts (line ++ '\n' :: rest) = (line ++ '\n' :: rest) :: fromLineStarts rest := by
  rw [fromLineStarts, laterStarts_append h, fromLineStarts.laterStarts, if_pos rfl]
  rfl

end Text

/-! ## The dialect -/

/-- The dialect that a construct declares. -/
def Construct.dialect? : Construct → Option Dialect
  | .version given => some given.dialect
  | _ => none

/-- The dialect that a line of a printed schema declares. -/
def Row.dialect? (row : Row) : Option Dialect :=
  row.construct?.bind Construct.dialect?

lemma declared?_blanks {blanks : Text} (hBlanks : ∀ c ∈ blanks, isBlank c = true) (rest : Text) :
    Dialect.declared? (blanks ++ rest) = Dialect.declared? rest := by
  rw [Dialect.declared?, Dialect.declared?, skipBlanks_blanks hBlanks]

lemma declared?_version (given : Version) (rest : Text) :
    Dialect.declared? ((Construct.version given).text ++ rest) = some given.dialect := by
  cases given <;> rfl

/-- A line that stands in front of a line feed or of the end declares what is printed on it; what
follows plays no part, unless the line is empty. -/
lemma declared?_row {row : Row} (hClear : ∀ held ∈ row.construct?, held.IsClear)
    (hEmpty : ∀ blanks, row ≠ .empty blanks) {rest : Text} (hRest : ∀ c ∈ rest.head?, c = '\n') :
    Dialect.declared? (row.text ++ rest) = row.dialect? := by
  -- behind a word that ends the line stands a line feed, which is no part of a word
  have hHead : ∀ later : Text, (∀ c ∈ later.head?, ¬ Name.IsPart c) →
      ∀ c ∈ (later ++ rest).head?, ¬ Name.IsPart c := by
    intro later hLater c hc
    cases later with
    | nil =>
      obtain rfl := hRest c hc
      decide
    | cons d later => exact hLater c hc
  cases row with
  | empty blanks => exact absurd rfl (hEmpty blanks)
  | comment indentation note =>
    rw [Row.text, List.append_assoc, List.append_assoc]
    exact isLead_comment.declared?_eq indentation.isBlank (hHead note.1 note.not_isPart_head)
  | construct indentation held =>
    rw [Row.text, List.append_assoc]
    by_cases hVersion : ∃ given, held = .version given
    · obtain ⟨given, rfl⟩ := hVersion
      rw [declared?_blanks indentation.isBlank, declared?_version]
      rfl
    · have hOther : ∀ given, held ≠ .version given := fun given h => hVersion ⟨given, h⟩
      obtain ⟨lead, later, hText, hLead, hLater⟩ := held.exists_lead hOther (hClear held rfl)
      rw [hText, List.append_assoc,
        hLead.declared?_eq indentation.isBlank (hHead later hLater)]
      cases held with
      | version given => exact absurd rfl (hOther given)
      | _ => rfl

/-- The last line declares what is printed on it, empty or not. -/
lemma declared?_lastRow {row : Row} (hClear : ∀ held ∈ row.construct?, held.IsClear) :
    Dialect.declared? row.text = row.dialect? := by
  by_cases hEmpty : ∃ blanks, row = .empty blanks
  · obtain ⟨blanks, rfl⟩ := hEmpty
    have hNone := declared?_blanks blanks.isBlank []
    rw [List.append_nil] at hNone
    rw [Row.text, hNone]
    rfl
  · have hDeclared := declared?_row hClear (fun blanks h => hEmpty ⟨blanks, h⟩)
      (by simp : ∀ c ∈ List.head? [], c = '\n')
    rwa [List.append_nil] at hDeclared

/-- An empty line is passed over together with its line feed. -/
lemma declared?_emptyRow (blanks : Indentation) (rest : Text) :
    Dialect.declared? ((Row.empty blanks).text ++ '\n' :: rest) = Dialect.declared? rest := by
  have hBlanks : ∀ c ∈ blanks.1 ++ ['\n'], isBlank c = true := by
    intro c hc
    rcases List.mem_append.1 hc with hc | hc
    · exact blanks.isBlank c hc
    · exact List.mem_singleton.1 hc ▸ by decide
  rw [Row.text, List.append_cons, declared?_blanks hBlanks]

lemma printed_cons_cons (row next : Row) (later : List Row) :
    printed (row :: next :: later) = row.text ++ '\n' :: printed (next :: later) :=
  joinWith_cons_cons ['\n'] row.text next.text (later.map Row.text)

lemma printed_singleton (row : Row) : printed [row] = row.text :=
  joinWith_singleton ['\n'] row.text

lemma findSome?_cons_eq_or {α β : Type} (f : α → Option β) (first : α) (later : List α) :
    (first :: later).findSome? f = (f first).or (later.findSome? f) := by
  rw [List.findSome?_cons]
  cases f first <;> rfl

/-- The first declaration at the start of a line is the first that was printed. A text that begins
with an empty line declares what the text after that line does. -/
lemma detect?_printed {rows : List Row} (hne : rows ≠ [])
    (hClear : ∀ row ∈ rows, ∀ held ∈ row.construct?, held.IsClear) :
    Dialect.detect? (printed rows) = rows.findSome? Row.dialect? := by
  induction rows with
  | nil => exact absurd rfl hne
  | cons row later ih =>
    have hRow := hClear row List.mem_cons_self
    have hLine := row.newline_not_mem
    rw [findSome?_cons_eq_or]
    cases later with
    | nil =>
      rw [printed_singleton, Dialect.detect?, fromLineStarts_line hLine, findSome?_cons_eq_or,
        declared?_lastRow hRow]
      rfl
    | cons next later =>
      have hLater := ih (List.cons_ne_nil _ _) fun other hOther =>
        hClear other (List.mem_cons_of_mem _ hOther)
      rw [printed_cons_cons, Dialect.detect?, fromLineStarts_append hLine, findSome?_cons_eq_or,
        ← Dialect.detect?, ← hLater]
      by_cases hEmpty : ∃ blanks, row = .empty blanks
      · -- what the text after the empty line declares is found again at its own start
        obtain ⟨blanks, rfl⟩ := hEmpty
        rw [declared?_emptyRow, Dialect.detect?, fromLineStarts, findSome?_cons_eq_or,
          ← Option.or_assoc, Option.or_self]
        rfl
      · rw [declared?_row hRow (fun blanks h => hEmpty ⟨blanks, h⟩) (by simp)]

/-! ## The constructs of a schema -/

/-- A definition holds neither a version nor a package. -/
lemma Definition.of_mem_constructs {definition : Definition} {held : Construct}
    (h : held ∈ definition.constructs) :
    held.dialect? = none ∧ held.statement.namesPackage = false := by
  have hMember : ∀ members : List Construct, (∀ member ∈ members,
      member.dialect? = none ∧ member.statement.namesPackage = false) →
      ∀ kind name, held ∈ .opener kind name :: members ++ [.closer] →
      held.dialect? = none ∧ held.statement.namesPackage = false := by
    intro members hMembers kind name hHeld
    simp only [List.cons_append, List.mem_cons, List.mem_append, List.not_mem_nil,
      or_false] at hHeld
    rcases hHeld with rfl | hHeld | rfl
    · exact ⟨rfl, rfl⟩
    · exact hMembers held hHeld
    · exact ⟨rfl, rfl⟩
  cases definition with
  | message name fields =>
    refine hMember (fields.map .field) ?_ _ _ h
    simp only [List.forall_mem_map]
    exact fun declared _ => ⟨rfl, rfl⟩
  | enum name values =>
    refine hMember (values.map .value) ?_ _ _ h
    simp only [List.forall_mem_map]
    refine fun declared _ => ⟨rfl, ?_⟩
    rw [Construct.statement]
    split <;> rfl
  | service name methods =>
    refine hMember (methods.map .method) ?_ _ _ h
    simp only [List.forall_mem_map]
    exact fun declared _ => ⟨rfl, rfl⟩

lemma Schema.of_mem_definitions {schema : Schema} {held : Construct}
    (h : held ∈ schema.definitions.flatMap Definition.constructs) :
    held.dialect? = none ∧ held.statement.namesPackage = false := by
  obtain ⟨definition, -, h⟩ := List.mem_flatMap.1 h
  exact Definition.of_mem_constructs h

lemma findSome?_dialect? {schema : Schema} {rows : List Row} (hRows : schema.IsPrintedOn rows) :
    rows.findSome? Row.dialect? = schema.version.map Version.dialect := by
  have hDefinitions : (schema.definitions.flatMap Definition.constructs).filterMap
      Construct.dialect? = [] :=
    List.filterMap_eq_nil_iff.2 fun held h => (Schema.of_mem_definitions h).1
  have hConstructs :
      rows.filterMap Row.dialect? = schema.constructs.filterMap Construct.dialect? := by
    rw [← hRows, List.filterMap_filterMap]
    rfl
  rw [← List.head?_filterMap, hConstructs, Schema.constructs, List.filterMap_append,
    List.filterMap_append, hDefinitions]
  cases schema.version <;> cases schema.package <;> rfl

lemma any_namesPackage {schema : Schema} {rows : List Row} (hRows : schema.IsPrintedOn rows) :
    (rows.any fun row => row.statement.namesPackage) = schema.package.isSome := by
  have hDefinitions : (schema.definitions.flatMap Definition.constructs).any
      (fun held => held.statement.namesPackage) = false :=
    List.any_eq_false.2 fun held h => by simp [(Schema.of_mem_definitions h).2]
  have hConstructs : (rows.any fun row => row.statement.namesPackage)
      = schema.constructs.any fun held => held.statement.namesPackage := by
    rw [← hRows, List.any_filterMap]
    refine congrArg rows.any (funext fun row => ?_)
    cases row <;> rfl
  rw [hConstructs, Schema.constructs, List.any_append, List.any_append, hDefinitions]
  cases schema.version <;> cases schema.package <;> rfl

/-! ## The document -/

lemma schemaLines_printed {rows : List Row} (hne : rows ≠ []) :
    schemaLines (printed rows) = rows.map fun row => declaring? row.cut := by
  have hLines : ∀ line ∈ rows.map Row.text, '\n' ∉ line := by
    intro line hLine
    obtain ⟨row, -, rfl⟩ := List.mem_map.1 hLine
    exact row.newline_not_mem
  rw [schemaLines, printed, lines_joinWith hLines (by simpa using hne), List.map_map, List.map_map]
  rfl

/-- **A printed schema becomes the document that belongs to it.**  Let the lines be those of a
schema, and let no line of it begin by its author's choice with a reserved word. Whatever the
indentation and wherever empty lines and comments stand, the document generated from the text of the
lines holds, in their order, the lines that belong to them, and it closes a namespace exactly when
the schema has a package. Fields without a label may be absent in `proto3`, which is also the
version where none is given. -/
theorem generate_printed {options : Options} {mode : StreamMode} {schema : Schema} {rows : List Row}
    (hMode : options.streams.resolve = .ok mode) (hRows : schema.IsPrintedOn rows)
    (hText : printed rows ≠ []) (hClear : schema.IsUnambiguous) :
    let lines := rows.filterMap (Row.typing options mode (schema.version.getD .proto3))
    generate options (printed rows) = .ok (Document.text
      ⟨options.useObservable, mode.neededLibrary? lines, lines, schema.package.isSome⟩) := by
  intro lines
  have hne : rows ≠ [] := by
    rintro rfl
    exact hText rfl
  have hRowsClear : ∀ row ∈ rows, ∀ held ∈ row.construct?, held.IsClear := by
    intro row hRow held hHeld
    refine hClear held ?_
    rw [← hRows]
    exact List.mem_filterMap.2 ⟨row, hRow, hHeld⟩
  have hDialect : (Dialect.detect? (printed rows)).getD .proto3
      = (schema.version.getD .proto3).dialect := by
    rw [detect?_printed hne hRowsClear, findSome?_dialect? hRows]
    cases schema.version <;> rfl
  have hLines : typingLines { options with streams := .mode mode }
      (schema.version.getD .proto3).dialect (schemaLines (printed rows)) = lines := by
    rw [schemaLines_printed hne, typingLines, List.filterMap_map]
    refine List.filterMap_congr fun row hRow => ?_
    rw [Function.comp_apply, Row.ofLine_cut (hRowsClear row hRow), render_row]
  have hPackage : somePackage (schemaLines (printed rows)) = schema.package.isSome := by
    rw [schemaLines_printed hne, somePackage, List.any_map, ← any_namesPackage hRows,
      Bool.eq_iff_iff, List.any_eq_true, List.any_eq_true]
    refine exists_congr fun row => and_congr_right fun hRow => ?_
    rw [Function.comp_apply, Row.ofLine_cut (hRowsClear row hRow)]
  rw [generate_eq hMode hText, hDialect, hLines, hPackage]

/-- A schema in `proto2` with a package, a message and a service, an indented comment between
them. -/
theorem generate_printed_message_and_service :
    let a : Identifier := ⟨'a', [], by decide, by decide⟩
    let messageB : Identifier := ⟨'B', "_2".toList, by decide, by decide⟩
    let string : Identifier := ⟨'s', "tring".toList, by decide, by decide⟩
    let noBlanks : Indentation := ⟨[], by decide⟩
    let tab : Indentation := ⟨['\t'], by decide⟩
    let inB : FieldDeclaration := ⟨none, ⟨string, []⟩, messageB, 1⟩
    let ofA : FieldDeclaration := ⟨some .repeated, ⟨a, [messageB]⟩, a, 20⟩
    let take : MethodDeclaration := ⟨string, ⟨true, ⟨messageB, []⟩⟩, ⟨false, ⟨a, [messageB]⟩⟩⟩
    let schema : Schema :=
      ⟨some .proto2, some ⟨a, []⟩, [.message messageB [inB, ofA], .service a [take]]⟩
    let rows : List Row :=
      [.empty tab, .construct tab (.version .proto2), .construct noBlanks (.package ⟨a, []⟩),
        .construct noBlanks (.opener .message messageB), .construct tab (.field inB),
        .construct tab (.field ofA), .construct noBlanks .closer,
        .comment tab ⟨" syntax".toList, fun c hc => Option.some.inj hc ▸ by decide, by decide⟩,
        .construct noBlanks (.opener .service a),
        .construct tab (.method take), .construct noBlanks .closer]
    (({} : Options).streams.resolve = .ok .native ∧ schema.IsPrintedOn rows ∧ printed rows ≠ [] ∧
      schema.IsUnambiguous) ∧
    printed rows = ("\t\n\tsyntax = \x22proto2\x22;\npackage a;\nmessage B_2 \x7b\n"
      ++ "\tstring B_2 = 1;\n\trepeated a.B_2 a = 20;\n\x7d\n\t// syntax\nservice a \x7b\n"
      ++ "\trpc string(stream B_2) returns (a.B_2);\n\x7d").toList ∧
    generate {} (printed rows) = .ok ("import Stream from 'stream'\n\nexport namespace A \x7b\n"
      ++ "export interface B_2 \x7b\nb_2: string\na: a.B_2[]\n\x7d\nexport interface a \x7b\n"
      ++ "string (b_2Stream: Stream): a.B_2\n\x7d\n\x7d").toList := by
  intro a messageB string noBlanks tab inB ofA take schema rows
  have hRows : schema.IsPrintedOn rows := rfl
  have hText : printed rows ≠ [] := by decide +kernel
  have hClear : schema.IsUnambiguous := by decide +kernel
  refine ⟨⟨rfl, hRows, hText, hClear⟩, by decide +kernel, ?_⟩
  exact (generate_printed rfl hRows hText hClear).trans (by decide +kernel)

end ProtoTypings
