import Tabular.Proofs.Source.Concatenation
import Tabular.Proofs.Source.Window

/-!
# The rows of framed lines

Every line that begins with a bar is a row, and no other line is. The definition stands before the
first of them, so that row is read when the columns are found. A window hands it out with the rows
read ahead; where nothing is to be read ahead it is lost.
-/

set_option autoImplicit false

namespace Tabular.Framed

/-! ## Lines -/

/-- Whether a line holds a row. -/
def isRow (text : List Char) : Bool :=
  text.head? == some '|'

/-- The lines that hold a row, in order. -/
def rowLines (texts : List (List Char)) : List (List Char) :=
  texts.filter isRow

def cellsOf (text : List Char) : List String :=
  (cells? (Text.trimEndBy Text.isBlank text)).getD []

/-- A definition with what a line adds to it. -/
def Definition.extendBy (definition : Definition) (text : List Char) : Definition :=
  match entry text with
  | .ok (.extra key values) => definition.extend key values
  | _ => definition

/-- What the lines before the first row define. -/
def definitionOf (texts : List (List Char)) : Definition :=
  (texts.takeWhile (!isRow ·)).foldl Definition.extendBy {}

/-- The columns that lines define; there are none without a row. -/
def schemaOf (texts : List (List Char)) : Result (Option Schema) :=
  match rowLines texts with
  | [] => .ok none
  | first :: _ => ((definitionOf texts).schema (cellsOf first)).map some

/-! ## Entries -/

variable {text : List Char} {found : Entry}

private theorem eq_row_of_isRow (row : isRow text = true) (read : entry text = .ok found) :
    found = .row (cellsOf text) := by
  obtain ⟨rest, rfl⟩ := List.head?_eq_some_iff.mp (eq_of_beq row)
  rw [entry] at read
  split at read
  · rename_i cells framed
    rw [cellsOf, framed]
    exact (Except.ok.inj read).symm
  · cases read

private theorem exists_extra_of_not_isRow (other : isRow text = false)
    (read : entry text = .ok found) :
    ∃ key values, found = .extra key values := by
  rw [entry.eq_def] at read
  split at read
  · -- What follows the semicolon is an extra in each of its forms.
    rw [extra] at read
    split at read
    · cases read
    · dsimp only at read
      split at read
      · split at read
        · exact ⟨_, _, (Except.ok.inj read).symm⟩
        · cases read
      · exact ⟨_, _, (Except.ok.inj read).symm⟩
  · cases other
  · cases read

/-! ## Reading lines -/

/-- Numbered lines of which none is refused. -/
def Readable (lines : List (Nat × List Char)) : Prop :=
  ∀ piece ∈ lines.filterMap entryAt?, piece.isOk = true

instance (lines : List (Nat × List Char)) : Decidable (Readable lines) :=
  inferInstanceAs (Decidable (∀ piece ∈ lines.filterMap entryAt?, piece.isOk = true))

/-- What a line that is not refused comes to. -/
inductive Kind : Nat × List Char → Prop where
  | comment {number : Nat} {text : List Char} (passed : entryAt? (number, text) = none)
      (other : isRow text = false) (kept : ∀ definition, Definition.extendBy definition text = definition) :
      Kind (number, text)
  | row {number : Nat} {text : List Char}
      (read : entryAt? (number, text) = some (.ok (.row (cellsOf text)))) (bar : isRow text = true) :
      Kind (number, text)
  | extra {number : Nat} {text : List Char} (key : String) (values : List String)
      (read : entryAt? (number, text) = some (.ok (.extra key values))) (other : isRow text = false)
      (added : ∀ definition, Definition.extendBy definition text = definition.extend key values) :
      Kind (number, text)

variable {line : Nat × List Char} {lines : List (Nat × List Char)}

private theorem Readable.tail (readable : Readable (line :: lines)) : Readable lines := by
  intro piece member
  refine readable piece ?_
  rw [List.filterMap_cons]
  split
  · exact member
  · exact List.mem_cons_of_mem _ member

private theorem Readable.kind (readable : Readable (line :: lines)) : Kind line := by
  obtain ⟨number, text⟩ := line
  cases comment : text.head? == some '#' with
  | true =>
      obtain ⟨rest, rfl⟩ := List.head?_eq_some_iff.mp (eq_of_beq comment)
      exact .comment rfl rfl fun _ => rfl
  | false =>
      cases outcome : entry text with
      | error reason =>
          have read : entryAt? (number, text) = some (.error (.invalidTbln number reason)) := by
            simp only [entryAt?, comment, outcome, Bool.false_eq_true, if_false]
          have refused := readable (.error (.invalidTbln number reason)) (by
            rw [List.filterMap_cons_some read]
            exact List.mem_cons_self)
          cases refused
      | ok found =>
          have read : entryAt? (number, text) = some (.ok found) := by
            simp only [entryAt?, comment, outcome, Bool.false_eq_true, if_false]
          cases bar : isRow text with
          | true =>
              rw [eq_row_of_isRow bar outcome] at read
              exact .row read bar
          | false =>
              obtain ⟨key, values, rfl⟩ := exists_extra_of_not_isRow bar outcome
              refine .extra key values read bar fun definition => ?_
              rw [Definition.extendBy, outcome]

/-- Behind the first row every line with a row is read, and every other line is passed over. -/
theorem rows_of_readable (readable : Readable lines) :
    rows (lines.filterMap entryAt?) =
      Feed.ofList ((rowLines (lines.map Prod.snd)).map cellsOf) := by
  induction lines with
  | nil => rfl
  | cons line lines ih =>
      have rest := ih readable.tail
      rw [rowLines] at rest
      rw [List.map_cons, rowLines]
      cases readable.kind with
      | comment passed other _ =>
          rw [List.filterMap_cons_none passed, rest, List.filter_cons_of_neg (by rw [other]; decide)]
      | row read bar =>
          rw [List.filterMap_cons_some read, rows, rest, List.filter_cons_of_pos bar]
          rfl
      | extra key values read other _ =>
          rw [List.filterMap_cons_some read, rows, rest,
            List.filter_cons_of_neg (by rw [other]; decide)]

/-- Reading up to the first row gives the definition before it, and leaves the lines behind it. -/
theorem opening_of_readable (readable : Readable lines) (definition : Definition) :
    ∃ rest, opening definition (lines.filterMap entryAt?) =
        .ok (((lines.map Prod.snd).takeWhile (!isRow ·)).foldl Definition.extendBy definition,
          (rowLines (lines.map Prod.snd)).head?.map cellsOf, rest) ∧
      rows rest = Feed.ofList ((rowLines (lines.map Prod.snd)).tail.map cellsOf) := by
  -- The definition grows with every extra, so the induction is for any definition.
  induction lines generalizing definition with
  | nil => exact ⟨[], rfl, rfl⟩
  | cons line lines ih =>
      have later := ih readable.tail
      simp only [rowLines] at later
      rw [List.map_cons, rowLines]
      cases readable.kind with
      | comment passed other kept =>
          have skipped : ¬ isRow _ = true := Bool.eq_false_iff.mp other
          rw [List.filterMap_cons_none passed, List.filter_cons_of_neg skipped,
            List.takeWhile_cons_of_pos (by rw [other]; rfl), List.foldl_cons, kept]
          exact later definition
      | @row number text read bar =>
          refine ⟨lines.filterMap entryAt?, ?_, ?_⟩
          · rw [List.filterMap_cons_some read, List.filter_cons_of_pos bar,
              List.takeWhile_cons_of_neg (by rw [bar]; decide)]
            rfl
          · rw [rows_of_readable readable.tail, List.filter_cons_of_pos bar]
            rfl
      | extra key values read other added =>
          have skipped : ¬ isRow _ = true := Bool.eq_false_iff.mp other
          rw [List.filterMap_cons_some read, List.filter_cons_of_neg skipped,
            List.takeWhile_cons_of_pos (by rw [other]; rfl), List.foldl_cons, added]
          exact later (definition.extend key values)

/-! ## Sources of lines -/

/-- The records that are handed out. -/
def kept (options : ReadOptions) (records : List (List String)) : List (List String) :=
  if options.ahead = 0 then records.tail else records

/-- A record as a row of the given width. -/
def rowOf (null : Option String) (width : Nat) (record : List String) : Row :=
  Row.fit width (record.map (cell null))

/-- The table of records whose columns are known. -/
def tableOf (options : ReadOptions) (records : List (List String)) : Option Schema → Source
  | none => .table none [] []
  | some schema =>
    let row := rowOf options.null schema.names.length
    .table (some schema) (((kept options records).take options.ahead).map row)
      (options.liveRows (Feed.map row (Feed.ofList ((kept options records).drop options.ahead))))

variable {options : ReadOptions} {bytes : List UInt8} {made : Source}

private theorem source_of_readable (readable : Readable (Text.lineView.seen 1 (Line.split bytes)))
    (options : ReadOptions) :
    source options ⟨bytes, true⟩ = (schemaOf (Text.lineView.texts bytes)).map
      (tableOf options ((rowLines (Text.lineView.texts bytes)).map cellsOf)) := by
  obtain ⟨rest, opened, others⟩ := opening_of_readable readable {}
  rw [source, Input.lines_of_intact, entries_eq, opened, ← LineView.texts]
  rw [← LineView.texts] at others
  cases found : rowLines (Text.lineView.texts bytes) with
  | nil =>
      rw [schemaOf, found]
      rfl
  | cons first more =>
      have columns : schemaOf (Text.lineView.texts bytes) =
          ((definitionOf (Text.lineView.texts bytes)).schema (cellsOf first)).map some := by
        rw [schemaOf, found]
      rw [found, List.tail_cons] at others
      rw [columns]
      change (Definition.schema (definitionOf (Text.lineView.texts bytes)) (cellsOf first) >>= _) = _
      cases (definitionOf (Text.lineView.texts bytes)).schema (cellsOf first) with
      | error failure => rfl
      | ok schema =>
          change (Feed.take (options.ahead - 1) (rows rest) >>= _) = Except.ok
            (tableOf options ((first :: more).map cellsOf) (some schema))
          rw [others, Feed.take_ofList, tableOf, kept]
          -- The window begins with the first row, or there is none.
          cases options.ahead with
          | zero => rfl
          | succ count => rfl

/-! ## Failures -/

theorem error_mem_of_opening {feed rest : Feed Entry} {definition whole : Definition}
    {first : Option (List String)} (opened : opening definition feed = .ok (whole, first, rest))
    {failure : Error} (member : .error failure ∈ feed) :
    ∃ cells, first = some cells ∧ .error failure ∈ rest := by
  induction feed generalizing definition with
  | nil => cases member
  | cons piece feed ih =>
      cases piece with
      | error other => cases opened
      | ok found =>
          have later := (List.mem_cons.mp member).resolve_left (by rintro ⟨⟩)
          cases found with
          | row cells =>
              cases opened
              exact ⟨cells, rfl, later⟩
          | extra key values => exact ih opened later

theorem error_mem_rows {feed : Feed Entry} {failure : Error} (member : .error failure ∈ feed) :
    .error failure ∈ rows feed := by
  induction feed with
  | nil => cases member
  | cons piece feed ih =>
      rcases List.mem_cons.mp member with rfl | later
      · exact List.mem_cons_self
      · cases piece with
        | error other => exact List.mem_cons_of_mem _ (ih later)
        | ok found =>
            cases found with
            | row cells => exact List.mem_cons_of_mem _ (ih later)
            | extra key values => exact ih later

/-- Every line that is refused is a failure of the source, or there is no source. -/
theorem readable_of_source (wanted : options.onlyAhead = false)
    (read : source options ⟨bytes, true⟩ = .ok made) (fine : ∀ failure, .error failure ∉ made.rows) :
    Readable (Text.lineView.seen 1 (Line.split bytes)) := by
  rintro (failure | found) member
  case ok => rfl
  rw [source, Input.lines_of_intact, entries_eq] at read
  obtain ⟨⟨definition, first, rest⟩, opened, read⟩ := bind_ok read
  obtain ⟨first, rfl, behind⟩ := error_mem_of_opening opened member
  obtain ⟨schema, -, read⟩ := bind_ok read
  obtain ⟨⟨others, live⟩, taken, read⟩ := bind_ok read
  cases read
  have behind := error_mem_rows behind
  rw [Feed.append_of_take taken, List.mem_append] at behind
  refine absurd (List.mem_append_right _ ?_) (fine failure)
  rw [Source.takeAhead, Source.live, ReadOptions.liveRows, wanted]
  exact Feed.error_mem_map _ (behind.resolve_left (Feed.error_not_mem_ofList others failure))

/-! ## Windows -/

section

variable (options : ReadOptions) (records : List (List String)) (schema : Option Schema)

private theorem schema?_tableOf : (tableOf options records schema).schema? = schema := by
  cases schema <;> rfl

private theorem columns_tableOf (once : ReadOptions) :
    (tableOf options records schema).columns = (tableOf once records schema).columns := by
  rw [Source.columns, Source.columns, schema?_tableOf, schema?_tableOf]

private theorem names_tableOf (once : ReadOptions) :
    (tableOf options records schema).names = (tableOf once records schema).names := by
  rw [Source.names, Source.names, Source.schema, Source.schema, schema?_tableOf, schema?_tableOf]

private theorem types_tableOf (once : ReadOptions) :
    (tableOf options records schema).types = (tableOf once records schema).types := by
  rw [Source.types, Source.types, Source.schema, Source.schema, schema?_tableOf, schema?_tableOf]

end

/-- The rows of a table of records are those that are not passed over. -/
theorem rows_tableOf (wanted : options.onlyAhead = false) {records : List (List String)}
    {schema : Option Schema} (seen : schema = none → records = []) :
    let row := rowOf options.null (tableOf options records schema).columns.length
    (tableOf options records schema).takeAhead.1 =
        ((kept options records).take options.ahead).map row ∧
      (tableOf options records schema).rows = Feed.ofList ((kept options records).map row) := by
  cases schema with
  | none =>
      have empty : kept options records = [] := by
        rw [seen rfl, kept]
        exact ite_self _
      rw [empty, List.take_nil]
      exact ⟨rfl, rfl⟩
  | some schema => exact ⟨rfl, Source.rows_window wanted _ _ _ _⟩

theorem rowLines_eq_nil_of_schemaOf {texts : List (List Char)} (columns : schemaOf texts = .ok none) :
    rowLines texts = [] := by
  rw [schemaOf] at columns
  split at columns
  · assumption
  · cases declared : (definitionOf texts).schema (cellsOf _) with
    | error failure => rw [declared] at columns; cases columns
    | ok schema => rw [declared] at columns; cases columns

/-- An input that is read once without error is read with every window. The columns are those that its
lines define, and the rows are one for each line that holds a row, in order, cut or padded to the
columns, first those of the window. Where nothing is to be read ahead the first of them is missing. -/
theorem rows_of_rowLines {once options : ReadOptions} (whole : once.onlyAhead = false)
    (read : source once ⟨bytes, true⟩ = .ok made) (fine : ∀ failure, .error failure ∉ made.rows)
    (wanted : options.onlyAhead = false) :
    let texts := Text.lineView.texts bytes
    let row := fun text => rowOf options.null made.columns.length (cellsOf text)
    schemaOf texts = .ok made.schema? ∧
    ∃ source, Framed.source options ⟨bytes, true⟩ = .ok source ∧
      source.names = made.names ∧ source.types = made.types ∧
      (options.ahead ≠ 0 →
        source.takeAhead.1 = ((rowLines texts).take options.ahead).map row ∧
        source.rows = Feed.ofList ((rowLines texts).map row)) ∧
      (options.ahead = 0 →
        source.takeAhead.1 = [] ∧ source.rows = Feed.ofList ((rowLines texts).tail.map row)) := by
  intro texts row
  have readable := readable_of_source whole read fine
  have same := (source_of_readable readable once).symm.trans read
  have other := source_of_readable readable options
  cases columns : schemaOf texts with
  | error failure =>
      rw [columns] at same
      cases same
  | ok schema =>
      rw [columns] at same other
      obtain rfl := Except.ok.inj same
      have seen : schema = none → (rowLines texts).map cellsOf = [] := by
        rintro rfl
        rw [rowLines_eq_nil_of_schemaOf columns, List.map_nil]
      obtain ⟨ahead, every⟩ := rows_tableOf wanted seen
      rw [columns_tableOf options _ _ once] at ahead every
      refine ⟨congrArg Except.ok (schema?_tableOf once _ schema).symm, _, other,
        names_tableOf options _ schema once, types_tableOf options _ schema once, ?kept, ?lost⟩
      case kept =>
        intro some
        rw [ahead, every, kept, if_neg some, ← List.map_take, List.map_map, List.map_map]
        exact ⟨rfl, rfl⟩
      case lost =>
        intro none
        rw [ahead, every, kept, if_pos none, none, List.take_zero, ← List.map_tail, List.map_map]
        exact ⟨rfl, rfl⟩

/-- Comments, blank lines and extras before, between and behind the rows, a bar in a cell, a row that
is too short and one that is too long. -/
theorem rows_of_rowLines_extras :
    let bytes := Utf8.bytes
      "# x\n; name: | a | A |\n\n| 1 || |- | 3 |\n; name: | b |\n#|no|\n|-|\r\n \t\n||||x|\n; q: r"
    let once : ReadOptions := { ahead := 9 }
    let options : ReadOptions := { ahead := 2, null := some "-" }
    ∃ made, source once ⟨bytes, true⟩ = .ok made ∧ (∀ failure, .error failure ∉ made.rows) ∧
      once.onlyAhead = false ∧ options.onlyAhead = false ∧ options.ahead ≠ 0 ∧
      ∃ source, Framed.source options ⟨bytes, true⟩ = .ok source ∧
        source.names = .ok ["a", "A0"] ∧ source.types = .ok ["text", "text"] ∧
        source.rows = Feed.ofList [[.text "1 |", .null], [.null, .null], [.text "|", .text "x"]] := by
  intro bytes once options
  have readable : Readable (Text.lineView.seen 1 (Line.split bytes)) := by decide +kernel
  let schema : Schema := ⟨["a", "A0"], ["text", "text"]⟩
  let records := (rowLines (Text.lineView.texts bytes)).map cellsOf
  have columns : schemaOf (Text.lineView.texts bytes) = .ok (some schema) := by decide +kernel
  have read : source once ⟨bytes, true⟩ = .ok (tableOf once records (some schema)) := by
    rw [source_of_readable readable, columns]
    rfl
  have fine : ∀ failure, .error failure ∉ (tableOf once records (some schema)).rows := by
    rw [(rows_tableOf rfl (by rintro ⟨⟩)).2]
    exact Feed.error_not_mem_ofList _
  obtain ⟨-, source, made, names, types, rows, -⟩ :=
    rows_of_rowLines rfl read fine (show options.onlyAhead = false from rfl)
  refine ⟨_, read, fine, rfl, rfl, by decide, source, made, names, types, ?_⟩
  rw [(rows (by decide)).2]
  decide +kernel

/-- With nothing read ahead the first row is not handed out. -/
theorem rows_ahead_zero :
    let input : Input := ⟨Utf8.bytes "| 1 |\n| 2 |\n", true⟩
    ∃ none one, source { ahead := 0 } input = .ok none ∧ source { ahead := 1 } input = .ok one ∧
      none.rows = Feed.ofList [[.text "2"]] ∧
      one.rows = Feed.ofList [[.text "1"], [.text "2"]] := by
  intro input
  have readable : Readable (Text.lineView.seen 1 (Line.split input.bytes)) := by decide +kernel
  have columns : schemaOf (Text.lineView.texts input.bytes) = .ok (some ⟨["c1"], ["text"]⟩) := by
    decide +kernel
  have read := source_of_readable readable
  rw [columns] at read
  exact ⟨_, _, read { ahead := 0 }, read { ahead := 1 }, by decide +kernel, by decide +kernel⟩

end Tabular.Framed
