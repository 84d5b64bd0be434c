import Tabular.Proofs.Sink.Lines
import Tabular.Proofs.Source.Window
import Tabular.Proofs.Text.Blank

/-!
# Framed rows that are written and read back

A bar inside a cell is doubled, and there is a blank between a cell and the bars around it. So a
single bar always ends a cell, also where the cell begins or ends with bars of its own.
-/

set_option autoImplicit false

namespace Tabular.Framed

/-- A text that a framed cell can carry. -/
structure Solid (text : String) : Prop where
  filled : text ≠ ""
  line : '\n' ∉ text.toList
  trimmed : Text.trim text.toList = text.toList

theorem solid_iff {text : String} :
    Solid text ↔ text ≠ "" ∧ '\n' ∉ text.toList ∧ Text.trim text.toList = text.toList :=
  ⟨fun solid => ⟨solid.1, solid.2, solid.3⟩, fun both => ⟨both.1, both.2.1, both.2.2⟩⟩

instance (text : String) : Decidable (Solid text) :=
  decidable_of_iff' _ solid_iff

/-- A cell that can be framed: null, or a text that is not the word for null. -/
inductive Carried (null : Option String) : Cell → Prop where
  | null : Carried null .null
  | text {value : String} (solid : Solid value) (other : null ≠ some value) :
      Carried null (.text value)

structure Table (null : Option String) (columns types : List String) (rows : List Row) : Prop where
  named : columns ≠ []
  distinct : Distinct columns
  column : ∀ column ∈ columns, Solid column
  typed : types.length = columns.length
  word : ∀ word, null = some word → Solid word
  width : ∀ row ∈ rows, row.length = columns.length
  cell : ∀ row ∈ rows, ∀ cell ∈ row, Carried null cell

variable {null : Option String} {columns types : List String} {rows : List Row}

/-! ## Frames -/

def doubled (text : List Char) : List Char :=
  text.flatMap fun c => if c == '|' then ['|', '|'] else [c]

/-- A cell between the bars of a frame. -/
def padded (cell : String) : List Char :=
  ' ' :: doubled cell.toList ++ [' ']

/-- What stands between the first and the last bar of a frame. -/
def inside (cell : String) (cells : List String) : List Char :=
  padded cell ++ cells.flatMap fun cell => '|' :: padded cell

theorem frame_cons (cell : String) (cells : List String) :
    Sink.frame (cell :: cells) = '|' :: inside cell cells ++ ['|'] := by
  have framed : ∀ cells, Sink.frame cells = '|' :: cells.flatMap fun cell => padded cell ++ ['|'] := by
    intro cells
    refine congrArg (List.cons '|') (congrArg (fun f => List.flatMap f cells) ?_)
    funext cell
    rw [padded, List.append_assoc]
    rfl
  rw [framed, List.cons_append]
  refine congrArg (List.cons '|') ?_
  induction cells generalizing cell with
  | nil => rw [inside, List.flatMap_singleton, List.flatMap_nil, List.append_nil]
  | cons next cells ih =>
      rw [List.flatMap_cons, ih, inside, inside, List.flatMap_cons]
      simp only [List.append_assoc, List.cons_append, List.nil_append]

private theorem unframe?_frame (inside : List Char) :
    unframe? ('|' :: inside ++ ['|']) = some inside := by
  rw [unframe?.eq_def]
  simp

/-- Doubled bars stay in the cell, whatever is read of it before. -/
theorem cellsOnto_doubled (before text rest : List Char) :
    cellsOnto before (doubled text ++ rest) = cellsOnto (text.reverse ++ before) rest := by
  -- The cell so far grows with every character, so the induction is for any such cell.
  induction text generalizing before with
  | nil => rfl
  | cons c text ih =>
      rw [List.reverse_cons, List.append_assoc, List.singleton_append, ← ih]
      by_cases bar : c = '|'
      · subst bar
        rfl
      · have plain : doubled (c :: text) = c :: doubled text := by
          rw [doubled, List.flatMap_cons, if_neg (by rw [beq_iff_eq]; exact bar)]
          rfl
        rw [plain, List.cons_append, cellsOnto, if_neg (by rw [beq_iff_eq]; exact bar)]
        rintro tail rfl
        exact absurd rfl bar

/-- A blank is no bar, so what is between two blanks is one cell. -/
theorem cellsOnto_padded (cell : String) (rest : List Char) :
    cellsOnto [] (padded cell ++ rest) = cellsOnto (' ' :: (cell.toList.reverse ++ [' '])) rest := by
  have first : cellsOnto [] (padded cell ++ rest) =
      cellsOnto [' '] (doubled cell.toList ++ ' ' :: rest) := by
    rw [padded, List.append_assoc]
    rfl
  rw [first, cellsOnto_doubled]
  rfl

private theorem cellsOnto_inside (cell : String) (cells : List String) :
    cellsOnto [] (inside cell cells) =
      (cell :: cells).map fun cell => ' ' :: cell.toList ++ [' '] := by
  induction cells generalizing cell with
  | nil =>
      rw [inside, cellsOnto_padded]
      simp [cellsOnto]
  | cons next cells ih =>
      have bar : ∀ before rest, cellsOnto before ('|' :: ' ' :: rest) =
          before.reverse :: cellsOnto [] (' ' :: rest) := fun _ _ => rfl
      have rest : inside cell (next :: cells) = padded cell ++ '|' :: inside next cells := rfl
      have blank : inside next cells = ' ' :: (inside next cells).tail := rfl
      rw [rest, cellsOnto_padded, blank, bar, ← blank, ih]
      simp

private theorem trim_padding {text : List Char} (trimmed : Text.trim text = text) :
    Text.trim (' ' :: text ++ [' ']) = text := by
  rw [List.cons_append, Text.trim_cons_blank (by decide), Text.trim_append_blank (by decide), trimmed]

private theorem cells?_frame {cells : List String} (some : cells ≠ [])
    (trimmed : ∀ cell ∈ cells, Text.trim cell.toList = cell.toList) :
    cells? (Sink.frame cells) = .some cells := by
  obtain ⟨cell, cells, rfl⟩ := List.exists_cons_of_ne_nil some
  rw [cells?, frame_cons, unframe?_frame, Option.map_some, cellsOnto_inside, List.map_map]
  refine congrArg Option.some ((List.map_congr_left fun text member => ?_).trans (List.map_id _))
  rw [Function.comp, trim_padding (trimmed text member), String.ofList_toList, id]

theorem newline_not_mem_frame {cells : List String} (lines : ∀ cell ∈ cells, '\n' ∉ cell.toList) :
    '\n' ∉ Sink.frame cells := by
  intro member
  rw [Sink.frame, List.mem_cons] at member
  obtain found | inside := member
  · cases found
  · obtain ⟨cell, given, here⟩ := List.mem_flatMap.mp inside
    rw [List.cons_append, List.mem_cons, List.mem_append, List.mem_flatMap] at here
    rcases here with found | ⟨c, plain, found⟩ | found
    · cases found
    · by_cases bar : c = '|'
      · subst bar
        simp at found
      · rw [if_neg (by rw [beq_iff_eq]; exact bar), List.mem_singleton] at found
        subst found
        exact lines cell given plain
    · simp at found

/-! ## Entries of lines -/

/-- A line that is read as an entry. -/
structure Reads (line : List Char) (found : Entry) : Prop where
  whole : Text.trimLineEnd line = line
  busy : isIdle line = false
  entry : entry line = .ok found

private theorem reads_solid {first : Char} {text : List Char} {found : Entry}
    (start : Text.isBlank first = false) (kept : first ≠ '#')
    (read : entry (first :: text ++ ['|']) = .ok found) : Reads (first :: text ++ ['|']) found where
  whole := Text.trimEndBy_of_kept (by decide) _
  busy := by
    have comment : (some first == some '#') = false := by
      rw [beq_eq_false_iff_ne]
      exact fun same => kept (Option.some.inj same)
    rw [isIdle, Text.trim_of_solid start (by decide)]
    exact comment
  entry := read

private theorem reads_row {cells : List String} (some : cells ≠ [])
    (trimmed : ∀ cell ∈ cells, Text.trim cell.toList = cell.toList) :
    Reads (Sink.frame cells) (.row cells) := by
  have whole := cells?_frame some trimmed
  obtain ⟨cell, cells, rfl⟩ := List.exists_cons_of_ne_nil some
  rw [frame_cons] at whole ⊢
  refine reads_solid (by decide) (by decide) ?_
  have kept := Text.trimEndBy_of_kept (by decide : Text.isBlank '|' = false)
    ('|' :: inside cell cells)
  rw [List.cons_append] at kept whole ⊢
  rw [entry, kept, whole]

/-- A definition: a key behind a semicolon, and framed cells behind a colon. -/
def definition (key : String) (cells : List String) : List Char :=
  ';' :: ' ' :: key.toList ++ ':' :: ' ' :: Sink.frame cells

private theorem reads_definition {key : String} (plain : ':' ∉ key.toList)
    (bare : Text.trim key.toList = key.toList) {cells : List String} (some : cells ≠ [])
    (trimmed : ∀ cell ∈ cells, Text.trim cell.toList = cell.toList) :
    Reads (definition key cells) (.extra key cells) := by
  have whole := cells?_frame some trimmed
  obtain ⟨cell, cells, rfl⟩ := List.exists_cons_of_ne_nil some
  have absent : ':' ∉ ' ' :: key.toList := by
    intro member
    obtain found | found := List.mem_cons.mp member
    · cases found
    · exact plain found
  have framed : Text.trim (' ' :: Sink.frame (cell :: cells)) = Sink.frame (cell :: cells) := by
    rw [Text.trim_cons_blank (by decide), frame_cons, Text.trim_of_solid (by decide) (by decide)]
  have line : definition key (cell :: cells) =
      ';' :: (' ' :: key.toList ++ ':' :: ' ' :: '|' :: inside cell cells) ++ ['|'] := by
    rw [definition, frame_cons]
    simp only [List.cons_append, List.append_assoc]
  have read : extra (' ' :: key.toList ++ ':' :: ' ' :: Sink.frame (cell :: cells)) =
      .ok (.extra key (cell :: cells)) := by
    have bar : (Sink.frame (cell :: cells)).head? == .some '|' := rfl
    simp only [extra, Text.splitOnce?_append absent, framed, bar, if_true, whole,
      Text.trim_cons_blank (by decide : Text.isBlank ' ' = true), bare, String.ofList_toList]
  have found : entry (definition key (cell :: cells)) = .ok (.extra key (cell :: cells)) := read
  rw [line] at found ⊢
  exact reads_solid (by decide) (by decide) found

private theorem entries_of_reads {lines : List (List Char)} {found : List Entry}
    (reads : List.Forall₂ Reads lines found) (number : Nat) :
    entries number (Feed.ofList (lines.map Utf8.encode)) = Feed.ofList found := by
  induction reads generalizing number with
  | nil => rfl
  | @cons line one lines more first others ih =>
      rw [List.map_cons, Feed.ofList, List.map_cons, entries, Utf8.decodeLossy_encode, first.whole,
        first.busy, if_neg Bool.false_ne_true, first.entry]
      exact congrArg _ (ih (number + 1))

/-! ## Definitions and rows -/

private theorem solid_portableType (type : String) : Solid (portableType type) := by
  unfold portableType
  split <;> exact ⟨by decide, by decide +kernel, by decide +kernel⟩

private theorem Carried.line {cell : Cell} (word : ∀ word, null = some word → Solid word)
    (carried : Carried null cell) :
    '\n' ∉ (cell.toTextOr null).toList ∧
      Text.trim (cell.toTextOr null).toList = (cell.toTextOr null).toList := by
  cases carried with
  | null =>
      cases null with
      | none => exact ⟨List.not_mem_nil, rfl⟩
      | some given => exact ⟨(word given rfl).line, (word given rfl).trimmed⟩
  | text solid other => exact ⟨solid.line, solid.trimmed⟩

private theorem Carried.read {cell : Cell} (word : ∀ word, null = some word → Solid word)
    (carried : Carried null cell) : Framed.cell null (cell.toTextOr null) = cell := by
  cases carried with
  | null =>
      cases null with
      | none => rfl
      | some given =>
          have filled : ¬given.isEmpty = true := fun empty =>
            (word given rfl).filled (String.isEmpty_iff.mp empty)
          exact (if_neg filled).trans (Cell.nullIf_word given)
  | @text value solid other =>
      have filled : ¬value.isEmpty = true := fun empty => solid.filled (String.isEmpty_iff.mp empty)
      exact (if_neg filled).trans (Cell.nullIf_of_ne other)

private theorem Table.read_row (table : Table null columns types rows) {row : Row}
    (member : row ∈ rows) :
    Row.fit columns.length ((row.map (Cell.toTextOr null)).map (Framed.cell null)) = row := by
  have cells : (row.map (Cell.toTextOr null)).map (Framed.cell null) = row := by
    rw [List.map_map]
    refine (List.map_congr_left fun one given => ?_).trans (List.map_id row)
    exact (table.cell row member one given).read table.word
  rw [cells, Row.fit_of_length (table.width row member)]

private theorem Table.schema (table : Table null columns types rows) (first : List String) :
    Definition.schema ⟨columns, types.map portableType⟩ first =
      .ok ⟨columns, types.map portableType⟩ := by
  have named : columns.isEmpty = false := List.isEmpty_eq_false_iff.mpr table.named
  have typed : (types.map portableType).isEmpty = false := by
    rw [List.isEmpty_eq_false_iff, ← List.length_pos_iff, List.length_map, table.typed,
      List.length_pos_iff]
    exact table.named
  have same : (columns.length != (types.map portableType).length) = false := by
    rw [List.length_map, table.typed, bne_self_eq_false]
  have names : headerNames [] columns = columns :=
    headerNames_of_distinct table.distinct fun column given => (table.column column given).filled
  simp only [Definition.schema, named, typed, same, names, Bool.false_eq_true, if_false]

private theorem rows_ofList (found : List (List String)) :
    Framed.rows (Feed.ofList (found.map .row)) = Feed.ofList found := by
  induction found with
  | nil => rfl
  | cons cells found ih => exact congrArg _ ih

/-! ## Tables -/

private theorem linewise (null : Option String) (columns types : List String) :
    Sink.Linewise ⟨.framed, null⟩ columns types
      [definition "name" columns, definition "type" (types.map portableType)]
      (fun row => Sink.frame (row.map (Cell.toTextOr null))) where
  start := by
    have lines : terminated
        [definition "name" columns, definition "type" (types.map portableType)] =
        "; name: ".toList ++ Sink.frame columns ++ "\n; type: ".toList ++
          Sink.frame (types.map portableType) ++ ['\n'] := by
      have separator : "\n; type: ".toList = '\n' :: "; type: ".toList := rfl
      have name : definition "name" columns = "; name: ".toList ++ Sink.frame columns := rfl
      have type : definition "type" (types.map portableType) =
          "; type: ".toList ++ Sink.frame (types.map portableType) := rfl
      rw [terminated, List.flatMap_cons, List.flatMap_singleton, name, type, separator]
      simp only [List.append_assoc, List.cons_append, List.nil_append]
    rw [lines]
    rfl
  row := fun _ => rfl
  finish := rfl

/-- The lines of a table: the definition of the columns, and a frame for every row. -/
def written (null : Option String) (columns types : List String) (rows : List Row) :
    List (List Char) :=
  [definition "name" columns, definition "type" (types.map portableType)] ++
    rows.map fun row => Sink.frame (row.map (Cell.toTextOr null))

private theorem Table.texts (table : Table null columns types rows) {row : Row}
    (member : row ∈ rows) :
    row.map (Cell.toTextOr null) ≠ [] ∧ ∀ text ∈ row.map (Cell.toTextOr null),
      '\n' ∉ text.toList ∧ Text.trim text.toList = text.toList := by
  constructor
  · rw [← List.length_pos_iff, List.length_map, table.width row member, List.length_pos_iff]
    exact table.named
  · intro text given
    obtain ⟨cell, inside, rfl⟩ := List.mem_map.mp given
    exact (table.cell row member cell inside).line table.word

theorem Table.types_ne_nil (table : Table null columns types rows) :
    types.map portableType ≠ [] := by
  rw [← List.length_pos_iff, List.length_map, table.typed, List.length_pos_iff]
  exact table.named

private theorem Table.lines (table : Table null columns types rows) :
    ∀ line ∈ written null columns types rows, '\n' ∉ line := by
  have behind : ∀ (key : String) (cells : List String), '\n' ∉ key.toList →
      (∀ cell ∈ cells, '\n' ∉ cell.toList) → '\n' ∉ definition key cells := by
    intro key cells plain lines member
    rw [definition, List.mem_append, List.mem_cons, List.mem_cons, List.mem_cons,
      List.mem_cons] at member
    rcases member with (found | found | found) | found | found | found
    · cases found
    · cases found
    · exact plain found
    · cases found
    · cases found
    · exact newline_not_mem_frame lines found
  intro line member
  rw [written, List.mem_append, List.mem_cons, List.mem_singleton, List.mem_map] at member
  rcases member with (rfl | rfl) | ⟨row, given, rfl⟩
  · exact behind _ _ (by decide) fun column known => (table.column column known).line
  · refine behind _ _ (by decide) fun text known => ?_
    obtain ⟨type, -, rfl⟩ := List.mem_map.mp known
    exact (solid_portableType type).line
  · exact newline_not_mem_frame fun text known => ((table.texts given).2 text known).1

private theorem Table.reads (table : Table null columns types rows) :
    List.Forall₂ Reads (written null columns types rows)
      ([.extra "name" columns, .extra "type" (types.map portableType)] ++
        (rows.map fun row => row.map (Cell.toTextOr null)).map .row) := by
  refine .cons ?name (.cons ?type ?rows)
  case name =>
    exact reads_definition (by decide) (by decide) table.named fun column known =>
      (table.column column known).trimmed
  case type =>
    refine reads_definition (by decide) (by decide) table.types_ne_nil fun text known => ?_
    obtain ⟨type, -, rfl⟩ := List.mem_map.mp known
    exact (solid_portableType type).trimmed
  case rows =>
    refine List.forall₂_map_left_iff.mpr (List.forall₂_map_right_iff.mpr
      (List.forall₂_map_right_iff.mpr (List.forall₂_same.mpr fun row given => ?_)))
    obtain ⟨some, texts⟩ := table.texts given
    exact reads_row some fun text known => (texts text known).2

/-- A written table is read as it was: the names are the columns, the types their portable names,
and the rows are read in order, first those of the window. -/
theorem framed_round_trip {write : WriteOptions} {read : ReadOptions} (format : write.format = .tbln)
    (same : read.null = write.null) (window : 1 ≤ read.ahead) (whole : read.onlyAhead = false)
    (table : Table write.null columns types rows) (inhabited : rows ≠ []) :
    ∃ sink output source, Sink.ofOptions write = .ok sink ∧
      Run.writeResult TextOutput.writer ⟨columns, types, Feed.ofList rows⟩ { sink } =
        (.ok (), output) ∧
      Framed.source read ⟨Utf8.bytes output.text, true⟩ = .ok source ∧
      source.names = .ok columns ∧
      source.types = .ok (types.map portableType) ∧
      source.takeAhead.1 = rows.take read.ahead ∧
      source.rows = Feed.ofList rows := by
  have made : Sink.ofOptions write = .ok ⟨.framed, write.null⟩ := by
    rw [Sink.ofOptions, format]
    rfl
  obtain ⟨output, done, lines⟩ := (linewise write.null columns types).lines rows table.lines
  obtain ⟨first, others, rfl⟩ := List.exists_cons_of_ne_nil inhabited
  obtain ⟨count, more⟩ := Nat.exists_eq_add_of_le' window
  let texts := fun row : Row => row.map (Cell.toTextOr write.null)
  let row := fun cells : List String => Row.fit columns.length (cells.map (cell read.null))
  have readBack : ((first :: others).map texts).map row = first :: others := by
    rw [List.map_map]
    refine (List.map_congr_left fun one given => ?_).trans (List.map_id _)
    simp only [Function.comp, row, texts, same]
    exact table.read_row given
  have found : Framed.source read ⟨Utf8.bytes output.text, true⟩ = .ok (.table
      (some ⟨columns, types.map portableType⟩)
      ((((first :: others).map texts).take read.ahead).map row)
      (read.liveRows (Feed.map row (Feed.ofList (((first :: others).map texts).drop read.ahead))))) := by
    have opened : opening {} (entries 1 (Input.lines ⟨Utf8.bytes output.text, true⟩)) =
        .ok (⟨columns, types.map portableType⟩, some (texts first),
          Feed.ofList ((others.map texts).map .row)) := by
      have entries := entries_of_reads table.reads 1
      rw [written] at entries
      rw [lines, entries]
      rfl
    rw [Framed.source, opened]
    change (Definition.schema _ _ >>= _) = _
    rw [table.schema]
    change (Feed.take _ _ >>= _) = _
    rw [rows_ofList, Feed.take_ofList, more]
    rfl
  refine ⟨_, output, _, made, done, found, rfl, rfl, ?ahead, ?every⟩
  case ahead =>
    rw [Source.takeAhead, List.map_take, readBack]
  case every =>
    rw [Source.rows_window whole, readBack]

/-- Names and texts that are, begin or end with bars, a null, a type of an engine, and a row behind
the window. -/
theorem framed_round_trip_bars :
    let write : WriteOptions := { format := .tbln, null := some "\\N|" }
    let read : ReadOptions := { null := some "\\N|" }
    let columns := ["|", "a: b"]
    let types := ["INT8", "x|"]
    let rows : List Row := [[.text "||x |", .null], [.text "; name: |", .text "#|||"]]
    Table write.null columns types rows ∧ ∃ sink output source, Sink.ofOptions write = .ok sink ∧
      Run.writeResult TextOutput.writer ⟨columns, types, Feed.ofList rows⟩ { sink } =
        (.ok (), output) ∧
      Framed.source read ⟨Utf8.bytes output.text, true⟩ = .ok source ∧
      source.names = .ok columns ∧
      source.types = .ok (types.map portableType) ∧
      source.takeAhead.1 = rows.take read.ahead ∧
      source.rows = Feed.ofList rows := by
  intro write read columns types rows
  have solid : ∀ text ∈ ["|", "a: b", "\\N|", "||x |", "; name: |", "#|||"], Solid text := by
    decide +kernel
  have table : Table write.null columns types rows := by
    refine ⟨by decide, by decide +kernel, ?column, by decide, ?word, by decide, ?cell⟩
    case column =>
      simp only [columns, List.forall_mem_cons]
      exact ⟨solid _ (by decide), solid _ (by decide), List.forall_mem_nil _⟩
    case word =>
      rintro word ⟨⟩
      exact solid _ (by decide)
    case cell =>
      simp only [rows, List.forall_mem_cons]
      exact ⟨⟨.text (solid _ (by decide)) (by decide), .null, List.forall_mem_nil _⟩,
        ⟨.text (solid _ (by decide)) (by decide), .text (solid _ (by decide)) (by decide),
          List.forall_mem_nil _⟩, List.forall_mem_nil _⟩
  exact ⟨table, framed_round_trip rfl rfl (by decide) rfl table (by decide)⟩

end Tabular.Framed
