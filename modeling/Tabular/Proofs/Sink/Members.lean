import Tabular.Proofs.Document
import Tabular.Proofs.RoundTrip.Labelled

/-!
# Columns of written rows

A row is written with a label for every column, or as a record that has a member for every name. The
columns of a result may share a name. A record then has the cell of the last one among them, in the
place of the first.
-/

set_option autoImplicit false

namespace Tabular

open TextOutput

/-- One part for every column, made of its name and of the cell below it. -/
structure PerColumn {α : Type} (part : String → Cell → α) (columns : List String) (row : Row)
    (parts : List α) : Prop where
  length : parts.length = columns.length
  parts : parts = List.zipWith part columns row

/-- One member for every name of a column. Its value is that of the last cell below this name. -/
structure PerName (null : Option String) (columns : List String) (row : Row)
    (members : List (String × Document)) : Prop where
  names : members.map Prod.fst = columns.eraseDups
  last : ∀ (position : Nat) (column : String) (cell : Cell), columns[position]? = some column →
    (∀ later, position < later → columns[later]? ≠ some column) → row[position]? = some cell →
    Document.field? members column = some (cell.document null)
  distinct : columns.Nodup →
    PerColumn (fun column cell => (column, cell.document null)) columns row members
  repeated : ¬columns.Nodup → members.length < columns.length

variable {null : Option String} {columns types : List String} {row : Row} {rows : List Row}

/-! ## Members of a row -/

private theorem perColumn_zipWith {α : Type} (part : String → Cell → α)
    (width : row.length = columns.length) :
    PerColumn part columns row (List.zipWith part columns row) where
  length := by rw [List.length_zipWith, width, Nat.min_self]
  parts := rfl

/-- What a row has for its columns, before those of one name are taken together. -/
def Row.entries (null : Option String) (columns : List String) (row : Row) :
    List (String × Document) :=
  List.zipWith (fun column cell => (column, cell.document null)) columns row

private theorem Row.keys_entries (null : Option String) (width : row.length = columns.length) :
    (row.entries null columns).map Prod.fst = columns := by
  have zipped : (columns.zip row).map (fun pair => (pair.1, pair.2.document null)) =
      row.entries null columns :=
    List.map_zip_eq_zipWith
  rw [← zipped, List.map_map]
  exact List.map_fst_zip width.ge

private theorem perName_members (null : Option String) (width : row.length = columns.length) :
    PerName null columns row (Document.fieldsOf (row.entries null columns)) where
  names := by rw [Document.keys_fieldsOf, Row.keys_entries null width]
  last := by
    intro position column cell named latest below
    rw [Document.field?_fieldsOf]
    have here : (row.entries null columns)[position]? = some (column, cell.document null) := by
      rw [Row.entries, List.getElem?_zipWith, named, below]
    exact Document.field?_reverse_of_last here (by rwa [Row.keys_entries null width])
  distinct := by
    intro distinct
    rw [Document.fieldsOf_of_nodup (by rwa [Row.keys_entries null width])]
    exact perColumn_zipWith _ width
  repeated := by
    intro repeated
    have whole : (row.entries null columns).length = columns.length :=
      (perColumn_zipWith _ width).length
    rw [← whole]
    exact Document.length_fieldsOf_lt (by rwa [Row.keys_entries null width])

/-! ## Rows that are gathered -/

/-- A sink that keeps the records of all rows and writes them at the end. -/
structure Sink.Gathering (form : List Document → SinkForm) (given : List Document → String) :
    Prop where
  start : ∀ stale null columns types,
    Sink.start ⟨form stale, null⟩ columns types = ("", ⟨form [], null⟩)
  row : ∀ kept null row columns, Sink.row ⟨form kept, null⟩ row columns =
    ("", ⟨form (kept ++ [row.document null columns]), null⟩)
  finish : ∀ kept null, (Sink.finish ⟨form kept, null⟩).1 = given kept

private theorem Sink.gathering_jsonList :
    Gathering .jsonList fun records => Json.pretty 0 (.list records) ++ "\n" :=
  ⟨fun _ _ _ _ => rfl, fun _ _ _ _ => rfl, fun _ _ => rfl⟩

private theorem Sink.gathering_yaml : Gathering .yaml fun records => Yaml.render (.list records) :=
  ⟨fun _ _ _ _ => rfl, fun _ _ _ _ => rfl, fun _ _ => rfl⟩

section

variable {form : List Document → SinkForm} {given : List Document → String}

private theorem Sink.Gathering.writeResult (gathering : Gathering form given)
    (columns types : List String) (rows : List Row) (stale : List Document) :
    ∃ output, Run.writeResult writer ⟨columns, types, Feed.ofList rows⟩
        { sink := ⟨form stale, null⟩ } = (.ok (), output) ∧
      output.text = given (rows.map (Row.document null columns)) := by
  let fresh : TextOutput := { sink := ⟨form stale, null⟩ }
  have announced : (writer.start columns types fresh).2.sink = ⟨form [], null⟩ := by
    simp only [writer, add, fresh, gathering.start]
  have silent : (writer.start columns types fresh).2.text = "" := by
    simp only [writer, text_add, fresh, gathering.start, String.append_empty]
    rfl
  obtain ⟨later, written, sink, text⟩ := Run.writeRows_keeping form
    (fun kept row => gathering.row kept null row columns) rows announced
  obtain ⟨last, done, -, whole⟩ := Run.writeResult_of_written written
  refine ⟨last, done, ?_⟩
  rw [whole, text, silent, sink, gathering.finish, String.empty_append, List.nil_append]

end

/-! ## Rows that are numbered -/

/-- The line of a column. Its name is aligned with the longest one. -/
def Sink.verticalLine (null : Option String) (columns : List String) (column : String)
    (cell : Cell) : String :=
  rightAligned ((columns.map String.length).foldl Nat.max 0) column ++ ": " ++
    cell.toTextOr null ++ "\n"

/-- The lines of a row below its number. -/
def Sink.numbered (number : Nat) (lines : List String) : String :=
  stars ++ " " ++ toString number ++ ". row " ++ stars ++ "\n" ++ String.join lines

private theorem Sink.writeRows_vertical (columns : List String) (rows : List Row) {count : Nat}
    {output : TextOutput} (same : output.sink =
      ⟨.vertical ((columns.map String.length).foldl Nat.max 0) count, null⟩) :
    ∃ later, Run.writeRows writer columns (Feed.ofList rows) output = (.ok (), later) ∧
      later.sink.finish.1 = "" ∧
      later.text = output.text ++
        String.join ((rows.map (List.zipWith (verticalLine null columns) columns)).mapIdx
          fun position lines => numbered (count + position + 1) lines) := by
  induction rows generalizing count output with
  | nil =>
      refine ⟨output, rfl, ?_, String.append_empty.symm⟩
      rw [same]
      rfl
  | cons row rows ih =>
      have step : (writer.row row columns output).2.sink =
          ⟨.vertical ((columns.map String.length).foldl Nat.max 0) (count + 1), null⟩ := by
        simp only [writer, add, same, Sink.row]
      have line : (writer.row row columns output).2.text = output.text ++
          numbered (count + 1) (List.zipWith (verticalLine null columns) columns row) := by
        simp only [writer, text_add, same, Sink.row]
        rfl
      obtain ⟨later, written, silent, text⟩ := ih step
      refine ⟨later, written, silent, ?_⟩
      rw [text, line, List.map_cons, List.mapIdx_cons, String.join_cons, String.append_assoc]
      simp only [Nat.add_zero, Nat.add_assoc, Nat.add_comm 1]

private theorem Sink.writeResult_vertical (null : Option String) (columns types : List String)
    (rows : List Row) :
    ∃ output, Run.writeResult writer ⟨columns, types, Feed.ofList rows⟩
        { sink := ⟨.vertical 0 0, null⟩ } = (.ok (), output) ∧
      output.text = String.join
        ((rows.map (List.zipWith (verticalLine null columns) columns)).mapIdx
          fun position lines => numbered (position + 1) lines) := by
  let fresh : TextOutput := { sink := ⟨.vertical 0 0, null⟩ }
  have announced : (writer.start columns types fresh).2.sink =
      ⟨.vertical ((columns.map String.length).foldl Nat.max 0) 0, null⟩ := rfl
  obtain ⟨later, written, silent, text⟩ := writeRows_vertical columns rows announced
  obtain ⟨last, done, -, whole⟩ := Run.writeResult_of_written written
  refine ⟨last, done, ?_⟩
  rw [whole, silent, String.append_empty, text]
  simp only [Nat.zero_add]
  exact String.empty_append

/-! ## What is written in each format -/

namespace Run

/-- The text that is written for a result when a sink is made for it. -/
def Writes (options : WriteOptions) (columns types : List String) (rows : List Row)
    (text : String) : Prop :=
  ∃ sink output, Sink.ofOptions options = .ok sink ∧
    writeResult writer ⟨columns, types, Feed.ofList rows⟩ { sink } = (.ok (), output) ∧
    output.text = text

variable {options : WriteOptions}

private theorem writes_gathered {form : List Document → SinkForm} {given : List Document → String}
    (gathering : Sink.Gathering form given)
    (made : Sink.ofOptions options = .ok ⟨form [], options.null⟩) (columns types : List String)
    (rows : List Row) :
    Writes options columns types rows (given (rows.map (Row.document options.null columns))) := by
  obtain ⟨output, written, text⟩ := gathering.writeResult columns types rows []
  exact ⟨_, output, made, written, text⟩

private theorem writes_lines {sink : Sink} {line : Row → List Char}
    (linewise : sink.Linewise columns types [] line) (made : Sink.ofOptions options = .ok sink)
    (rows : List Row) :
    Writes options columns types rows (String.ofList (terminated (rows.map line))) := by
  obtain ⟨output, written, text⟩ := linewise.writeResult rows
  refine ⟨sink, output, made, written, ?_⟩
  rw [← String.ofList_toList (s := output.text), text, List.nil_append]

private theorem linewise_jsonLines (null : Option String) (columns types : List String) :
    Sink.Linewise ⟨.jsonLines, null⟩ columns types []
      fun row => (Json.compact (row.document null columns)).toList where
  start := rfl
  row := by
    intro row
    have ended (text : String) : text ++ "\n" = String.ofList (text.toList ++ ['\n']) := by
      apply String.toList_inj.mp
      rw [String.toList_append]
      exact String.toList_ofList.symm
    rw [← ended]
    rfl
  finish := rfl

/-- A sink for records writes for every row a record with one member for every name: one for every
column if no two columns share a name, and fewer otherwise. A sink for labelled fields and one for
vertical lines write a field or a line for every column. -/
theorem columns_written (options : WriteOptions) (columns types : List String) (rows : List Row)
    (width : ∀ row ∈ rows, row.length = columns.length) :
    (∃ records, List.Forall₂ (PerName options.null columns) rows records ∧
      (options.format = .json → Writes options columns types rows
        (Json.pretty 0 (.list (records.map .record)) ++ "\n")) ∧
      (options.format = .jsonl → Writes options columns types rows (String.ofList
        (terminated (records.map fun members => (Json.compact (.record members)).toList)))) ∧
      (options.format = .yaml → Writes options columns types rows
        (Yaml.render (.list (records.map .record))))) ∧
    (∃ lines, List.Forall₂ (PerColumn (Labelled.field options.null) columns) rows lines ∧
      (options.format = .ltsv → Writes options columns types rows
        (String.ofList (terminated (lines.map ['\t'].intercalate))))) ∧
    (∃ blocks,
      List.Forall₂ (PerColumn (Sink.verticalLine options.null columns) columns) rows blocks ∧
      (options.format = .vertical → Writes options columns types rows (String.join
        (blocks.mapIdx fun position lines => Sink.numbered (position + 1) lines)))) := by
  have documents : rows.map (Row.document options.null columns) =
      (rows.map fun row => Document.fieldsOf (row.entries options.null columns)).map .record := by
    rw [List.map_map]
    rfl
  have parted {α : Type} (part : String → Cell → α) :
      List.Forall₂ (PerColumn part columns) rows (rows.map (List.zipWith part columns)) :=
    List.forall₂_map_right_iff.mpr (List.forall₂_same.mpr fun row member =>
      perColumn_zipWith part (width row member))
  refine ⟨⟨_, List.forall₂_map_right_iff.mpr (List.forall₂_same.mpr fun row member =>
    perName_members options.null (width row member)), ?json, ?jsonl, ?yaml⟩,
    ⟨_, parted _, ?ltsv⟩, ⟨_, parted _, ?vertical⟩⟩
  case json =>
    intro format
    rw [← documents]
    exact writes_gathered Sink.gathering_jsonList (by rw [Sink.ofOptions, format]; rfl) _ _ _
  case jsonl =>
    intro format
    have written := writes_lines (linewise_jsonLines options.null columns types)
      (by rw [Sink.ofOptions, format]; rfl) rows
    rw [List.map_map]
    exact written
  case yaml =>
    intro format
    rw [← documents]
    exact writes_gathered Sink.gathering_yaml (by rw [Sink.ofOptions, format]; rfl) _ _ _
  case ltsv =>
    intro format
    have written := writes_lines (Labelled.linewise options.null columns types)
      (by rw [Sink.ofOptions, format]; rfl) rows
    rw [List.map_map]
    exact written
  case vertical =>
    intro format
    obtain ⟨output, written, text⟩ := Sink.writeResult_vertical options.null columns types rows
    exact ⟨_, output, by rw [Sink.ofOptions, format]; rfl, written, text⟩

/-- Two columns of one name around another one, and a null in the last of them. -/
theorem columns_written_join :
    let options : WriteOptions := { format := .jsonl, null := some "-" }
    let columns := ["id", "name", "id"]
    let types := ["int", "text", "int"]
    let rows : List Row := [[.int 1, .text "x", .int 2], [.int 3, .text "[]", .null]]
    (∀ row ∈ rows, row.length = columns.length) ∧
      ∃ records, List.Forall₂ (PerName options.null columns) rows records ∧
        Writes options columns types rows (String.ofList
          (terminated (records.map fun members => (Json.compact (.record members)).toList))) ∧
        Writes options columns types rows
          "\x7b\"id\":2,\"name\":\"x\"\x7d\n\x7b\"id\":\"-\",\"name\":[]\x7d\n" := by
  intro options columns types rows
  have width : ∀ row ∈ rows, row.length = columns.length := by decide
  obtain ⟨⟨records, named, -, written, -⟩, -⟩ := columns_written options columns types rows width
  exact ⟨width, records, named, written rfl, _, _, rfl, rfl, by decide +kernel⟩

/-- The first of two columns of one name is missing in a record, and stands in a line of labels. -/
theorem joined_column_missing :
    let columns := ["a", "a"]
    let types := ["int", "int"]
    let row : Row := [.int 1, .int 2]
    row.length = columns.length ∧
      Writes { format := .jsonl } columns types [row] "\x7b\"a\":2\x7d\n" ∧
      Writes { format := .yaml } columns types [row] "- a: 2\n" ∧
      Writes { format := .ltsv } columns types [row] "a:1\ta:2\n" ∧
      ¬∃ members, row.document none columns = .record members ∧
        PerColumn (fun column cell => (column, cell.document none)) columns row members := by
  intro columns types row
  refine ⟨rfl, ⟨_, _, rfl, rfl, by decide +kernel⟩, ⟨_, _, rfl, rfl, by decide +kernel⟩,
    ⟨_, _, rfl, rfl, by decide +kernel⟩, ?_⟩
  rintro ⟨members, made, perColumn⟩
  have single : row.document none columns = .record [("a", .number (.integer 2))] := by
    decide +kernel
  cases made.symm.trans single
  cases perColumn.length

end Run

end Tabular
