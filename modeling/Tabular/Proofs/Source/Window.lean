import Mathlib.Data.List.TakeWhile
import Tabular.Proofs.Source.Names

/-!
# The window of rows read ahead

The columns of a source are found in the rows that are read ahead. A larger window can add columns
behind those of a smaller one, and rows are laid out in the columns there are. So every row of the
smaller window is the row of the larger one, cut to fewer columns.
-/

set_option autoImplicit false

namespace Tabular

/-! ## Sources with different windows -/

namespace Source

/-- The names of the columns, none if no row was seen. -/
def columns (source : Source) : List String :=
  match source.schema? with
  | some schema => schema.names
  | none => []

/-- The rows read ahead, and those that follow them. -/
def rows (source : Source) : Feed Row :=
  Feed.ofList source.takeAhead.1 ++ source.takeAhead.2.live

/-- A source whose columns come first in another one, and whose rows are the rows of the other one
cut to them. -/
structure Narrows (narrow wide : Source) : Prop where
  columns : narrow.columns <+: wide.columns
  rows : narrow.rows = Feed.map (List.take narrow.columns.length) wide.rows

private theorem columns_of_names {source : Source} {names types : List String}
    (made : source.schema? = if names.isEmpty then none else some ⟨names, types⟩) :
    source.columns = names := by
  rw [columns, made]
  by_cases empty : names.isEmpty
  · rw [if_pos empty]
    exact (List.isEmpty_iff.mp empty).symm
  · rw [if_neg empty]

private theorem columns_of_made {made : Result Source} {source : Source} {names : List String}
    (same : made = .ok source) (found : made.map columns = .ok names) : source.columns = names := by
  subst same
  exact Except.ok.inj found

variable {α : Type}

theorem rows_window {options : ReadOptions} (wanted : options.onlyAhead = false)
    (schema : Option Schema) (row : α → Row) (pieces : List α) (count : Nat) :
    (Source.table schema ((pieces.take count).map row)
      (options.liveRows (Feed.map row (Feed.ofList (pieces.drop count))))).rows =
        Feed.ofList (pieces.map row) := by
  have joined : pieces.map row = (pieces.take count).map row ++ (pieces.drop count).map row := by
    rw [← List.map_append, List.take_append_drop]
  rw [joined, Feed.ofList_append, ← Feed.map_ofList row (pieces.drop count)]
  simp only [rows, takeAhead, live, ReadOptions.liveRows, wanted, Bool.false_eq_true, if_false]

private theorem Narrows.of_rows {narrow wide : Source} {pieces : List α} {short long : α → Row}
    (columns : narrow.columns <+: wide.columns) (few : narrow.rows = Feed.ofList (pieces.map short))
    (many : wide.rows = Feed.ofList (pieces.map long))
    (cut : ∀ piece ∈ pieces, short piece = (long piece).take narrow.columns.length) :
    narrow.Narrows wide := by
  refine ⟨columns, ?_⟩
  rw [few, many, Feed.map_ofList, List.map_map]
  exact congrArg Feed.ofList (List.map_congr_left cut)

end Source

/-! ## Delimited records -/

private theorem Row.fit_eq_take {narrow wide : Nat} (fewer : narrow ≤ wide) (row : Row) :
    Row.fit narrow row = (Row.fit wide row).take narrow := by
  simp only [Row.fit, List.take_append, List.take_take, List.take_replicate, List.length_take,
    Nat.min_eq_left fewer]
  congr 2
  omega

private theorem prefix_growNames (names : List String) (width : Nat) :
    names <+: growNames names width := by
  obtain ⟨added, grown, -⟩ := exists_headerNames names (List.replicate (width - names.length) "")
  exact ⟨added, grown.symm⟩

theorem length_growNames (names : List String) (width : Nat) :
    (growNames names width).length = Nat.max names.length width := by
  rw [growNames, length_headerNames, List.length_replicate]
  simp only [Nat.max_def]
  split <;> omega

namespace Delimited

variable (options : ReadOptions) (records : List Fields)

/-- The number of records that are taken for a header. -/
def headers : Nat :=
  if options.header then 1 else 0

def header : List Fields :=
  (records.drop options.skip).take (headers options)

/-- The records that have a row. -/
def body : List Fields :=
  (records.drop options.skip).drop (headers options)

/-- The records read ahead. The header takes the place of one of them. -/
def window : List Fields :=
  (body options records).take (options.ahead - headers options)

def grown (names : List String) (records : List Fields) : List String :=
  records.foldl (fun names fields => growNames names fields.length) names

def names : List String :=
  grown ((header options records).map headerOf).flatten (window options records)

theorem prefix_grown (names : List String) (records : List Fields) :
    names <+: grown names records := by
  induction records generalizing names with
  | nil => exact List.prefix_refl names
  | cons fields records ih => exact (prefix_growNames names fields.length).trans (ih _)

theorem length_grown (names : List String) (records : List Fields) :
    (grown names records).length = (records.map List.length).foldl Nat.max names.length := by
  induction records generalizing names with
  | nil => rfl
  | cons fields records ih =>
      rw [List.map_cons, List.foldl_cons, ← length_growNames]
      exact ih _

private theorem names_prefix {few many : Nat} (fewer : few ≤ many) :
    names { options with ahead := few } records <+: names { options with ahead := many } records := by
  have within : window { options with ahead := few } records <+:
      window { options with ahead := many } records :=
    List.take_prefix_take_left (Nat.sub_le_sub_right fewer _)
  obtain ⟨more, whole⟩ := within
  have later : names { options with ahead := many } records =
      grown (names { options with ahead := few } records) more := by
    rw [names, ← whole, grown, List.foldl_append]
    rfl
  rw [later]
  exact prefix_grown _ more

theorem length_names :
    (names options records).length =
      ((header options records ++ window options records).map List.length).foldl Nat.max 0 := by
  have first : ((header options records).map headerOf).flatten.length =
      ((header options records).map List.length).foldl Nat.max 0 := by
    rw [header, headers]
    cases options.header with
    | false => rfl
    | true =>
        cases records.drop options.skip with
        | nil => rfl
        | cons fields rest => simp [headerOf, length_headerNames]
  rw [names, length_grown, first, List.map_append, List.foldl_append]

/-- The table of records. -/
def table : Source :=
  let names := names options records
  .table (if names.isEmpty then none else some ⟨names, defaultTypes names.length⟩)
    ((window options records).map (shown options names))
    (options.liveRows (Feed.map (shown options names) (Feed.ofList
      ((body options records).drop (options.ahead - headers options)))))

theorem sourceOf_ofList :
    sourceOf options (Feed.ofList records) = .ok (table options records) := by
  have headed : takeHeader options.header (Feed.ofList (records.drop options.skip)) =
      .ok (((header options records).map headerOf).flatten, Feed.ofList (body options records)) := by
    simp only [takeHeader]
    rw [← headers, Feed.take_ofList]
    rfl
  rw [sourceOf, Feed.discard_ofList]
  change (takeHeader options.header (Feed.ofList (records.drop options.skip)) >>= _) = _
  rw [headed]
  change (Feed.take (options.ahead - headers options) (Feed.ofList (body options records)) >>= _) = _
  rw [Feed.take_ofList]
  rfl

theorem columns_table : (table options records).columns = names options records :=
  Source.columns_of_names rfl

theorem rows_table (wanted : options.onlyAhead = false) :
    (table options records).rows =
      Feed.ofList ((body options records).map (shown options (names options records))) :=
  Source.rows_window wanted _ _ (body options records) (options.ahead - headers options)

private theorem narrows_table {few many : Nat} (wanted : options.onlyAhead = false)
    (fewer : few ≤ many) :
    (table { options with ahead := few } records).Narrows
      (table { options with ahead := many } records) := by
  have columns := names_prefix options records fewer
  apply Source.Narrows.of_rows _ (rows_table { options with ahead := few } records wanted)
    (rows_table { options with ahead := many } records wanted)
  · intro fields _
    rw [columns_table]
    exact Row.fit_eq_take columns.length_le _
  · rw [columns_table, columns_table]
    exact columns

end Delimited

/-! ## Keyed columns -/

namespace KeyedColumns

/-- Columns that come first in others. -/
structure Leads (narrow wide : KeyedColumns) : Prop where
  keys : narrow.keys <+: wide.keys
  names : narrow.names <+: wide.names

variable {narrow wide columns : KeyedColumns}

private theorem Leads.refl (columns : KeyedColumns) : columns.Leads columns :=
  ⟨List.prefix_refl _, List.prefix_refl _⟩

private theorem Leads.trans {middle : KeyedColumns} (first : narrow.Leads middle)
    (last : middle.Leads wide) : narrow.Leads wide :=
  ⟨first.keys.trans last.keys, first.names.trans last.names⟩

private theorem leads_add (columns : KeyedColumns) (key : String) :
    columns.Leads (columns.add key) := by
  by_cases member : key ∈ columns.keys
  · rw [add_of_mem member]
    exact .refl columns
  · rw [add_of_not_mem member]
    exact ⟨List.prefix_append _ _, List.prefix_append _ _⟩

private theorem leads_addAll (columns : KeyedColumns) (keys : List String) :
    columns.Leads (columns.addAll keys) := by
  induction keys generalizing columns with
  | nil => exact .refl columns
  | cons key keys ih => exact (leads_add columns key).trans (ih _)

private theorem leads_foldl (columns : KeyedColumns) (records : List (List String)) :
    columns.Leads (records.foldl addAll columns) := by
  induction records generalizing columns with
  | nil => exact .refl columns
  | cons keys records ih => exact (leads_addAll columns keys).trans (ih _)

private theorem leads_ofRecords {few many : List (List String)} (fewer : few <+: many) :
    (ofRecords few).Leads (ofRecords many) := by
  obtain ⟨more, rfl⟩ := fewer
  rw [ofRecords, ofRecords, List.foldl_append]
  exact leads_foldl _ more

private theorem Leads.project (leads : narrow.Leads wide) (record : List (String × Cell)) :
    narrow.project record = (wide.project record).take narrow.keys.length := by
  obtain ⟨more, whole⟩ := leads.keys
  rw [project_eq_map, project_eq_map, ← whole, List.map_append, List.take_left' (by simp)]

end KeyedColumns

namespace Source

variable {α : Type}

/-- A table of pieces, with a column for each key of those read ahead. -/
def keyed (options : ReadOptions) (keys : α → List String) (row : KeyedColumns → α → Row)
    (pieces : List α) : Source :=
  let columns := KeyedColumns.ofRecords ((pieces.take options.ahead).map keys)
  .table columns.schema? ((pieces.take options.ahead).map (row columns))
    (options.liveRows (Feed.map (row columns) (Feed.ofList (pieces.drop options.ahead))))

section

variable (options : ReadOptions) (keys : α → List String) (row : KeyedColumns → α → Row)
  (pieces : List α)

private theorem columns_keyed :
    (keyed options keys row pieces).columns =
      (KeyedColumns.ofRecords ((pieces.take options.ahead).map keys)).names :=
  columns_of_names rfl

theorem length_columns_keyed :
    (keyed options keys row pieces).columns.length =
      (KeyedColumns.ofRecords ((pieces.take options.ahead).map keys)).keys.length := by
  rw [columns_keyed, (KeyedColumns.wellFormed_ofRecords _).length]

private theorem rows_keyed (wanted : options.onlyAhead = false) :
    (keyed options keys row pieces).rows =
      Feed.ofList (pieces.map (row (.ofRecords ((pieces.take options.ahead).map keys)))) :=
  rows_window wanted _ _ pieces options.ahead

variable {few many : Nat}

private theorem leads_take (fewer : few ≤ many) :
    (KeyedColumns.ofRecords ((pieces.take few).map keys)).Leads
      (.ofRecords ((pieces.take many).map keys)) :=
  KeyedColumns.leads_ofRecords ((List.take_prefix_take_left fewer).map keys)

private theorem prefix_columns_keyed (fewer : few ≤ many) :
    (keyed { options with ahead := few } keys row pieces).columns <+:
      (keyed { options with ahead := many } keys row pieces).columns := by
  rw [columns_keyed, columns_keyed]
  exact (leads_take keys pieces fewer).names

/-- Pieces that are laid out in the columns of their keys only, whatever the window. -/
theorem narrows_keyed (fewer : few ≤ many) (wanted : options.onlyAhead = false)
    (record : α → List (String × Cell))
    (placed : ∀ piece ∈ pieces, ∀ count, few ≤ count →
      row (.ofRecords ((pieces.take count).map keys)) piece =
        (KeyedColumns.ofRecords ((pieces.take count).map keys)).project (record piece)) :
    (keyed { options with ahead := few } keys row pieces).Narrows
      (keyed { options with ahead := many } keys row pieces) := by
  apply Narrows.of_rows (prefix_columns_keyed options keys row pieces fewer)
    (rows_keyed { options with ahead := few } keys row pieces wanted)
    (rows_keyed { options with ahead := many } keys row pieces wanted)
  intro piece member
  have short := placed piece member few (Nat.le_refl few)
  have long := placed piece member many fewer
  rw [length_columns_keyed, short, long]
  exact (leads_take keys pieces fewer).project (record piece)

end

end Source

/-! ## Labelled fields -/

namespace Labelled

/-- A line without a record, or one that has a label in every field. -/
def WellFormed (line : List UInt8) : Prop :=
  isBlank (trimReturns line) = true ∨ ∀ field ∈ (trimReturns line).splitOn 0x09, 0x3A ∈ field

/-- The label and the value of a field that has a colon. -/
def labelled (null : Option String) (field : List UInt8) : Pair :=
  (Utf8.stringLossy (field.takeWhile (· != 0x3A)),
    (Cell.ofBytes (field.dropWhile (· != 0x3A)).tail).nullIf null)

/-- The record of a line that has a label in every field. -/
def recordOf (null : Option String) (line : List UInt8) : Record :=
  ((trimReturns line).splitOn 0x09).map (labelled null)

/-- The records of lines that have a label in every field. Blank lines have none. -/
def recordsOf (null : Option String) (lines : List (List UInt8)) : List Record :=
  (lines.filter fun line => !isBlank line).map (recordOf null)

theorem isBlank_trimReturns (line : List UInt8) : isBlank (trimReturns line) = isBlank line := by
  have returns : (line.reverse.takeWhile (· == 0x0D)).all Ascii.isBlankByte = true := by
    rw [List.all_eq_true]
    intro b member
    obtain rfl : b = 0x0D := by simpa using List.mem_takeWhile_imp (p := (· == 0x0D)) member
    rfl
  have whole := List.takeWhile_append_dropWhile (p := (· == (0x0D : UInt8))) (l := line.reverse)
  calc isBlank (trimReturns line)
    _ = (line.reverse.dropWhile (· == 0x0D)).all Ascii.isBlankByte := List.all_reverse
    _ = line.reverse.all Ascii.isBlankByte := by
      conv_rhs => rw [← whole, List.all_append, returns, Bool.true_and]
    _ = isBlank line := List.all_reverse

theorem pair_of_colon {field : List UInt8} (colon : 0x3A ∈ field) (null : Option String)
    (number : Nat) : pair null number field = .ok (labelled null field) := by
  rw [pair, labelled]
  split
  · rename_i missing
    exact absurd (List.dropWhile_eq_nil_iff.mp missing _ colon) (by decide)
  · rename_i found
    rw [found, List.tail_cons]

private theorem mapM_pair_of_colon {fields : List (List UInt8)}
    (colon : ∀ field ∈ fields, 0x3A ∈ field) (null : Option String) (number : Nat) :
    fields.mapM (pair null number) = .ok (fields.map (labelled null)) := by
  induction fields with
  | nil => rfl
  | cons field fields ih =>
      obtain ⟨first, others⟩ := List.forall_mem_cons.mp colon
      rw [List.mapM_cons, pair_of_colon first, ih others]
      rfl

section

variable {line : List UInt8}

private theorem recordsOf_of_blank (blank : isBlank line = true) (null : Option String)
    (lines : List (List UInt8)) : recordsOf null (line :: lines) = recordsOf null lines := by
  simp [recordsOf, blank]

private theorem recordsOf_of_solid (solid : isBlank line = false) (null : Option String)
    (lines : List (List UInt8)) :
    recordsOf null (line :: lines) = recordOf null line :: recordsOf null lines := by
  simp [recordsOf, solid]

private theorem records_of_blank (blank : isBlank line = true) (null : Option String) (number : Nat)
    (rest : Feed (List UInt8)) :
    records null number (.ok line :: rest) = records null (number + 1) rest := by
  simp [records, isBlank_trimReturns, blank]

theorem records_of_solid (solid : isBlank line = false) (null : Option String) (number : Nat)
    (rest : Feed (List UInt8)) :
    records null number (.ok line :: rest) =
      pairs null number (trimReturns line) :: records null (number + 1) rest := by
  simp [records, isBlank_trimReturns, solid]

private theorem WellFormed.colon (fine : WellFormed line) (solid : isBlank line = false) :
    ∀ field ∈ (trimReturns line).splitOn 0x09, 0x3A ∈ field :=
  fine.resolve_left (by rw [isBlank_trimReturns, solid]; decide)

end

/-- Lines that are well formed give their records, whatever comes behind them. -/
theorem records_append {lines : List (List UInt8)} (fine : ∀ line ∈ lines, WellFormed line)
    (null : Option String) (number : Nat) (rest : Feed (List UInt8)) :
    records null number (Feed.ofList lines ++ rest) =
      Feed.ofList (recordsOf null lines) ++ records null (number + lines.length) rest := by
  induction lines generalizing number with
  | nil => rfl
  | cons line lines ih =>
      obtain ⟨first, others⟩ := List.forall_mem_cons.mp fine
      have later := ih others (number + 1)
      rw [Feed.ofList, Nat.add_right_comm] at later
      rw [Feed.ofList, List.map_cons, List.cons_append, List.length_cons, ← Nat.add_assoc]
      cases blank : isBlank line with
      | true => rw [records_of_blank blank, recordsOf_of_blank blank, later]
      | false =>
          rw [records_of_solid blank, recordsOf_of_solid blank, later, pairs,
            mapM_pair_of_colon (first.colon blank)]
          rfl

theorem records_ofList {lines : List (List UInt8)} (fine : ∀ line ∈ lines, WellFormed line)
    (null : Option String) (number : Nat) :
    records null number (Feed.ofList lines) = Feed.ofList (recordsOf null lines) := by
  simpa [records] using records_append fine null number []

theorem source_ofList {options : ReadOptions} {input : Input} {found : List Record}
    (read : records options.null 1 input.lines = Feed.ofList found) :
    source options input = .ok (.keyed options (fun pairs => pairs.map (·.1))
      KeyedColumns.project (found.drop options.skip)) := by
  rw [source, read, Feed.discard_ofList]
  change (Feed.take options.ahead (Feed.ofList (found.drop options.skip)) >>= _) = _
  rw [Feed.take_ofList]
  rfl

end Labelled

/-! ## Fewer rows ahead -/

/-- With fewer records read ahead, delimited records and labelled fields have the first of their
columns, and rows cut to these. Delimited records have as many columns as the longest of the header
and the records read ahead. -/
theorem Source.narrows_of_fewer_ahead {options : ReadOptions} {few many : Nat}
    (wanted : options.onlyAhead = false) (fewer : few ≤ many) :
    (∀ records : List Delimited.Fields, ∃ narrow wide,
      Delimited.sourceOf { options with ahead := few } (Feed.ofList records) = .ok narrow ∧
      Delimited.sourceOf { options with ahead := many } (Feed.ofList records) = .ok wide ∧
      narrow.Narrows wide ∧
      narrow.columns.length = ((Delimited.header options records ++
        Delimited.window { options with ahead := few } records).map List.length).foldl Nat.max 0) ∧
    (∀ input : Input, input.intact = true →
      (∀ line ∈ Line.split input.bytes, Labelled.WellFormed line.body) → ∃ narrow wide,
        Labelled.source { options with ahead := few } input = .ok narrow ∧
        Labelled.source { options with ahead := many } input = .ok wide ∧
        narrow.Narrows wide) := by
  refine ⟨?delimited, ?labelled⟩
  case delimited =>
    intro records
    refine ⟨_, _, Delimited.sourceOf_ofList _ records, Delimited.sourceOf_ofList _ records,
      Delimited.narrows_table options records wanted fewer, ?_⟩
    rw [Delimited.columns_table, Delimited.length_names]
    rfl
  case labelled =>
    intro input intact fine
    have lines : input.lines = Feed.ofList ((Line.split input.bytes).map Line.body) := by
      rw [Input.lines, intact, Feed.ofList, List.map_map]
      rfl
    have formed : ∀ line ∈ (Line.split input.bytes).map Line.body, Labelled.WellFormed line := by
      simpa using fine
    have read := Labelled.records_ofList formed options.null 1
    rw [← lines] at read
    exact ⟨_, _, Labelled.source_ofList read, Labelled.source_ofList read,
      Source.narrows_keyed options _ _ _ fewer wanted id fun _ _ _ _ => rfl⟩

/-- Ragged records below a header, of which the first is skipped, and labels that come late, twice or
in another case. -/
theorem Source.narrows_of_fewer_ahead_ragged :
    let options : ReadOptions := { header := true, skip := 1 }
    let records : List Delimited.Fields := [["skipped", "", ""], ["a", ""], ["1"], ["1", "", "3"],
      ["1", "2", "3", "4"]].map (List.map Utf8.bytes)
    let input : Input := ⟨Utf8.bytes "x:0\na:1\ta:2\n \nb:3\tA:4\ta:\n", true⟩
    options.onlyAhead = false ∧ 2 ≤ 3 ∧
    (∃ narrow wide,
      Delimited.sourceOf { options with ahead := 2 } (Feed.ofList records) = .ok narrow ∧
      Delimited.sourceOf { options with ahead := 3 } (Feed.ofList records) = .ok wide ∧
      narrow.columns = ["a", "c2"] ∧ wide.columns = ["a", "c2", "c3"] ∧ narrow.Narrows wide ∧
      narrow.columns.length = [2, 1].foldl Nat.max 0) ∧
    (input.intact = true ∧ (∀ line ∈ Line.split input.bytes, Labelled.WellFormed line.body) ∧
      ∃ narrow wide,
        Labelled.source { options with ahead := 1 } input = .ok narrow ∧
        Labelled.source { options with ahead := 2 } input = .ok wide ∧
        narrow.columns = ["a"] ∧ wide.columns = ["a", "b", "A0"] ∧ narrow.Narrows wide) := by
  intro options records input
  have fine : ∀ line ∈ Line.split input.bytes, Labelled.WellFormed line.body := by
    unfold Labelled.WellFormed
    decide +kernel
  have wanted : options.onlyAhead = false := rfl
  refine ⟨wanted, by decide, ?delimited, rfl, fine, ?labelled⟩
  case delimited =>
    obtain ⟨narrow, wide, few, many, narrows, width⟩ :=
      (Source.narrows_of_fewer_ahead wanted (by decide : 2 ≤ 3)).1 records
    exact ⟨narrow, wide, few, many, columns_of_made few (by decide +kernel),
      columns_of_made many (by decide +kernel), narrows, width.trans (by decide +kernel)⟩
  case labelled =>
    obtain ⟨narrow, wide, few, many, narrows⟩ :=
      (Source.narrows_of_fewer_ahead wanted (by decide : 1 ≤ 2)).2 input rfl fine
    exact ⟨narrow, wide, few, many, columns_of_made few (by decide +kernel),
      columns_of_made many (by decide +kernel), narrows⟩

/-! ## Documents -/

namespace Documents

def path (options : ReadOptions) : Path :=
  match options.path with
  | some expression => Path.parse expression
  | none => ⟨[]⟩

/-- The items of documents that have a row. -/
def found (options : ReadOptions) (documents : List Document) : List Document :=
  (documents.flatMap fun document => itemsOf ((path options).apply document)).drop options.skip

theorem items_ofList (path : Path) (documents : List Document) :
    items path (Feed.ofList documents) =
      Feed.ofList (documents.flatMap fun document => itemsOf (path.apply document)) := by
  induction documents with
  | nil => rfl
  | cons document documents ih =>
      rw [Feed.ofList] at ih
      rw [Feed.ofList, List.map_cons, items, ih, List.flatMap_cons, Feed.ofList_append]
      rfl

section

variable (options : ReadOptions) (documents : List Document)

/-- The columns for the items that are read ahead. -/
def columnsOf : KeyedColumns :=
  .ofRecords (((found options documents).take options.ahead).map keysOf)

def table : Source :=
  .keyed options keysOf (project options.null) (found options documents)

theorem sourceOf_ofList :
    sourceOf options (Feed.ofList documents) = .ok (table options documents) := by
  have made : sourceOf options (Feed.ofList documents) =
      (Feed.discard options.skip (items (path options) (Feed.ofList documents)) >>= fun feed =>
        Feed.take options.ahead feed >>= fun taken =>
          let columns := taken.1.foldl register KeyedColumns.empty
          let row := project options.null columns
          .ok (.table columns.schema? (taken.1.map row)
            (options.liveRows (Feed.map row taken.2)))) := rfl
  rw [made, items_ofList, Feed.discard_ofList]
  change (Feed.take options.ahead (Feed.ofList (found options documents)) >>= _) = _
  rw [Feed.take_ofList]
  change Except.ok _ = Except.ok _
  rw [foldl_register]
  rfl

private theorem wellFormed_columnsOf : (columnsOf options documents).WellFormed :=
  KeyedColumns.wellFormed_ofRecords _

theorem columns_table : (table options documents).columns = (columnsOf options documents).names :=
  Source.columns_keyed _ _ _ _

theorem length_columns_table :
    (table options documents).columns.length = (columnsOf options documents).keys.length :=
  Source.length_columns_keyed _ _ _ _

theorem rows_table (wanted : options.onlyAhead = false) :
    (table options documents).rows = Feed.ofList
      ((found options documents).map (project options.null (columnsOf options documents))) :=
  Source.rows_keyed _ _ _ _ wanted

variable {documents}

theorem length_rows_table (wanted : options.onlyAhead = false) :
    (table options documents).rows.length = (found options documents).length := by
  rw [rows_table options documents wanted, Feed.length_ofList, List.length_map]

theorem getElem?_rows_table (wanted : options.onlyAhead = false) {n : Nat} {item : Document}
    (here : (found options documents)[n]? = some item) :
    (table options documents).rows[n]? =
      some (.ok (project options.null (columnsOf options documents) item)) := by
  rw [rows_table options documents wanted, Feed.getElem?_ofList, List.getElem?_map, here]
  rfl

end

/-- An item that is neither a record nor null, where there is no column for it. -/
def Stray (columns : KeyedColumns) : Document → Prop
  | .record _ | .null => False
  | _ => scalarColumn ∉ columns.keys

variable {columns : KeyedColumns} {item : Document}

private theorem record?_of_not_stray (placed : ¬ Stray columns item) (null : Option String) :
    record? null columns item = some (record null item) := by
  cases item with
  | record | null => rfl
  | bool | number | text | list => exact if_pos (not_not.mp placed)

private theorem project_of_stray (stray : Stray columns item) (null : Option String) :
    project null columns item =
      (List.replicate columns.width Cell.null).set 0 ((cell item).nullIf null) := by
  cases item with
  | record | null => exact absurd stray id
  | bool | number | text | list =>
      rw [project, KeyedColumns.position?_eq_none_iff.mpr stray, Option.getD_none]
      simp

private theorem not_stray_of_leads {narrow wide : KeyedColumns} (leads : narrow.Leads wide)
    (placed : ¬ Stray narrow item) : ¬ Stray wide item := by
  cases item with
  | record | null => exact id
  | bool | number | text | list =>
      intro stray
      exact placed fun member => stray (leads.keys.subset member)

private theorem project_of_not_stray (wellFormed : columns.WellFormed)
    (placed : ¬ Stray columns item) (null : Option String) :
    project null columns item = columns.project (record null item) :=
  project_eq_of_record? wellFormed (record?_of_not_stray placed null)

private theorem leads_columnsOf {options : ReadOptions} {few many : Nat} (fewer : few ≤ many)
    (documents : List Document) :
    (columnsOf { options with ahead := few } documents).Leads
      (columnsOf { options with ahead := many } documents) :=
  Source.leads_take keysOf (found options documents) fewer

/-- With fewer items read ahead the columns are the first of those with more, and the row of an item
is cut to them: it has the last value given for the key of each column, where an item that is neither
a record nor null is a value for one key of its own. Only such an item without a column is placed
elsewhere, in the first column. -/
theorem cut_or_stray {options : ReadOptions} {few many : Nat} (wanted : options.onlyAhead = false)
    (fewer : few ≤ many) (documents : List Document) :
    let items := found options documents
    let keyed := columnsOf { options with ahead := few } documents
    ∃ narrow wide,
      sourceOf { options with ahead := few } (Feed.ofList documents) = .ok narrow ∧
      sourceOf { options with ahead := many } (Feed.ofList documents) = .ok wide ∧
      narrow.columns = keyed.names ∧ narrow.columns <+: wide.columns ∧
      narrow.rows.length = items.length ∧ wide.rows.length = items.length ∧
      ((∀ item ∈ items, ¬ Stray keyed item) → narrow.Narrows wide) ∧
      ∀ (n : Nat) (item : Document), items[n]? = some item → ∃ row whole,
        narrow.rows[n]? = some (.ok row) ∧ wide.rows[n]? = some (.ok whole) ∧
        (¬ Stray keyed item → row = whole.take narrow.columns.length ∧
          ∀ key position, keyed.position? key = some position →
            row[position]? = some (KeyedColumns.cellOf key (record options.null item))) ∧
        (Stray keyed item → row = (List.replicate narrow.columns.length Cell.null).set 0
          ((cell item).nullIf options.null)) := by
  intro items keyed
  have leads : keyed.Leads (columnsOf { options with ahead := many } documents) :=
    leads_columnsOf fewer documents
  have cut : ∀ item, ¬ Stray keyed item → project options.null keyed item =
      (project options.null (columnsOf { options with ahead := many } documents) item).take
        keyed.keys.length := by
    intro item placed
    rw [project_of_not_stray (wellFormed_columnsOf _ _) placed,
      project_of_not_stray (wellFormed_columnsOf _ _) (not_stray_of_leads leads placed)]
    exact leads.project _
  have before : (table { options with ahead := few } documents).columns <+:
      (table { options with ahead := many } documents).columns := by
    rw [columns_table, columns_table]
    exact leads.names
  refine ⟨_, _, sourceOf_ofList _ documents, sourceOf_ofList _ documents, columns_table _ _,
    before, length_rows_table _ wanted, length_rows_table _ wanted, ?narrows, ?rows⟩
  case narrows =>
    intro placed
    apply Source.Narrows.of_rows before (rows_table { options with ahead := few } documents wanted)
      (rows_table { options with ahead := many } documents wanted)
    intro item member
    rw [length_columns_table]
    exact cut item (placed item member)
  case rows =>
    intro n item here
    refine ⟨_, _, getElem?_rows_table { options with ahead := few } wanted here,
      getElem?_rows_table { options with ahead := many } wanted here, ?placed, ?stray⟩
    case placed =>
      intro placed
      rw [length_columns_table]
      refine ⟨cut item placed, fun key position found => ?_⟩
      rw [project_of_not_stray (wellFormed_columnsOf _ _) placed]
      exact KeyedColumns.getElem?_project found _
    case stray =>
      intro stray
      rw [length_columns_table, project_of_stray stray, KeyedColumns.width,
        (wellFormed_columnsOf _ _).length]

/-- A list of a record, a number, null and a list, of which the record is skipped, behind a path. The
number and the list have a column, the key of the last record has none. -/
theorem cut_or_stray_path :
    let options : ReadOptions := { skip := 1, path := some ".x", null := some "5" }
    let documents : List Document := [.record [("x", .list [.record [("a", .null)],
      .number (.integer 7), .null, .list [.text "5"]])], .record [("y", .null)],
      .record [("x", .record [("c1", .text "5"), ("b", .bool true)])]]
    let items := found options documents
    let keyed := columnsOf { options with ahead := 1 } documents
    options.onlyAhead = false ∧ 1 ≤ 4 ∧ keyed.names = ["c1"] ∧
      (∀ item ∈ items, ¬ Stray keyed item) ∧ ∃ narrow wide,
        sourceOf { options with ahead := 1 } (Feed.ofList documents) = .ok narrow ∧
        sourceOf { options with ahead := 4 } (Feed.ofList documents) = .ok wide ∧
        narrow.columns = ["c1"] ∧ wide.columns = ["c1", "b"] ∧ narrow.Narrows wide ∧
        narrow.rows.length = 4 ∧ ∃ row whole,
          narrow.rows[2]? = some (.ok row) ∧ wide.rows[2]? = some (.ok whole) ∧
          row = whole.take 1 ∧ row[0]? = some (.text "[\"5\"]") := by
  intro options documents items keyed
  have placed : ∀ item ∈ items, ¬ Stray keyed item := by
    have inside : scalarColumn ∈ keyed.keys := by decide +kernel
    intro item _
    cases item with
    | record | null => exact id
    | bool | number | text | list => exact not_not.mpr inside
  have wanted : options.onlyAhead = false := rfl
  have names : keyed.names = ["c1"] := by decide +kernel
  obtain ⟨narrow, wide, few, many, columns, -, length, -, narrows, rows⟩ :=
    cut_or_stray wanted (by decide : 1 ≤ 4) documents
  obtain ⟨item, here, cell⟩ := Option.map_eq_some_iff.mp (show (items[2]?.map fun item =>
    KeyedColumns.cellOf "c1" (record options.null item)) = some (.text "[\"5\"]") by decide +kernel)
  obtain ⟨row, whole, short, long, shown, -⟩ := rows 2 item here
  have apart := placed _ (List.mem_of_getElem? here)
  have only : narrow.columns = ["c1"] := columns.trans names
  refine ⟨wanted, by decide, names, placed, narrow, wide, few, many, only,
    Source.columns_of_made many (by decide +kernel), narrows placed, length.trans (by decide +kernel),
    row, whole, short, long, ?_, ?_⟩
  · rw [(shown apart).1, only]
    rfl
  · rw [(shown apart).2 "c1" 0 (by decide +kernel), cell]

/-- A number behind the window is placed in the column of a key that it does not have, where a
larger window has a column for it. -/
theorem stray_not_narrows :
    let documents : List Document := [.record [("a", .number (.integer 1))], .number (.integer 5)]
    ∃ narrow wide,
      sourceOf { ahead := 1 } (Feed.ofList documents) = .ok narrow ∧
      sourceOf { ahead := 2 } (Feed.ofList documents) = .ok wide ∧
      narrow.names = .ok ["a"] ∧ wide.names = .ok ["a", "c1"] ∧
      narrow.rows = Feed.ofList [[.text "1"], [.text "5"]] ∧
      wide.rows = Feed.ofList [[.text "1", .null], [.null, .text "5"]] ∧
      ¬ narrow.Narrows wide := by
  intro documents
  have few : (table { ahead := 1 } documents).rows = Feed.ofList [[.text "1"], [.text "5"]] := by
    decide +kernel
  have many : (table { ahead := 2 } documents).rows =
      Feed.ofList [[.text "1", .null], [.null, .text "5"]] := by
    decide +kernel
  refine ⟨_, _, sourceOf_ofList _ documents, sourceOf_ofList _ documents, by decide +kernel,
    by decide +kernel, few, many, ?_⟩
  intro narrows
  have rows := narrows.rows
  rw [few, many] at rows
  exact absurd rows (by decide +kernel)

end Documents

end Tabular
