import Tabular.Proofs.Source.Formats

/-!
# Names of columns

Where the names of a source come from. A header cell names its column, by the cell or, if it is
blank, by position. Records have a column for every key that was seen, never one for two keys, and
all records are laid out in these columns.
-/

set_option autoImplicit false

namespace Tabular

/-! ## Header cells -/

/-- The name of a header cell, whatever columns were added after the header. -/
theorem getElem?_header {cells more : List String} {position : Nat} {cell : String}
    (found : cells[position]? = some cell) :
    (headerNames [] (cells ++ more))[position]? =
      some (uniqueName (nameOrPositional position cell)
        ((headerNames [] (cells ++ more)).take position)) := by
  have inside : (cells ++ more)[position]? = some cell := by
    rw [List.getElem?_append_left (List.getElem?_eq_some_iff.mp found).1, found]
  simpa using getElem?_headerNames inside []

/-- Names that were made from header cells, with others added after them. -/
def NamedAfter (cells names : List String) : Prop :=
  ∃ more, names = headerNames [] (cells ++ more)

variable {options : ReadOptions} {source : Source}

namespace Delimited

theorem namedAfter_headerCells {feed : Feed Fields} {schema : Schema}
    (made : sourceOf options feed = .ok source) (found : source.schema? = some schema) :
    NamedAfter (headerCells options feed) schema.names := by
  obtain ⟨names, grown, ahead, rest, named, rfl⟩ := exists_of_sourceOf made
  obtain ⟨-, found⟩ := Option.ite_none_left_eq_some.mp found
  obtain rfl := Option.some.inj found
  exact ⟨_, named⟩

end Delimited

namespace Framed

/-- The cells of the definition that the columns are named after, none if there is no row. -/
def headerCells (input : Input) : List String :=
  match opening {} (entries 1 input.lines) with
  | .ok (definition, some first, _) => definition.cells first
  | _ => []

theorem namedAfter_headerCells {input : Input} {schema : Schema}
    (made : Framed.source options input = .ok source) (found : source.schema? = some schema) :
    NamedAfter (headerCells input) schema.names := by
  obtain ⟨⟨definition, first, feed⟩, opened, made⟩ := bind_ok made
  cases first with
  | none =>
      cases made
      cases found
  | some first =>
      obtain ⟨defined, accepted, made⟩ := bind_ok made
      obtain ⟨⟨others, rest⟩, -, made⟩ := bind_ok made
      obtain rfl := Except.ok.inj made
      obtain rfl := Option.some.inj found
      obtain ⟨types, -, rfl⟩ := exists_of_schema accepted
      refine ⟨[], ?_⟩
      rw [headerCells, opened, List.append_nil]

end Framed

namespace Aligned

/-- The cells of the header, none if there is no header. -/
def headerCells (options : ReadOptions) (input : Input) : List String :=
  match options.header, sample options input with
  | true, .ok (first :: others, _) => cells (boundaries first (first :: others)) first
  | _, _ => []

theorem namedAfter_headerCells {input : Input} {schema : Schema}
    (made : Aligned.source options input = .ok source) (found : source.schema? = some schema) :
    headerCells options input = [] ∨ NamedAfter (headerCells options input) schema.names := by
  rcases exists_of_source made with rfl | ⟨first, others, rest, sampled, ahead, live, rfl⟩
  · cases found
  · obtain rfl := Option.some.inj found
    cases header : options.header with
    | false =>
        left
        rw [headerCells, header]
    | true =>
        right
        refine ⟨[], ?_⟩
        rw [headerCells, header, sampled, List.append_nil]
        rfl

end Aligned

namespace Source

/-- The cells of the header of an input: of the record or line before the rows, or of the
definition. -/
def headerCells (options : ReadOptions) (input : Input) : List String :=
  match options.format with
  | .guess | .csv =>
    match Delimiter.parse options.delimiter with
    | .ok delimiter => Delimited.headerCells options (Delimited.fieldFeed delimiter input)
    | .error _ => []
  | .tsv => Delimited.headerCells options (Delimited.fieldFeed '\t' input)
  | .psv => Delimited.headerCells options (Delimited.fieldFeed '|' input)
  | .tbln => Framed.headerCells input
  | .width => Aligned.headerCells options input
  | .ltsv | .json | .yaml | .text => []

theorem namedAfter_headerCells {input : Input} {schema : Schema}
    (made : readPlain options input = .ok source) (found : source.schema? = some schema) :
    headerCells options input = [] ∨ NamedAfter (headerCells options input) schema.names := by
  rw [readPlain] at made
  rw [headerCells]
  cases chosen : options.format with
  | guess | csv =>
      rw [chosen] at made
      obtain ⟨delimiter, parsed, made⟩ := bind_ok made
      have sourced := Delimited.sourceOf_of_source made
      simp only [parsed]
      exact .inr (Delimited.namedAfter_headerCells sourced found)
  | tsv | psv =>
      rw [chosen] at made
      have sourced := Delimited.sourceOf_of_source made
      exact .inr (Delimited.namedAfter_headerCells sourced found)
  | tbln =>
      rw [chosen] at made
      exact .inr (Framed.namedAfter_headerCells made found)
  | width =>
      rw [chosen] at made
      exact Aligned.namedAfter_headerCells made found
  | ltsv | json | yaml | text => exact .inl rfl

theorem getElem?_of_headerCells {input : Input} {columns : List String}
    (made : readPlain options input = .ok source) (named : source.names = .ok columns)
    {position : Nat} {cell : String} (found : (headerCells options input)[position]? = some cell) :
    columns[position]? =
      some (uniqueName (nameOrPositional position cell) (columns.take position)) := by
  obtain ⟨schema, known, rfl⟩ := exists_schema named
  rcases namedAfter_headerCells made known with none | ⟨more, names⟩
  · rw [none] at found
    cases found
  · rw [names]
    exact getElem?_header found

end Source

/-! ## Keys of records -/

namespace KeyedColumns

/-- The cell that a record has for a key: the last one given, or null. -/
def cellOf (key : String) (record : List (String × Cell)) : Cell :=
  match record.reverse.find? fun pair => pair.1 == key with
  | some (_, cell) => cell
  | none => .null

variable {columns : KeyedColumns}

theorem project_eq_map (columns : KeyedColumns) (record : List (String × Cell)) :
    columns.project record = columns.keys.map fun key => cellOf key record :=
  rfl

theorem getElem?_project {key : String} {position : Nat}
    (found : columns.position? key = some position) (record : List (String × Cell)) :
    (columns.project record)[position]? = some (cellOf key record) := by
  rw [project_eq_map, List.getElem?_map, getElem?_of_position? found, Option.map_some]

/-- Two keys do not share a column. -/
theorem position?_injective {key other : String} {position : Nat}
    (found : columns.position? key = some position)
    (same : columns.position? other = some position) : key = other :=
  Option.some.inj ((getElem?_of_position? found).symm.trans (getElem?_of_position? same))

theorem exists_position?_iff (wellFormed : columns.WellFormed) {key : String} :
    (∃ position < columns.names.length, columns.position? key = some position) ↔
      key ∈ columns.keys := by
  constructor
  · rintro ⟨position, -, found⟩
    exact List.mem_of_getElem? (getElem?_of_position? found)
  · intro member
    obtain ⟨position, found⟩ := exists_position? member
    have inside := (List.getElem?_eq_some_iff.mp (getElem?_of_position? found)).1
    exact ⟨position, wellFormed.length ▸ inside, found⟩

end KeyedColumns

abbrev Record := List (String × Cell)

/-- The columns for the keys of records. -/
def Record.columns (records : List Record) : KeyedColumns :=
  .ofRecords (records.map fun record => record.map (·.1))

theorem Record.mem_keys_columns {records : List Record} {key : String} :
    key ∈ (columns records).keys ↔ ∃ record ∈ records, key ∈ record.map Prod.fst := by
  simp [columns, KeyedColumns.mem_keys_ofRecords]

namespace Documents

/-- The pairs of an item. One that is neither a record nor null has the key of a column of its
own. -/
def record (null : Option String) : Document → Record
  | .record fields => fields.map fun (key, value) => (key, (cell value).nullIf null)
  | .null => []
  | item => [(scalarColumn, (cell item).nullIf null)]

/-- The pairs of an item, unless there is no column for what is not a record. -/
def record? (null : Option String) (columns : KeyedColumns) (item : Document) : Option Record :=
  match item with
  | .record _ | .null => some (record null item)
  | _ => if scalarColumn ∈ columns.keys then some (record null item) else none

variable {columns : KeyedColumns}

private theorem keysOf_eq_map (null : Option String) (item : Document) :
    keysOf item = (record null item).map (·.1) := by
  cases item <;> simp [keysOf, record]

private theorem columns_map_record (null : Option String) (ahead : List Document) :
    Record.columns (ahead.map (record null)) = .ofRecords (ahead.map keysOf) := by
  rw [Record.columns, List.map_map]
  congr 2
  funext item
  exact (keysOf_eq_map null item).symm

/-- A cell in the column of a key, and null in all others. -/
theorem set_position_eq_project (wellFormed : columns.WellFormed) {key : String} {position : Nat}
    (found : columns.position? key = some position) (cell : Cell) :
    (List.replicate columns.width Cell.null).set position cell = columns.project [(key, cell)] := by
  obtain ⟨inside, here⟩ := List.getElem?_eq_some_iff.mp (KeyedColumns.getElem?_of_position? found)
  refine List.ext_getElem (by simp [KeyedColumns.project, KeyedColumns.width, wellFormed.length]) ?_
  intro i _ bound
  have within : i < columns.keys.length := by simpa [KeyedColumns.project] using bound
  have same : columns.keys[i] = key ↔ position = i := by
    rw [← here, wellFormed.keys.getElem_inj_iff, eq_comm]
  simp only [KeyedColumns.project_eq_map, List.getElem_map, List.getElem_set]
  by_cases at_key : position = i
  · simp [KeyedColumns.cellOf, at_key, same.mpr at_key]
  · have other : ¬key = columns.keys[i] := fun equal => at_key (same.mp equal.symm)
    simp [KeyedColumns.cellOf, at_key, other]

private theorem nullIf_null (sentinel : Option String) : Cell.null.nullIf sentinel = .null := by
  cases sentinel <;> rfl

theorem project_nil (wellFormed : columns.WellFormed) :
    columns.project [] = List.replicate columns.width Cell.null := by
  rw [KeyedColumns.width, wellFormed.length]
  exact List.map_const'

theorem project_eq_of_record? (wellFormed : columns.WellFormed) {null : Option String}
    {item : Document} {pairs : Record} (placed : record? null columns item = some pairs) :
    project null columns item = columns.project pairs := by
  cases item with
  | record fields =>
      obtain rfl := Option.some.inj placed
      rfl
  | null =>
      obtain rfl := Option.some.inj placed
      rw [project, record, project_nil wellFormed, cell, nullIf_null, List.set_replicate_self]
      simp
  | bool | number | text | list =>
      obtain ⟨member, placed⟩ := Option.ite_none_right_eq_some.mp placed
      obtain rfl := Option.some.inj placed
      obtain ⟨position, found⟩ := KeyedColumns.exists_position? member
      rw [project, found]
      · exact set_position_eq_project wellFormed found _
      · simp

theorem record?_of_mem {null : Option String} {ahead : List Document} {item : Document}
    (member : item ∈ ahead) :
    record? null (.ofRecords (ahead.map keysOf)) item = some (record null item) := by
  have seen (key : String) (inside : key ∈ keysOf item) :
      key ∈ (KeyedColumns.ofRecords (ahead.map keysOf)).keys :=
    KeyedColumns.mem_keys_ofRecords.mpr ⟨_, List.mem_map_of_mem member, inside⟩
  cases item with
  | record | null => rfl
  | bool | number | text | list => exact if_pos (seen scalarColumn (.head _))

end Documents

/-- The pairs of a record in memory. -/
def InMemory.record (fields : List (String × Document)) : Record :=
  fields.map fun (key, value) => (key, cell value)

/-- A source of records: those that are read ahead, and the pieces that follow them, of which an
item without a place in the columns is left open. -/
inductive Source.Keyed : List Record → Feed (Option Record) → Source → Prop where
  | labelled {options : ReadOptions} {input : Input} {ahead : List Record} {rest : Feed Record}
      {source : Source} :
      Labelled.window options input = .ok (ahead, rest) →
      Labelled.source options input = .ok source →
      Keyed ahead (options.liveRows (Feed.map some rest)) source
  | documents {options : ReadOptions} {feed : Feed Document} {ahead : List Document}
      {rest : Feed Document} {source : Source} :
      Documents.window options feed = .ok (ahead, rest) →
      Documents.sourceOf options feed = .ok source →
      Keyed (ahead.map (Documents.record options.null))
        (options.liveRows (Feed.map (Documents.record? options.null
          (Record.columns (ahead.map (Documents.record options.null)))) rest)) source
  | inMemory {fields : List (String × Document)} {items : List Document}
      {records : List (List (String × Document))} {source : Source} :
      InMemory.source (.list (.record fields :: items)) = .ok source →
      (Document.record fields :: items).mapM InMemory.asRecord = .ok records →
      Keyed (records.map InMemory.record) [] source

namespace Source

variable {ahead : List Record} {live : Feed (Option Record)}

theorem getElem?_liveRows_map {α : Type} {rest : Feed α} {record? : α → Option Record}
    {row : α → Row} {columns : KeyedColumns} {n : Nat} {record : Record}
    (laid : ∀ piece record, record? piece = some record → row piece = columns.project record)
    (found : (options.liveRows (Feed.map record? rest))[n]? = some (.ok (some record))) :
    (options.liveRows (Feed.map row rest))[n]? = some (.ok (columns.project record)) := by
  rw [ReadOptions.liveRows] at found ⊢
  split at found
  · cases found
  · rename_i wanted
    rw [if_neg wanted, Feed.map, List.getElem?_map]
    rw [Feed.map, List.getElem?_map] at found
    obtain ⟨piece, inside, same⟩ := Option.map_eq_some_iff.mp found
    cases piece with
    | error failure => cases same
    | ok piece =>
        rw [inside, ← laid piece record (Except.ok.inj same)]
        rfl

/-- The rows of records are laid out in the columns for the keys of those read ahead. -/
theorem Keyed.laidOut (keyed : Keyed ahead live source) {schema : Schema}
    (found : source.schema? = some schema) :
    schema.names = (Record.columns ahead).names ∧
      source.takeAhead.1 = ahead.map (Record.columns ahead).project ∧
      ∀ (n : Nat) (record : Record), live[n]? = some (.ok (some record)) →
        source.live[n]? = some (.ok ((Record.columns ahead).project record)) := by
  have wellFormed : (Record.columns ahead).WellFormed := KeyedColumns.wellFormed_ofRecords _
  cases keyed with
  | @labelled options input ahead rest _ read made =>
      obtain ⟨early, late, window, rfl⟩ := Labelled.exists_of_source made
      obtain ⟨rfl, rfl⟩ := Prod.mk.inj (Except.ok.inj (window.symm.trans read))
      refine ⟨(KeyedColumns.fitting_schema wellFormed found).2, rfl, fun n record given => ?_⟩
      refine getElem?_liveRows_map (fun piece record same => ?_) given
      rw [Option.some.inj same]
      rfl
  | @documents options feed ahead rest _ read made =>
      obtain ⟨early, late, window, rfl⟩ := Documents.exists_of_sourceOf made
      obtain ⟨rfl, rfl⟩ := Prod.mk.inj (Except.ok.inj (window.symm.trans read))
      rw [Documents.columns_map_record] at wellFormed ⊢
      refine ⟨(KeyedColumns.fitting_schema wellFormed found).2, ?_, fun n record given => ?_⟩
      · rw [List.map_map]
        refine List.map_congr_left fun item member => ?_
        exact Documents.project_eq_of_record? wellFormed (Documents.record?_of_mem member)
      · refine getElem?_liveRows_map (fun item record placed => ?_) given
        exact Documents.project_eq_of_record? wellFormed placed
  | @inMemory _ _ records _ made read =>
      obtain ⟨parsed, taken, made⟩ := bind_ok made
      obtain rfl := Except.ok.inj (taken.symm.trans read)
      obtain rfl := Except.ok.inj made
      obtain rfl := Option.some.inj found
      have columns : Record.columns (parsed.map InMemory.record) =
          .ofRecords (parsed.map fun fields => fields.map (·.1)) := by
        simp [Record.columns, InMemory.record, Function.comp_def]
      rw [columns, List.map_map]
      refine ⟨rfl, rfl, fun n record given => ?_⟩
      cases given

/-! ## Names -/

/-- The names of a source are distinct. A column with a blank header cell has a name that is made
from its position. Records have a column for each key that was read ahead, not one for two of them,
and every record is laid out in these columns. -/
theorem names_usable :
    (∀ {source : Source} {columns : List String},
      Built source → source.names = .ok columns → Distinct columns) ∧
    (∀ {options : ReadOptions} {input : Input} {source : Source} {columns : List String}
      {position : Nat},
      readPlain options input = .ok source → source.names = .ok columns →
      (headerCells options input)[position]? = some "" →
      columns[position]? =
        some (uniqueName (positionalName position) (columns.take position))) ∧
    (∀ {ahead : List Record} {live : Feed (Option Record)} {source : Source}
      {columns : List String},
      Keyed ahead live source → source.names = .ok columns →
      let keyed := Record.columns ahead
      keyed.names = columns ∧
      (∀ key, (∃ position < columns.length, keyed.position? key = some position) ↔
        ∃ record ∈ ahead, key ∈ record.map Prod.fst) ∧
      (∀ key other position, keyed.position? key = some position →
        keyed.position? other = some position → key = other) ∧
      (∀ (n : Nat) (record : Record), ahead[n]? = some record →
        ∃ row, source.takeAhead.1[n]? = some row ∧ ∀ key position,
          keyed.position? key = some position →
            row[position]? = some (KeyedColumns.cellOf key record)) ∧
      (∀ (n : Nat) (record : Record), live[n]? = some (.ok (some record)) →
        ∃ row, source.live[n]? = some (.ok row) ∧ ∀ key position,
          keyed.position? key = some position →
            row[position]? = some (KeyedColumns.cellOf key record))) := by
  refine ⟨?distinct, ?blank, ?keyed⟩
  case distinct =>
    intro source columns built named
    obtain ⟨schema, found, rfl⟩ := exists_schema named
    exact (built.sound schema found).wellFormed.names
  case blank =>
    intro options input source columns position made named found
    rw [getElem?_of_headerCells made named found, nameOrPositional_empty]
  case keyed =>
    intro ahead live source columns keyed named
    obtain ⟨schema, found, rfl⟩ := exists_schema named
    obtain ⟨names, early, late⟩ := keyed.laidOut found
    have wellFormed : (Record.columns ahead).WellFormed := KeyedColumns.wellFormed_ofRecords _
    refine ⟨names.symm, fun key => ?_, fun key other position => KeyedColumns.position?_injective,
      fun n record here => ?_, fun n record here => ?_⟩
    · rw [names, KeyedColumns.exists_position?_iff wellFormed, Record.mem_keys_columns]
    · refine ⟨_, by rw [early, List.getElem?_map, here, Option.map_some], fun key position => ?_⟩
      exact fun at_key => KeyedColumns.getElem?_project at_key record
    · refine ⟨_, late n record here, fun key position => ?_⟩
      exact fun at_key => KeyedColumns.getElem?_project at_key record

/-- Names that clash with one another and with the names that are given by position, and keys that
differ in case only. -/
theorem names_usable_clashing :
    (∃ source, Built source ∧ source.names = .ok ["num0", "num", "c2", "c20", "c4"] ∧
      Distinct ["num0", "num", "c2", "c20", "c4"]) ∧
    (∃ source, readPlain { header := true } ⟨Utf8.bytes "c2,,C2\n", true⟩ = .ok source ∧
      source.names = .ok ["c2", "c20", "C21"] ∧
      (headerCells { header := true } ⟨Utf8.bytes "c2,,C2\n", true⟩)[1]? = some "" ∧
      ["c2", "c20", "C21"][1]? = some (uniqueName (positionalName 1) ["c2"])) ∧
    (∃ source, Labelled.source {} ⟨Utf8.bytes "a:1\tA:2\ta:3\nA:4\tz:5\n", true⟩ = .ok source ∧
      source.names = .ok ["a", "A0"] ∧
      (∃ row, source.takeAhead.1[0]? = some row ∧
        row[0]? = some (.text "3") ∧ row[1]? = some (.text "2")) ∧
      (∃ row, source.live[0]? = some (.ok row) ∧
        row[0]? = some .null ∧ row[1]? = some (.text "4"))) := by
  refine ⟨?distinct, ?blank, ?keyed⟩
  case distinct =>
    obtain ⟨source, made, named⟩ := bind_ok (show
      (Source.read { header := true, ahead := 2, rowNumber := true }
        ⟨Utf8.bytes "num,,c2\n1,2,3,4\n", true⟩ >>= names) =
        .ok ["num0", "num", "c2", "c20", "c4"] by decide +kernel)
    exact ⟨source, .read made, named, names_usable.1 (.read made) named⟩
  case blank =>
    obtain ⟨source, made, named⟩ := bind_ok (show
      (readPlain { header := true } ⟨Utf8.bytes "c2,,C2\n", true⟩ >>= names) =
        .ok ["c2", "c20", "C21"] by decide +kernel)
    have found : (headerCells { header := true } ⟨Utf8.bytes "c2,,C2\n", true⟩)[1]? = some "" := by
      decide +kernel
    exact ⟨source, made, named, found, names_usable.2.1 made named found⟩
  case keyed =>
    obtain ⟨source, made, named⟩ := bind_ok (show
      (Labelled.source {} ⟨Utf8.bytes "a:1\tA:2\ta:3\nA:4\tz:5\n", true⟩ >>= names) =
        .ok ["a", "A0"] by decide +kernel)
    have read : Labelled.window {} ⟨Utf8.bytes "a:1\tA:2\ta:3\nA:4\tz:5\n", true⟩ =
        .ok ([[("a", .text "1"), ("A", .text "2"), ("a", .text "3")]],
          [.ok [("A", .text "4"), ("z", .text "5")]]) := by decide +kernel
    obtain ⟨-, -, -, early, late⟩ := names_usable.2.2 (.labelled read made) named
    obtain ⟨row, here, shown⟩ := early 0 _ rfl
    obtain ⟨next, later, shownNext⟩ := late 0 _ rfl
    exact ⟨source, made, named,
      ⟨row, here, shown "a" 0 (by decide), shown "A" 1 (by decide)⟩,
      ⟨next, later, shownNext "a" 0 (by decide), shownNext "A" 1 (by decide)⟩⟩

end Source

end Tabular
