import Tabular.Proofs.Source.Records

/-!
# Shapes of values in memory

A value in memory is a table by its shape: a record of entries, a list of scalars, a list of lists or
a list of records. Each has one row for every element, as wide as there are columns, and a column is
of integers if it holds one and nothing else but null.
-/

set_option autoImplicit false

namespace Tabular

theorem Row.getElem?_fit {width position : Nat} (inside : position < width) (row : Row) :
    (fit width row)[position]? = some (row[position]?.getD .null) := by
  rcases Nat.lt_or_ge position row.length with short | long
  · have within : position < (row.take width).length := by
      rw [List.length_take]
      omega
    rw [fit, List.getElem?_append_left within, List.getElem?_take_of_lt inside,
      List.getElem?_eq_getElem short, Option.getD_some]
  · have beyond : (row.take width).length ≤ position := by
      rw [List.length_take]
      omega
    have padded : position - (row.take width).length < width - row.length := by
      rw [List.length_take]
      omega
    rw [fit, List.getElem?_append_right beyond, List.getElem?_replicate, if_pos padded,
      List.getElem?_eq_none long, Option.getD_none]

namespace InMemory

open Document (field? valueOf columnsOf)

/-! ## Types of columns -/

/-- A column that holds an integer, and besides integers only null. -/
structure IntColumn (rows : List Row) (position : Nat) : Prop where
  filled : ∃ row ∈ rows, ∃ cell, row[position]? = some cell ∧ cell ≠ .null
  integers : ∀ row ∈ rows, ∀ cell, row[position]? = some cell → cell ≠ .null → ∃ n, cell = .int n

variable {rows : List Row} {position : Nat}

theorem isInt_iff {cell : Cell} : isInt cell = true ↔ ∃ n, cell = .int n := by
  cases cell <;> simp [isInt]

theorem isNull_iff {cell : Cell} : cell.isNull = true ↔ cell = .null := by
  cases cell <;> simp [Cell.isNull]

theorem mem_filled {cell : Cell} :
    cell ∈ (rows.filterMap (·[position]?)).filter (!·.isNull) ↔
      (∃ row ∈ rows, row[position]? = some cell) ∧ cell ≠ .null := by
  rw [List.mem_filter, List.mem_filterMap, Bool.not_eq_true', ← Bool.not_eq_true, isNull_iff]

private theorem columnType_cases (rows : List Row) (position : Nat) :
    IntColumn rows position ∧ columnType rows position = "int" ∨
      ¬IntColumn rows position ∧ columnType rows position = "text" := by
  let cells := (rows.filterMap (·[position]?)).filter (!·.isNull)
  have counted : (!cells.isEmpty && cells.all isInt) = true ↔ IntColumn rows position := by
    rw [Bool.and_eq_true, Bool.not_eq_true', List.isEmpty_eq_false_iff_exists_mem, List.all_eq_true]
    constructor
    · rintro ⟨⟨cell, member⟩, integers⟩
      obtain ⟨⟨row, inside, here⟩, some⟩ := mem_filled.mp member
      refine ⟨⟨row, inside, cell, here, some⟩, ?_⟩
      intro row inside cell here some
      exact isInt_iff.mp (integers cell (mem_filled.mpr ⟨⟨row, inside, here⟩, some⟩))
    · rintro ⟨⟨row, inside, cell, here, some⟩, integers⟩
      refine ⟨⟨cell, mem_filled.mpr ⟨⟨row, inside, here⟩, some⟩⟩, ?_⟩
      intro cell member
      obtain ⟨⟨row, inside, here⟩, some⟩ := mem_filled.mp member
      exact isInt_iff.mpr (integers row inside cell here some)
  have typed : columnType rows position =
      if (!cells.isEmpty && cells.all isInt) = true then "int" else "text" := rfl
  by_cases column : IntColumn rows position
  · exact .inl ⟨column, typed.trans (if_pos (counted.mpr column))⟩
  · exact .inr ⟨column, typed.trans (if_neg (mt counted.mp column))⟩

/-! ## Rows of elements -/

/-- The cells of a list in order, and null behind its end. -/
def RowOfList (width : Nat) (items : List Document) (row : Row) : Prop :=
  ∀ position < width, row[position]? = some ((items[position]?.map cell).getD .null)

/-- The cells of the values that a record has for the keys. One is null exactly if the record has no
value for the key, or null. -/
def RowOfRecord (keys : List String) (fields : List (String × Document)) (row : Row) : Prop :=
  ∀ (position : Nat) (key : String), keys[position]? = some key →
    ∃ shown, row[position]? = some shown ∧
    (∀ value, field? fields.reverse key = some value → shown = cell value) ∧
    (shown = .null ↔ ∀ value, field? fields.reverse key = some value → value = .null)

theorem cell_eq_null_iff {value : Document} : cell value = .null ↔ value = .null := by
  cases value with
  | null | bool | text | list | record => simp [cell]
  | number n =>
      cases n with
      | integer n => cases fits : Number.isSigned64 n <;> simp [cell, fits]
      | float => simp [cell]

private theorem rowOfList_fit (width : Nat) (items : List Document) :
    RowOfList width items (Row.fit width (items.map cell)) := by
  intro position inside
  rw [Row.getElem?_fit inside, List.getElem?_map]

private theorem rowOfRecord_map (keys : List String) (fields : List (String × Document)) :
    RowOfRecord keys fields (keys.map fun key => cell (valueOf fields key)) := by
  intro position key here
  refine ⟨cell (valueOf fields key), by rw [List.getElem?_map, here]; rfl, ?_, ?_⟩
  · intro value found
    rw [valueOf, found, Option.getD_some]
  · rw [cell_eq_null_iff, valueOf]
    cases found : field? fields.reverse key with
    | none => simp
    | some value => simp

/-- A width that is that of one of the lists, and that none exceeds. -/
structure Longest {α : Type} (width : Nat) (lists : List (List α)) : Prop where
  reached : ∃ list ∈ lists, list.length = width
  bound : ∀ list ∈ lists, list.length ≤ width

/-- The width of the longest list. -/
def widthOf {α : Type} (lists : List (List α)) : Nat :=
  lists.foldl (fun width list => Nat.max width list.length) 0

private theorem foldl_max_spec {α : Type} (lists : List (List α)) (start : Nat) :
    let width := lists.foldl (fun width list => Nat.max width list.length) start
    start ≤ width ∧ (∀ list ∈ lists, list.length ≤ width) ∧
      (width = start ∨ ∃ list ∈ lists, list.length = width) := by
  induction lists generalizing start with
  | nil => simp
  | cons list lists ih =>
      obtain ⟨above, bound, reached⟩ := ih (Nat.max start list.length)
      have left : start ≤ Nat.max start list.length := Nat.le_max_left _ _
      have right : list.length ≤ Nat.max start list.length := Nat.le_max_right _ _
      refine ⟨left.trans above, List.forall_mem_cons.mpr ⟨right.trans above, bound⟩, ?_⟩
      obtain same | ⟨other, member, same⟩ := reached
      · rcases Nat.le_total list.length start with short | long
        · exact .inl (same.trans (Nat.max_eq_left short))
        · exact .inr ⟨list, List.mem_cons_self, (same.trans (Nat.max_eq_right long)).symm⟩
      · exact .inr ⟨other, List.mem_cons_of_mem _ member, same⟩

private theorem longest_widthOf {α : Type} {lists : List (List α)} (some : lists ≠ []) :
    Longest (widthOf lists) lists := by
  obtain ⟨-, bound, reached⟩ := foldl_max_spec lists 0
  refine ⟨?_, bound⟩
  obtain none | reached := reached
  · obtain ⟨list, rest, rfl⟩ := List.exists_cons_of_ne_nil some
    have short := bound list List.mem_cons_self
    exact ⟨list, List.mem_cons_self, by rw [widthOf, none]; omega⟩
  · exact reached

/-! ## Tables of all shapes -/

/-- A source that hands out the given rows at once and nothing behind them. They are as wide as there
are names, and the columns have the types of their cells. -/
structure Holds (source : Source) (names : List String) (rows : List Row) : Prop where
  named : source.names = .ok names
  ahead : source.takeAhead.1 = rows
  live : source.live = []
  width : ∀ row ∈ rows, row.length = names.length
  typed : ∃ types : List String, source.types = .ok types ∧ types.length = names.length ∧
    ∀ position < names.length,
      IntColumn rows position ∧ types[position]? = some "int" ∨
        ¬IntColumn rows position ∧ types[position]? = some "text"

private theorem holds_ofRows {names : List String}
    (width : ∀ row ∈ rows, row.length = names.length) :
    Holds (ofRows names rows) names rows where
  named := rfl
  ahead := rfl
  live := rfl
  width := width
  typed := by
    refine ⟨(List.range names.length).map (columnType rows), rfl, by simp, ?_⟩
    intro position inside
    rw [List.getElem?_map, List.getElem?_range inside, Option.map_some]
    simpa using columnType_cases rows position

/-- A value that is neither a list nor a record, or a list of lists or of records with an item of
another shape. -/
inductive Rejected : Document → Prop where
  | scalar {value : Document} :
      shape value ≠ "sequence" → shape value ≠ "record" → Rejected value
  | mixed {first item : Document} {rest : List Document} :
      shape first = "sequence" ∨ shape first = "record" → item ∈ rest →
      shape item ≠ shape first → Rejected (.list (first :: rest))

/-- The names of the columns and the rows of a value, one row for every entry or item in order.
Records have a column for each of their keys, in the order in which the keys first appear. -/
inductive Lays : Document → List String → List Row → Prop where
  | entries (fields : List (String × Document)) :
      Lays (.record fields) ["c1", "c2"] (fields.map fun (key, value) => [.text key, cell value])
  | scalars {items : List Document} :
      (∀ first ∈ items.head?, shape first ≠ "sequence" ∧ shape first ≠ "record") →
      Lays (.list items) ["c1"] (items.map fun item => [cell item])
  | lists {lists : List (List Document)} {width : Nat} {rows : List Row} :
      Longest width lists → List.Forall₂ (RowOfList width) lists rows →
      Lays (.list (lists.map .list)) ((List.range width).map positionalName) rows
  | records {records : List (List (String × Document))} {columns : KeyedColumns}
      {rows : List Row} :
      records ≠ [] → columns.WellFormed → columns.Named →
      columns.keys = (records.flatMap fun fields => fields.map Prod.fst).eraseDups →
      List.Forall₂ (RowOfRecord columns.keys) records rows →
      Lays (.list (records.map .record)) columns.names rows

/-! ## Reading by the first item -/

private theorem ofLists_map (lists : List (List Document)) :
    ofLists (lists.map .list) = .ok (ofRows ((List.range (widthOf lists)).map positionalName)
      (lists.map fun items => Row.fit (widthOf lists) (items.map cell))) := by
  have width : (lists.map (List.map cell)).foldl (fun width row => Nat.max width row.length) 0 =
      widthOf lists := by
    rw [List.foldl_map, widthOf]
    simp only [List.length_map]
  rw [ofLists, reads_lists.mapM_form]
  change Except.ok _ = _
  rw [width, List.map_map]
  rfl

private theorem ofRecords_map (records : List (List (String × Document))) :
    ofRecords (records.map .record) = .ok (ofRows (columnsOf records).names
      (records.map fun fields =>
        (columnsOf records).keys.map fun key => cell (valueOf fields key))) := by
  have projected (fields : List (String × Document)) :
      (columnsOf records).project (fields.map fun (key, value) => (key, cell value)) =
        (columnsOf records).keys.map fun key => cell (valueOf fields key) :=
    project_fields rfl _ fields
  rw [ofRecords, reads_records.mapM_form]
  simp only [← projected]
  rfl

private theorem keys_columnsOf (records : List (List (String × Document))) :
    (columnsOf records).keys = (records.flatMap fun fields => fields.map Prod.fst).eraseDups := by
  rw [columnsOf, KeyedColumns.keys_ofRecords, List.flatMap_def]

theorem rejected_list_iff {first : Document} {rest : List Document} :
    Rejected (.list (first :: rest)) ↔ (shape first = "sequence" ∨ shape first = "record") ∧
      ∃ item ∈ first :: rest, shape item ≠ shape first := by
  constructor
  · intro rejected
    cases rejected with
    | scalar list => exact absurd rfl list
    | mixed nested member otherwise =>
        exact ⟨nested, _, List.mem_cons_of_mem _ member, otherwise⟩
  · rintro ⟨nested, item, member, otherwise⟩
    cases member with
    | head => exact absurd rfl otherwise
    | tail _ member => exact .mixed nested member otherwise

/-- A list whose first item has a shape is rejected for an item of another one, or all of its items
have the shape. -/
theorem Reads.rejected_or_form {α : Type} {read : Document → Result α} {form : α → Document}
    {wanted : String} (reads : Reads read form wanted)
    (nested : wanted = "sequence" ∨ wanted = "record") {first : Document}
    (leads : shape first = wanted) (rest : List Document) :
    Rejected (.list (first :: rest)) ∧
        (∃ told, (first :: rest).mapM read = .error (.unsupportedShape told)) ∨
      ¬Rejected (.list (first :: rest)) ∧
        ∃ contents : List α, contents ≠ [] ∧ first :: rest = contents.map form := by
  subst leads
  rw [rejected_list_iff]
  obtain ⟨contents, alike⟩ | ⟨item, member, otherwise, refused⟩ := reads.mapM_cases (first :: rest)
  · refine .inr ⟨?_, contents, ?_, alike⟩
    · rintro ⟨-, item, member, otherwise⟩
      rw [alike] at member
      exact otherwise (reads.shape_of_mem member)
    · rintro rfl
      cases alike
  · exact .inl ⟨⟨nested, item, member, otherwise⟩, _, refused⟩

/-- A value is rejected and then refused for its shape, or it is a table. -/
def Decided (value : Document) (answer : Result Source) : Prop :=
  Rejected value ∧ (∃ told, answer = .error (.unsupportedShape told)) ∨
    ¬Rejected value ∧
      ∃ made names rows, answer = .ok made ∧ Holds made names rows ∧ Lays value names rows

private theorem decided_lists {first : Document} (rest : List Document)
    (leads : shape first = "sequence") :
    Decided (.list (first :: rest)) (ofLists (first :: rest)) := by
  obtain ⟨rejected, told, refused⟩ | ⟨kept, lists, some, alike⟩ :=
    reads_lists.rejected_or_form (.inl rfl) leads rest
  · exact .inl ⟨rejected, told, by rw [ofLists, refused]; rfl⟩
  · have laid := List.forall₂_map_right_iff.mpr
      (List.forall₂_same.mpr fun items (_ : items ∈ lists) => rowOfList_fit (widthOf lists) items)
    rw [alike] at kept ⊢
    refine .inr ⟨kept, _, _, _, ofLists_map lists, holds_ofRows ?_,
      .lists (longest_widthOf some) laid⟩
    intro row member
    obtain ⟨items, -, rfl⟩ := List.mem_map.mp member
    simp

private theorem decided_records {first : Document} (rest : List Document)
    (leads : shape first = "record") :
    Decided (.list (first :: rest)) (ofRecords (first :: rest)) := by
  obtain ⟨rejected, told, refused⟩ | ⟨kept, records, some, alike⟩ :=
    reads_records.rejected_or_form (.inr rfl) leads rest
  · exact .inl ⟨rejected, told, by rw [ofRecords, refused]; rfl⟩
  · have wellFormed := wellFormed_columnsOf records
    have laid := List.forall₂_map_right_iff.mpr (List.forall₂_same.mpr
      fun fields (_ : fields ∈ records) => rowOfRecord_map (columnsOf records).keys fields)
    rw [alike] at kept ⊢
    refine .inr ⟨kept, _, _, _, ofRecords_map records, holds_ofRows ?_,
      .records some wellFormed (KeyedColumns.named_ofRecords _) (keys_columnsOf records) laid⟩
    intro row member
    obtain ⟨fields, -, rfl⟩ := List.mem_map.mp member
    rw [List.length_map, wellFormed.length]

private theorem decided_scalars {items : List Document}
    (flat : ∀ first ∈ items.head?, shape first ≠ "sequence" ∧ shape first ≠ "record") :
    Decided (.list items) (.ok (ofRows ["c1"] (items.map fun item => [cell item]))) := by
  refine .inr ⟨?_, _, _, _, rfl, holds_ofRows ?_, .scalars flat⟩
  · intro rejected
    cases rejected with
    | scalar list => exact list rfl
    | mixed nested =>
        obtain ⟨unlisted, unkeyed⟩ := flat _ rfl
        exact nested.elim unlisted unkeyed
  · intro row member
    obtain ⟨item, -, rfl⟩ := List.mem_map.mp member
    rfl

private theorem decided_entries (fields : List (String × Document)) :
    Decided (.record fields)
      (.ok (ofRows ["c1", "c2"] (fields.map fun (key, value) => [.text key, cell value]))) := by
  refine .inr ⟨?_, _, _, _, rfl, holds_ofRows ?_, .entries fields⟩
  · intro rejected
    cases rejected with
    | scalar _ record => exact record rfl
  · intro row member
    obtain ⟨field, -, rfl⟩ := List.mem_map.mp member
    rfl

/-- The first item of a list decides how it is read. -/
theorem decided_source (value : Document) : Decided value (source value) := by
  cases value with
  | record fields => exact decided_entries fields
  | list items =>
      cases items with
      | nil => exact decided_scalars (by simp)
      | cons first rest =>
          cases first with
          | list => exact decided_lists rest rfl
          | record => exact decided_records rest rfl
          | null | bool | number | text => exact decided_scalars (by simp [shape])
  | null | bool | number | text => exact .inl ⟨.scalar (by simp [shape]) (by simp [shape]), _, rfl⟩

/-! ## The one table of a value -/

private theorem eq_fit_of_rowOfList {width : Nat} {items : List Document} {row : Row}
    (laid : RowOfList width items row) (size : row.length = width) :
    row = Row.fit width (items.map cell) := by
  refine List.ext_getElem? fun position => ?_
  rcases Nat.lt_or_ge position width with inside | beyond
  · rw [laid position inside, rowOfList_fit width items position inside]
  · rw [List.getElem?_eq_none (by omega), List.getElem?_eq_none (by simpa using beyond)]

private theorem eq_map_of_rowOfRecord {keys : List String} {fields : List (String × Document)}
    {row : Row} (laid : RowOfRecord keys fields row) (size : row.length = keys.length) :
    row = keys.map fun key => cell (valueOf fields key) := by
  refine List.ext_getElem? fun position => ?_
  cases here : keys[position]? with
  | none =>
      have beyond := List.getElem?_eq_none_iff.mp here
      rw [List.getElem?_map, here, List.getElem?_eq_none (size ▸ beyond), Option.map_none]
  | some key =>
      obtain ⟨shown, found, value, null⟩ := laid position key here
      rw [List.getElem?_map, here, found, Option.map_some, valueOf]
      cases stored : field? fields.reverse key with
      | some last => rw [value last stored, Option.getD_some]
      | none =>
          have absent : shown = .null := by
            refine null.mpr fun last found => ?_
            rw [stored] at found
            cases found
          rw [absent, Option.getD_none]
          rfl

theorem Longest.unique {α : Type} {width other : Nat} {lists : List (List α)}
    (longest : Longest width lists) (also : Longest other lists) : width = other := by
  obtain ⟨list, member, rfl⟩ := longest.reached
  obtain ⟨second, memberToo, rfl⟩ := also.reached
  exact Nat.le_antisymm (also.bound _ member) (longest.bound _ memberToo)

/-- Rows that are told by what they are made of are a map of it. -/
theorem eq_map_of_forall₂ {α : Type} {part : α → Row → Prop} {row : α → Row} {width : Nat}
    {items : List α} {rows : List Row} (laid : List.Forall₂ part items rows)
    (size : ∀ row ∈ rows, row.length = width)
    (told : ∀ item line, part item line → line.length = width → line = row item) :
    rows = items.map row := by
  induction laid with
  | nil => rfl
  | cons here later ih =>
      obtain ⟨first, others⟩ := List.forall_mem_cons.mp size
      rw [List.map_cons, told _ _ here first, ← ih others]

/-- Where names and rows are laid out for a value, they are its table. -/
theorem source_of_lays {value : Document} {names : List String} (lays : Lays value names rows)
    (size : ∀ row ∈ rows, row.length = names.length) : source value = .ok (ofRows names rows) := by
  cases lays with
  | entries fields => rfl
  | @scalars items flat =>
      cases items with
      | nil => rfl
      | cons first rest =>
          obtain ⟨unlisted, unkeyed⟩ := flat first rfl
          cases first with
          | list => exact absurd rfl unlisted
          | record => exact absurd rfl unkeyed
          | null | bool | number | text => rfl
  | @lists lists width _ longest laid =>
      obtain ⟨list, member, -⟩ := longest.reached
      have some : lists ≠ [] := List.ne_nil_of_mem member
      obtain rfl : width = widthOf lists := longest.unique (longest_widthOf some)
      obtain rfl : rows = lists.map fun items => Row.fit (widthOf lists) (items.map cell) := by
        refine eq_map_of_forall₂ laid size fun items row laid size => ?_
        exact eq_fit_of_rowOfList laid (by simpa using size)
      obtain ⟨first, rest, rfl⟩ := List.exists_cons_of_ne_nil some
      exact ofLists_map (first :: rest)
  | @records records columns _ some wellFormed named keys laid =>
      rw [← keys_columnsOf] at keys
      have names := named.names_eq (KeyedColumns.named_ofRecords _) wellFormed.length
        (wellFormed_columnsOf records).length keys
      obtain rfl : rows = records.map fun fields =>
          (columnsOf records).keys.map fun key => cell (valueOf fields key) := by
        rw [keys] at laid
        refine eq_map_of_forall₂ laid size fun fields row laid size => ?_
        exact eq_map_of_rowOfRecord laid (by rw [size, wellFormed.length, keys])
      rw [names]
      obtain ⟨first, rest, rfl⟩ := List.exists_cons_of_ne_nil some
      exact ofRecords_map (first :: rest)

/-- A value is refused exactly if it is neither a list nor a record, or its first item is a list or a
record and a later one has another shape. Any other value is a table with one row for each of its
elements, the only one that is laid out for it. -/
theorem source_decided_by_shape (value : Document) :
    ((∃ failure, source value = .error failure) ↔ Rejected value) ∧
      (∀ failure, source value = .error failure → ∃ told, failure = .unsupportedShape told) ∧
      (∀ made, source value = .ok made →
        ∃ names rows, Holds made names rows ∧ Lays value names rows) ∧
      ∀ names rows, Lays value names rows → (∀ row ∈ rows, row.length = names.length) →
        ∃ made, source value = .ok made ∧ Holds made names rows := by
  have only : ∀ names rows, Lays value names rows → (∀ row ∈ rows, row.length = names.length) →
      ∃ made, source value = .ok made ∧ Holds made names rows :=
    fun names rows lays size => ⟨_, source_of_lays lays size, holds_ofRows size⟩
  obtain ⟨rejected, told, refused⟩ | ⟨kept, made, names, rows, done, holds, lays⟩ :=
    decided_source value
  · refine ⟨⟨fun _ => rejected, fun _ => ⟨_, refused⟩⟩, ?_, ?_, only⟩
    · intro failure same
      exact ⟨told, Except.error.inj (same.symm.trans refused)⟩
    · intro made same
      cases same.symm.trans refused
  · refine ⟨⟨?_, fun rejected => absurd rejected kept⟩, ?_, ?_, only⟩
    · rintro ⟨failure, same⟩
      cases same.symm.trans done
    · intro failure same
      cases same.symm.trans done
    · intro other same
      cases same.symm.trans done
      exact ⟨names, rows, holds, lays⟩

/-- Lists of three lengths with a null, records whose keys differ in case only, and a list of lists
and a record. A record is not laid out under the names of its columns in another order. -/
theorem source_decided_by_shape_ragged :
    let lists : Document :=
      .list [.list [.number (.integer 1)], .list [.null, .text "x"], .list []]
    let records : Document :=
      .list [.record [("id", .number (.integer 7)), ("Tag", .null)], .record [("tag", .bool true)]]
    let mixed : Document := .list [.list [.null], .list [], .record []]
    (∃ made, source lists = .ok made ∧ made.types = .ok ["int", "text"] ∧
        Lays lists ["c1", "c2"] [[.int 1, .null], [.null, .text "x"], [.null, .null]]) ∧
      (∃ made, source records = .ok made ∧ made.types = .ok ["int", "text", "text"] ∧
        Lays records ["id", "Tag", "tag0"] [[.int 7, .null, .null], [.null, .null, .bool true]]) ∧
      ¬Lays records ["Tag", "id", "tag0"] [[.int 7, .null, .null], [.null, .null, .bool true]] ∧
      source mixed = .error (.unsupportedShape "sequence mixed with record") ∧ Rejected mixed := by
  intro lists records mixed
  have laid {value : Document} {made : Source} {names : List String} {rows : List Row}
      (done : source value = .ok made) (named : made.names = .ok names)
      (ahead : made.takeAhead.1 = rows) : Lays value names rows := by
    obtain ⟨-, -, tables, -⟩ := source_decided_by_shape value
    obtain ⟨others, lines, holds, lays⟩ := tables made done
    cases named.symm.trans holds.named
    cases ahead.symm.trans holds.ahead
    exact lays
  have swapped : ¬Lays records ["Tag", "id", "tag0"]
      [[.int 7, .null, .null], [.null, .null, .bool true]] := by
    intro lays
    obtain ⟨-, -, -, only⟩ := source_decided_by_shape records
    obtain ⟨made, done, holds⟩ := only _ _ lays (by decide)
    have named : made.names = .ok ["id", "Tag", "tag0"] := by
      cases done
      decide +kernel
    exact absurd (Except.ok.inj (named.symm.trans holds.named)) (by decide)
  have refused : source mixed = .error (.unsupportedShape "sequence mixed with record") := rfl
  refine ⟨⟨_, rfl, by decide +kernel, laid rfl (by decide +kernel) (by decide +kernel)⟩,
    ⟨_, rfl, by decide +kernel, laid rfl (by decide +kernel) (by decide +kernel)⟩,
    swapped, refused, (source_decided_by_shape mixed).1.mp ⟨_, refused⟩⟩

end InMemory

end Tabular
