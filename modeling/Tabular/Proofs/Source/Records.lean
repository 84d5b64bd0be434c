import Tabular.Proofs.Document
import Tabular.Proofs.Json.Reading
import Tabular.Proofs.Source.Sentinel

/-!
# Records of a text and records in memory

The records of a JSON text and the same records in memory have the same columns and the same rows.
A cell of a text is text, and a cell in memory has the type of its value, but they are null together
and shown by the same text. The exception are numbers that are no integers of sixty-four bits with
sign: in memory they are floating-point numbers, which have a text of their own.
-/

set_option autoImplicit false

namespace Tabular

/-! ## Values and their cells -/

namespace Document

/-- The value of a record for a key: the last one written, or null. -/
def valueOf (fields : List (String × Document)) (key : String) : Document :=
  (field? fields.reverse key).getD .null

/-- Anything but a number that is no integer of sixty-four bits with sign. -/
def Exact : Document → Prop
  | .number (.integer n) => Number.isSigned64 n = true
  | .number (.float _) => False
  | _ => True

/-- The columns for the keys of records. -/
def columnsOf (records : List (List (String × Document))) : KeyedColumns :=
  .ofRecords (records.map fun fields => fields.map (·.1))

/-- The rows of records, when a value has the given cell. -/
def rowsOf (cell : Document → Cell) (records : List (List (String × Document))) : List Row :=
  records.map fun fields => (columnsOf records).keys.map fun key => cell (valueOf fields key)

end Document

open Document (valueOf columnsOf rowsOf Exact)

private theorem isNull_cell (value : Document) :
    (Documents.cell value).isNull = (InMemory.cell value).isNull := by
  cases value with
  | null | bool | text | list | record => rfl
  | number number =>
      cases number with
      | float => rfl
      | integer n =>
          cases fits : Number.isSigned64 n with
          | true => simp [Documents.cell, InMemory.cell, fits, Cell.isNull]
          | false => simp [Documents.cell, InMemory.cell, fits, Cell.isNull]

private theorem toText_cell {value : Document} (exact : Exact value) :
    (Documents.cell value).toText = (InMemory.cell value).toText := by
  cases value with
  | null | bool | text | list | record => rfl
  | number number =>
      cases number with
      | float => cases exact
      | integer n =>
          have fits : Number.isSigned64 n = true := exact
          simp only [InMemory.cell, fits, if_true]
          rfl

/-- An integer beyond sixty-four bits with sign keeps its digits only in the cell of a text. -/
theorem cells_of_wide {n : Int} (wide : Number.isSigned64 n = false) :
    Documents.cell (.number (.integer n)) = .text (toString n) ∧
      InMemory.cell (.number (.integer n)) = .float (Binary64.ofInt n) := by
  refine ⟨rfl, ?_⟩
  simp [InMemory.cell, wide]

private theorem cells_of_float (x : Binary64) :
    Documents.cell (.number (.float x)) = .text (NumberStyle.interchange.text x) ∧
      InMemory.cell (.number (.float x)) = .float x :=
  ⟨rfl, rfl⟩

/-! ## Items of one shape -/

namespace InMemory

/-- Reading items as those of one shape. -/
structure Reads {α : Type} (read : Document → Result α) (form : α → Document) (wanted : String) :
    Prop where
  formed : ∀ content, read (form content) = .ok content
  named : ∀ content, shape (form content) = wanted
  other : ∀ item, (∃ content, item = form content) ∨
    shape item ≠ wanted ∧ read item = .error (mixed wanted item)

theorem reads_lists : Reads asList .list "sequence" where
  formed := fun _ => rfl
  named := fun _ => rfl
  other := by
    intro item
    cases item with
    | list items => exact .inl ⟨items, rfl⟩
    | null | bool | number | text | record => exact .inr ⟨by simp [shape], rfl⟩

theorem reads_records : Reads asRecord .record "record" where
  formed := fun _ => rfl
  named := fun _ => rfl
  other := by
    intro item
    cases item with
    | record fields => exact .inl ⟨fields, rfl⟩
    | null | bool | number | text | list => exact .inr ⟨by simp [shape], rfl⟩

section

variable {α : Type} {read : Document → Result α} {form : α → Document} {wanted : String}

theorem Reads.mapM_form (reads : Reads read form wanted) (contents : List α) :
    (contents.map form).mapM read = .ok contents := by
  induction contents with
  | nil => rfl
  | cons content contents ih =>
      rw [List.map_cons, List.mapM_cons, reads.formed, ih]
      rfl

theorem Reads.shape_of_mem (reads : Reads read form wanted) {contents : List α} {item : Document}
    (member : item ∈ contents.map form) : shape item = wanted := by
  obtain ⟨content, -, rfl⟩ := List.mem_map.mp member
  exact reads.named content

/-- Items have one shape, or they are refused for the first one that has another. -/
theorem Reads.mapM_cases (reads : Reads read form wanted) (items : List Document) :
    (∃ contents : List α, items = contents.map form) ∨
      ∃ item ∈ items, shape item ≠ wanted ∧ items.mapM read = .error (mixed wanted item) := by
  induction items with
  | nil => exact .inl ⟨[], rfl⟩
  | cons item items ih =>
      obtain ⟨content, rfl⟩ | ⟨otherwise, refused⟩ := reads.other item
      · obtain ⟨contents, rfl⟩ | ⟨item, member, otherwise, refused⟩ := ih
        · exact .inl ⟨content :: contents, rfl⟩
        · refine .inr ⟨item, List.mem_cons_of_mem _ member, otherwise, ?_⟩
          rw [List.mapM_cons, reads.formed, refused]
          rfl
      · refine .inr ⟨item, List.mem_cons_self, otherwise, ?_⟩
        rw [List.mapM_cons, refused]
        rfl

end

end InMemory

/-! ## Rows of records -/

section

variable {cell : Document → Cell} {records : List (List (String × Document))}

private theorem cellOf_fields (null : cell .null = .null) (fields : List (String × Document))
    (key : String) :
    KeyedColumns.cellOf key (fields.map fun (key, value) => (key, cell value)) =
      cell (valueOf fields key) := by
  unfold KeyedColumns.cellOf valueOf Document.field?
  rw [← List.map_reverse, List.find?_map]
  simp only [Function.comp_def]
  cases fields.reverse.find? fun entry => entry.1 == key with
  | none => exact null.symm
  | some entry => rfl

theorem project_fields (null : cell .null = .null) (columns : KeyedColumns)
    (fields : List (String × Document)) :
    columns.project (fields.map fun (key, value) => (key, cell value)) =
      columns.keys.map fun key => cell (valueOf fields key) := by
  simp only [KeyedColumns.project_eq_map, cellOf_fields null]

theorem wellFormed_columnsOf (records : List (List (String × Document))) :
    (columnsOf records).WellFormed :=
  KeyedColumns.wellFormed_ofRecords _

theorem names_columnsOf_ne_nil (filled : ∃ fields ∈ records, fields ≠ []) :
    (columnsOf records).names ≠ [] := by
  obtain ⟨fields, member, some⟩ := filled
  obtain ⟨field, rest, rfl⟩ := List.exists_cons_of_ne_nil some
  have seen : field.1 ∈ (columnsOf records).keys :=
    KeyedColumns.mem_keys_ofRecords.mpr ⟨_, List.mem_map_of_mem member, List.mem_cons_self⟩
  intro empty
  have none := (wellFormed_columnsOf records).length
  rw [empty] at none
  rw [List.length_eq_zero_iff.mp none.symm] at seen
  cases seen

private theorem exists_in_memory (filled : ∃ fields ∈ records, fields ≠ []) :
    ∃ memory, InMemory.source (.list (records.map .record)) = .ok memory ∧
      memory.names = .ok (columnsOf records).names ∧
      memory.rows = Feed.ofList (rowsOf InMemory.cell records) := by
  have whole : InMemory.source (.list (records.map .record)) =
      InMemory.ofRecords (records.map .record) := by
    obtain ⟨fields, member, -⟩ := filled
    cases records with
    | nil => cases member
    | cons first others => rfl
  have made : InMemory.ofRecords (records.map .record) =
      .ok (InMemory.ofRows (columnsOf records).names (rowsOf InMemory.cell records)) := by
    rw [InMemory.ofRecords, InMemory.reads_records.mapM_form]
    have rows : rowsOf InMemory.cell records = records.map fun fields =>
        (columnsOf records).project (fields.map fun (key, value) => (key, InMemory.cell value)) :=
      List.map_congr_left fun fields _ => (project_fields rfl _ fields).symm
    rw [rows]
    rfl
  refine ⟨_, whole.trans made, rfl, ?_⟩
  simp [Source.rows, InMemory.ofRows, Source.takeAhead, Source.live]

private theorem exists_of_text {bytes : List UInt8} {ahead : Nat}
    (parsed : Json.parse bytes = .ok (.list (records.map .record)))
    (filled : ∃ fields ∈ records, fields ≠ []) (enough : records.length ≤ ahead) :
    ∃ file, Documents.sourceOf { ahead := ahead } (Documents.jsonFeed ⟨bytes, true⟩) = .ok file ∧
      file.names = .ok (columnsOf records).names ∧
      file.rows = Feed.ofList (rowsOf Documents.cell records) := by
  let options : ReadOptions := { ahead := ahead }
  let document : Document := .list (records.map .record)
  have feed : Documents.jsonFeed ⟨bytes, true⟩ = Feed.ofList [document] := by
    change (Json.parseAll bytes).map _ = _
    rw [Json.parseAll_of_parse parsed]
    rfl
  have items : Documents.found options [document] = records.map .record := by
    simp [Documents.found, Documents.path, options, document, Path.apply, Path.select,
      Documents.itemsOf]
  have columns : Documents.columnsOf options [document] = columnsOf records := by
    rw [Documents.columnsOf, items, List.take_of_length_le (by simpa using enough), columnsOf,
      List.map_map]
    rfl
  have schema : (Documents.table options [document]).schema? =
      some ⟨(columnsOf records).names, defaultTypes (columnsOf records).width⟩ := by
    change (Documents.columnsOf options [document]).schema? = _
    rw [columns, KeyedColumns.schema?, if_neg]
    simpa using names_columnsOf_ne_nil filled
  refine ⟨_, by rw [feed, Documents.sourceOf_ofList], ?_, ?_⟩
  · change Except.map Schema.names (Documents.table options [document]).schema = _
    rw [Source.schema, schema]
    rfl
  · rw [Documents.rows_table options _ rfl, items, columns, List.map_map, rowsOf]
    congr 2
    funext fields
    rw [← project_fields rfl]
    rfl

theorem getElem?_rowsOf {n : Nat} {fields : List (String × Document)}
    (here : records[n]? = some fields) :
    (Feed.ofList (rowsOf cell records))[n]? =
      some (.ok ((columnsOf records).keys.map fun key => cell (valueOf fields key))) := by
  rw [Feed.getElem?_ofList, rowsOf, List.getElem?_map, here]
  rfl

end

/-! ## Texts and memory -/

/-- The records of a JSON text, all of them read ahead, and the same records in memory have the same
names of columns and the same number of rows. A record has in every column the cell of its value for
the key. The two cells are null together, and have the same text if the value is no number or an
integer of sixty-four bits with sign. Any other integer keeps its digits in the cell of the text and
is a floating-point number in memory; a floating-point number is written as in JSON in the cell of the
text and shown like every cell in memory. -/
theorem InMemory.records_as_read {bytes : List UInt8}
    {records : List (List (String × Document))} {ahead : Nat}
    (parsed : Json.parse bytes = .ok (.list (records.map .record)))
    (filled : ∃ fields ∈ records, fields ≠ []) (enough : records.length ≤ ahead) :
    let columns := columnsOf records
    ∃ file memory,
      Documents.sourceOf { ahead := ahead } (Documents.jsonFeed ⟨bytes, true⟩) = .ok file ∧
      InMemory.source (.list (records.map .record)) = .ok memory ∧
      file.names = .ok columns.names ∧ memory.names = .ok columns.names ∧
      file.rows.length = records.length ∧ memory.rows.length = records.length ∧
      ∀ (n : Nat) (fields : List (String × Document)), records[n]? = some fields →
        ∃ read held : Row, file.rows[n]? = some (.ok read) ∧ memory.rows[n]? = some (.ok held) ∧
          read.length = columns.names.length ∧ held.length = columns.names.length ∧
          ∀ position < columns.names.length, ∃ key shown stored,
            columns.keys[position]? = some key ∧
            read[position]? = some shown ∧ held[position]? = some stored ∧
            shown.isNull = stored.isNull ∧
            (Exact (valueOf fields key) → shown.toText = stored.toText) ∧
            (∀ m : Int, valueOf fields key = .number (.integer m) → Number.isSigned64 m = false →
              shown = .text (toString m) ∧ stored = .float (Binary64.ofInt m)) ∧
            (∀ x : Binary64, valueOf fields key = .number (.float x) →
              shown = .text (NumberStyle.interchange.text x) ∧ stored = .float x) := by
  intro columns
  obtain ⟨file, made, named, rows⟩ := exists_of_text parsed filled enough
  obtain ⟨memory, kept, called, lines⟩ := exists_in_memory filled
  have width : columns.names.length = columns.keys.length := (wellFormed_columnsOf records).length
  refine ⟨file, memory, made, kept, named, called, ?_, ?_, fun n fields here => ?_⟩
  · rw [rows, Feed.length_ofList, rowsOf, List.length_map]
  · rw [lines, Feed.length_ofList, rowsOf, List.length_map]
  · refine ⟨columns.keys.map fun key => Documents.cell (valueOf fields key),
      columns.keys.map fun key => InMemory.cell (valueOf fields key),
      by rw [rows, getElem?_rowsOf here], by rw [lines, getElem?_rowsOf here],
      by rw [List.length_map, width], by rw [List.length_map, width], fun position inside => ?_⟩
    obtain ⟨key, at_key⟩ : ∃ key, columns.keys[position]? = some key :=
      ⟨_, List.getElem?_eq_getElem (width ▸ inside)⟩
    refine ⟨key, _, _, at_key, by rw [List.getElem?_map, at_key]; rfl,
      by rw [List.getElem?_map, at_key]; rfl, isNull_cell _,
      toText_cell, fun m value wide => ?_, fun x value => ?_⟩
    · rw [value]
      exact cells_of_wide wide
    · rw [value]
      exact cells_of_float x

/-- Keys that differ in case only, a value that is missing, a null, a wide integer inside a list and
one that fits. -/
theorem InMemory.records_as_read_mixed :
    let bytes := Utf8.bytes
      "[\x7b\"id\":-7,\"Tag\":null\x7d,\x7b\"tag\":[18446744073709551615],\"id\":true\x7d,\x7b \x7d,\x7b\"id\":\"p\"\x7d]"
    let records : List (List (String × Document)) :=
      [[("id", .number (.integer (-7))), ("Tag", .null)],
        [("tag", .list [.number (.integer 18446744073709551615)]), ("id", .bool true)], [],
        [("id", .text "p")]]
    Json.parse bytes = .ok (.list (records.map .record)) ∧ (∃ fields ∈ records, fields ≠ []) ∧
      records.length ≤ 5 ∧
      ∃ file memory,
        Documents.sourceOf { ahead := 5 } (Documents.jsonFeed ⟨bytes, true⟩) = .ok file ∧
        InMemory.source (.list (records.map .record)) = .ok memory ∧
        file.names = .ok ["id", "Tag", "tag0"] ∧ memory.names = .ok ["id", "Tag", "tag0"] ∧
        ∃ read held : Row, file.rows[1]? = some (.ok read) ∧ memory.rows[1]? = some (.ok held) ∧
          ∃ shown stored, read[2]? = some shown ∧ held[2]? = some stored ∧
            shown.toText = stored.toText := by
  intro bytes records
  have parsed : Json.parse bytes = .ok (.list (records.map .record)) := by decide +kernel
  have filled : ∃ fields ∈ records, fields ≠ [] := ⟨_, .head _, by simp⟩
  have enough : records.length ≤ 5 := by decide
  refine ⟨parsed, filled, enough, ?_⟩
  obtain ⟨file, memory, made, kept, named, called, -, -, cells⟩ :=
    InMemory.records_as_read parsed filled enough
  have names : (columnsOf records).names = ["id", "Tag", "tag0"] := by decide +kernel
  obtain ⟨read, held, line, row, -, -, alike⟩ := cells 1 _ rfl
  obtain ⟨key, shown, stored, column, here, there, -, text, -⟩ := alike 2 (by rw [names]; decide)
  have keyed : (columnsOf records).keys[2]? = some "tag" := by decide +kernel
  obtain rfl := Option.some.inj (keyed.symm.trans column)
  exact ⟨file, memory, made, kept, named.trans (by rw [names]), called.trans (by rw [names]),
    read, held, line, row, shown, stored, here, there, text trivial⟩

/-- The largest integer of sixty-four bits without sign has another text in memory. -/
theorem InMemory.wide_integer_as_float :
    let bytes := Utf8.bytes "[\x7b\"a\":18446744073709551615\x7d]"
    let records : List (List (String × Document)) :=
      [[("a", .number (.integer 18446744073709551615))]]
    Json.parse bytes = .ok (.list (records.map .record)) ∧
      Number.isUnsigned64 18446744073709551615 = true ∧
      ∃ shown stored,
        (Documents.sourceOf { ahead := 1 } (Documents.jsonFeed ⟨bytes, true⟩)).map Source.rows =
          .ok [.ok [shown]] ∧
        (InMemory.source (.list (records.map .record))).map Source.rows = .ok [.ok [stored]] ∧
        shown.toText = "18446744073709551615" ∧ stored.toText = "18446744073709552000" := by
  refine ⟨by decide +kernel, by decide, .text "18446744073709551615",
    .float (Binary64.ofInt 18446744073709551615), by decide +kernel, by decide +kernel, rfl,
    by decide +kernel⟩

end Tabular
