import Tabular.Proofs.Source.Window

/-!
# Documents as one list of items

Items are asked for one by one, and a document is read when those of the one before are used up. They
come as if all documents were read first and their items put together: some are discarded, some are
read ahead and the others follow. Where reading fails the items before it have all been handed out,
unless the failure is met while discarding or reading ahead.
-/

set_option autoImplicit false

namespace Tabular.Documents

/-! ## Items that wait -/

/-- The items that wait of a document that was read, and the documents behind it. -/
structure Pending where
  waiting : List Document
  documents : Feed Document

namespace Pending

variable (path : Path)

/-- The first item of a feed of documents. Those without items are passed over. -/
def refill : Feed Document → Result (Option Document) × Pending
  | [] => (.ok none, ⟨[], []⟩)
  | .error failure :: rest => (.error failure, ⟨[], rest⟩)
  | .ok document :: rest =>
    match itemsOf (path.apply document) with
    | [] => refill rest
    | item :: waiting => (.ok (some item), ⟨waiting, rest⟩)

/-- The next item; nothing at the end. -/
def pull : Pending → Result (Option Document) × Pending
  | ⟨item :: waiting, documents⟩ => (.ok (some item), ⟨waiting, documents⟩)
  | ⟨[], documents⟩ => refill path documents

def after : Nat → Pending → Pending
  | 0, pending => pending
  | count + 1, pending => after count (pending.pull path).2

/-- All items that are still to come. -/
def feed (pending : Pending) : Feed Document :=
  Feed.ofList pending.waiting ++ items path pending.documents

/-- The first piece of a feed; nothing of an empty one. -/
def first? : Feed Document → Result (Option Document)
  | [] => .ok none
  | piece :: _ => piece.map some

variable {path}

private theorem refill_eq (documents : Feed Document) :
    (refill path documents).1 = first? (items path documents) ∧
      (refill path documents).2.feed path = (items path documents).tail := by
  induction documents with
  | nil => exact ⟨rfl, rfl⟩
  | cons piece documents ih =>
      cases piece with
      | error failure => exact ⟨rfl, rfl⟩
      | ok document =>
          rw [refill, items]
          cases itemsOf (path.apply document) with
          | nil => exact ih
          | cons item waiting => exact ⟨rfl, rfl⟩

private theorem pull_eq (pending : Pending) :
    (pending.pull path).1 = first? (pending.feed path) ∧
      (pending.pull path).2.feed path = (pending.feed path).tail := by
  obtain ⟨_ | ⟨item, waiting⟩, documents⟩ := pending
  · exact refill_eq documents
  · exact ⟨rfl, rfl⟩

private theorem feed_after (count : Nat) (pending : Pending) :
    (pending.after path count).feed path = (pending.feed path).drop count := by
  induction count generalizing pending with
  | zero => rfl
  | succ count ih => rw [after, ih, (pull_eq pending).2, List.drop_tail]

/-- Pulled one by one, the items are those of the feed. -/
theorem pull_after (count : Nat) (pending : Pending) :
    ((pending.after path count).pull path).1 = first? ((pending.feed path).drop count) := by
  rw [(pull_eq _).1, feed_after]

/-- Without a failure every pull gives the item at its place, or the end. -/
theorem pull_after_ofList {pending : Pending} {items : List Document}
    (whole : pending.feed path = Feed.ofList items) (count : Nat) :
    ((pending.after path count).pull path).1 = .ok items[count]? := by
  rw [pull_after, whole, Feed.ofList, ← List.map_drop, ← List.head?_drop]
  cases items.drop count <;> rfl

/-- Where items are left the next of them is pulled. -/
theorem pull_after_of_lt {pending : Pending} {items : List Document} {rest : Feed Document}
    (whole : pending.feed path = Feed.ofList items ++ rest) {count : Nat}
    (more : count < items.length) :
    ((pending.after path count).pull path).1 = .ok items[count]? := by
  rw [pull_after, whole, Feed.ofList, List.drop_append_of_le_length (by simpa using Nat.le_of_lt more),
    ← List.map_drop, List.drop_eq_getElem_cons more, List.getElem?_eq_getElem more]
  rfl

/-- Behind the items comes what is left of the feed. -/
theorem pull_after_length {pending : Pending} {items : List Document} {rest : Feed Document}
    (whole : pending.feed path = Feed.ofList items ++ rest) :
    ((pending.after path items.length).pull path).1 = first? rest := by
  rw [pull_after, whole, Feed.ofList, List.drop_left' (List.length_map _)]

end Pending

/-! ## Sources of documents -/

/-- The items of documents, those that are to be discarded included. -/
def allItems (options : ReadOptions) (documents : List Document) : List Document :=
  documents.flatMap fun document => itemsOf ((path options).apply document)

theorem items_ofList_append (path : Path) (documents : List Document) (rest : Feed Document) :
    items path (Feed.ofList documents ++ rest) =
      Feed.ofList (documents.flatMap fun document => itemsOf (path.apply document)) ++
        items path rest := by
  induction documents with
  | nil => rfl
  | cons document documents ih =>
      rw [Feed.ofList] at ih
      rw [Feed.ofList, List.map_cons, List.cons_append, items, ih, List.flatMap_cons,
        Feed.ofList_append, List.append_assoc]
      rfl

private theorem sourceOf_eq (options : ReadOptions) (feed : Feed Document) :
    sourceOf options feed =
      (Feed.discard options.skip (items (path options) feed) >>= fun feed =>
        Feed.take options.ahead feed >>= fun taken =>
          let columns := taken.1.foldl register KeyedColumns.empty
          let row := project options.null columns
          .ok (.table columns.schema? (taken.1.map row)
            (options.liveRows (Feed.map row taken.2)))) := rfl

variable {options : ReadOptions} {documents : List Document} {rest : Feed Document}

/-- With enough items in front of a failure the source is made, and the failure comes behind the rows
of these items. -/
theorem sourceOf_of_le (rest : Feed Document) (wanted : options.onlyAhead = false)
    (enough : options.skip + options.ahead ≤ (allItems options documents).length) :
    let row := project options.null (columnsOf options documents)
    ∃ source, sourceOf options (Feed.ofList documents ++ rest) = .ok source ∧
      source.takeAhead.1 = ((found options documents).take options.ahead).map row ∧
      source.rows = Feed.ofList ((found options documents).map row) ++
        Feed.map row (items (path options) rest) := by
  intro row
  have made : sourceOf options (Feed.ofList documents ++ rest) = .ok (.table
      (columnsOf options documents).schema? (((found options documents).take options.ahead).map row)
      (options.liveRows (Feed.map row (Feed.ofList ((found options documents).drop options.ahead) ++
        items (path options) rest)))) := by
    rw [sourceOf_eq, items_ofList_append, ← allItems, Feed.take_discard_of_le enough, foldl_register]
    rfl
  refine ⟨_, made, rfl, ?_⟩
  rw [Source.rows, Source.takeAhead, Source.live, ReadOptions.liveRows, wanted]
  change Feed.ofList _ ++ Feed.map row _ = _
  rw [Feed.map_append, Feed.map_ofList, ← List.append_assoc, ← Feed.ofList_append, ← List.map_append,
    List.take_append_drop]

/-- With too few items in front of a failure there is no source. -/
theorem sourceOf_of_lt {failure : Error}
    (few : (allItems options documents).length < options.skip + options.ahead) :
    sourceOf options (Feed.ofList documents ++ .error failure :: rest) = .error failure := by
  rw [sourceOf_eq, items_ofList_append, ← allItems, items, Feed.take_discard_of_lt few]

/-- Documents are read as if all were read first. Pulled one by one, their items are the items of the
documents in order, and then the end or the failure behind the documents. The rows are those of the
items without the discarded ones, each once and in order, first those read ahead; and where a failure
is met while items are discarded or read ahead there is no source. -/
theorem rows_of_documents (wanted : options.onlyAhead = false) (documents : List Document) :
    let all := allItems options documents
    let row := project options.null (columnsOf options documents)
    let pulled := fun feed count => ((Pending.after (path options) count ⟨[], feed⟩).pull (path options)).1
    ((∀ count, pulled (Feed.ofList documents) count = .ok all[count]?) ∧
      ∃ source, sourceOf options (Feed.ofList documents) = .ok source ∧
        source.takeAhead.1 = ((all.drop options.skip).take options.ahead).map row ∧
        source.rows = Feed.ofList ((all.drop options.skip).map row)) ∧
    ∀ failure rest,
      let feed := Feed.ofList documents ++ .error failure :: rest
      (∀ count < all.length, pulled feed count = .ok all[count]?) ∧
      pulled feed all.length = .error failure ∧
      (options.skip + options.ahead ≤ all.length → ∃ source, sourceOf options feed = .ok source ∧
        source.takeAhead.1 = ((all.drop options.skip).take options.ahead).map row ∧
        ∃ more, source.rows =
          Feed.ofList ((all.drop options.skip).map row) ++ .error failure :: more) ∧
      (all.length < options.skip + options.ahead → sourceOf options feed = .error failure) := by
  intro all row pulled
  refine ⟨⟨?pulled, _, sourceOf_ofList options documents, rfl, rows_table options documents wanted⟩, ?failing⟩
  case pulled => exact Pending.pull_after_ofList (items_ofList (path options) documents)
  case failing =>
    intro failure rest feed
    have whole : Pending.feed (path options) ⟨[], feed⟩ =
        Feed.ofList all ++ .error failure :: items (path options) rest :=
      items_ofList_append (path options) documents _
    refine ⟨fun count => Pending.pull_after_of_lt whole, Pending.pull_after_length whole, ?_,
      sourceOf_of_lt⟩
    intro enough
    obtain ⟨source, made, ahead, rows⟩ := sourceOf_of_le (.error failure :: rest) wanted enough
    exact ⟨source, made, ahead, _, rows⟩

/-- Lists with and without items, a null document and a null item, behind a path. One item is discarded
and two are read ahead, of the items of one list; with four the failure is met. -/
theorem rows_of_documents_broken :
    let options : ReadOptions := { skip := 1, ahead := 2, path := some "x" }
    let documents : List Document := [.list [], .record [("x", .list [.number (.integer 7), .null,
      .record [("a", .text "p")]])], .null, .record [("x", .record [("a", .bool true)])]]
    let feed := Feed.ofList documents ++ [.error .invalidJson]
    options.onlyAhead = false ∧ ({ options with ahead := 4 } : ReadOptions).onlyAhead = false ∧
      (∃ source, sourceOf options feed = .ok source ∧
        source.takeAhead.1 = [[.null], [.text "p"]] ∧
        ∃ more, source.rows =
          Feed.ofList [[.null], [.text "p"], [.text "true"]] ++ .error .invalidJson :: more) ∧
      sourceOf { options with ahead := 4 } feed = .error .invalidJson := by
  intro options documents feed
  have size : (allItems options documents).length = 4 := by decide +kernel
  have wanted : options.onlyAhead = false := rfl
  have wantedToo : ({ options with ahead := 4 } : ReadOptions).onlyAhead = false := rfl
  refine ⟨wanted, wantedToo, ?some, ?none⟩
  case some =>
    obtain ⟨-, -, many, -⟩ := (rows_of_documents wanted documents).2 .invalidJson []
    obtain ⟨source, made, ahead, more, rows⟩ := many (by rw [size]; decide)
    exact ⟨source, made, ahead.trans (by decide +kernel), more, rows.trans (by congr 1; decide +kernel)⟩
  case none =>
    obtain ⟨-, -, -, few⟩ :=
      (rows_of_documents wantedToo documents).2 .invalidJson []
    refine few ?_
    have same : (allItems { options with ahead := 4 } documents).length = 4 := size
    rw [same]
    decide

end Tabular.Documents
