import Mathlib.Data.List.Basic
import Tabular.Engine.Load
import Tabular.Proofs.Engine.Dialect
import Tabular.Proofs.Engine.Reliable

/-!
# Loading by insertion

The calls that a load by insertion makes on a reliable engine, call by call: as many full batches as
there are, through one statement, and a last smaller batch through another. What one batch does
depends on the statement that is open; the run lemma carries the batches so far through the feed.
-/

set_option autoImplicit false

namespace Tabular.Load

/-- The calls that run batches through a statement that stays open. -/
def opened (sql : String) (id : Nat) (batches : List (List Row)) : List CallRecord :=
  .prepare sql id :: batches.map fun batch => .run id batch.flatten

/-- The calls that run batches through a statement of their own. Without batches there are none. -/
def session (sql : String) (id : Nat) (batches : List (List Row)) : List CallRecord :=
  if batches = [] then [] else opened sql id batches ++ [.close id]

def leftOver (last : List Row) : List (List Row) :=
  if last = [] then [] else [last]

/-- The calls that insert full batches and the rows left over. -/
def sessions (dialect : Dialect) (target : Target) (full : List (List Row)) (last : List Row)
    (first second : Nat) : List CallRecord :=
  session (target.insertText dialect (target.capacity dialect)) first full ++
    session (target.insertText dialect last.length) second (leftOver last)

/-! ## What a session does -/

theorem session_nil (sql : String) (id : Nat) : session sql id [] = [] :=
  if_pos rfl

theorem session_of_ne_nil {batches : List (List Row)} (some_batch : batches ≠ []) (sql : String)
    (id : Nat) : session sql id batches = opened sql id batches ++ [.close id] :=
  if_neg some_batch

section Reliable

variable {state : Type} {engine : Engine state} {healthy : state → Prop}
  {log : state → List CallRecord} (target : Target)

/-! ## One batch -/

private theorem prepare_reliable (reliable : Reliable engine healthy log) {now : state}
    (start : healthy now) (rows : Nat) :
    ∃ statement after,
      prepare engine target rows now = (.ok statement, ⟨after, some ⟨statement, rows⟩⟩) ∧
      healthy after ∧
      log after = log now ++ [.prepare (target.insertText engine.dialect rows) statement.id] := by
  obtain ⟨statement, after, prepared, sound, logged⟩ :=
    reliable.prepare (target.insertText engine.dialect rows) start
  exact ⟨statement, after, by simp only [prepare, prepared], sound, logged⟩

private theorem insertBatch_first (reliable : Reliable engine healthy log)
    {progress : Progress state} (start : healthy progress.engine)
    (none_open : progress.prepared = none) (batch : Array Row) :
    ∃ statement after,
      insertBatch engine target batch progress =
        (.ok (), ⟨after, some ⟨statement, batch.size⟩⟩) ∧ healthy after ∧
      log after = log progress.engine ++
        opened (target.insertText engine.dialect batch.size) statement.id [batch.toList] := by
  obtain ⟨statement, middle, prepared, sound, logged⟩ :=
    prepare_reliable target reliable start batch.size
  obtain ⟨count, after, ran, healthyAfter, loggedAfter⟩ :=
    reliable.run statement batch.toList.flatten sound
  refine ⟨statement, after, ?_, healthyAfter, by simp [loggedAfter, logged, opened]⟩
  simp only [insertBatch, statementFor, none_open, prepared, ran, Except.map]

private theorem insertBatch_again (reliable : Reliable engine healthy log)
    {progress : Progress state} (start : healthy progress.engine) {statement : Statement}
    {batch : Array Row} (same_size : progress.prepared = some ⟨statement, batch.size⟩) :
    ∃ after,
      insertBatch engine target batch progress =
        (.ok (), ⟨after, some ⟨statement, batch.size⟩⟩) ∧ healthy after ∧
      log after = log progress.engine ++ [.run statement.id batch.toList.flatten] := by
  obtain ⟨count, after, ran, healthyAfter, loggedAfter⟩ :=
    reliable.run statement batch.toList.flatten start
  refine ⟨after, ?_, healthyAfter, loggedAfter⟩
  simp only [insertBatch, statementFor, same_size, ↓reduceIte, ran, Except.map]

private theorem insertBatch_other (reliable : Reliable engine healthy log)
    {progress : Progress state} (start : healthy progress.engine) {old : Prepared}
    (is_open : progress.prepared = some old) (batch : Array Row)
    (other_size : old.rows ≠ batch.size) :
    ∃ statement after,
      insertBatch engine target batch progress =
        (.ok (), ⟨after, some ⟨statement, batch.size⟩⟩) ∧ healthy after ∧
      log after = log progress.engine ++ .close old.statement.id ::
        opened (target.insertText engine.dialect batch.size) statement.id [batch.toList] := by
  obtain ⟨closing, closed, healthyClosed, loggedClosed⟩ := reliable.close old.statement start
  obtain ⟨statement, middle, prepared, sound, logged⟩ :=
    prepare_reliable target reliable healthyClosed batch.size
  obtain ⟨count, after, ran, healthyAfter, loggedAfter⟩ :=
    reliable.run statement batch.toList.flatten sound
  refine ⟨statement, after, ?_, healthyAfter, by simp [loggedAfter, logged, loggedClosed, opened]⟩
  simp only [insertBatch, statementFor, is_open, other_size, ↓reduceIte, closed, prepared, ran,
    Except.map]

/-! ## Batch after batch -/

/-- How things stand when full batches have been inserted after the calls in `before`: they went
through one statement, which is open, and without batches there is none. -/
inductive Underway (engine : Engine state) (healthy : state → Prop) (log : state → List CallRecord)
    (target : Target) (before : List CallRecord) : List (List Row) → Progress state → Prop where
  | start {progress : Progress state} (sound : healthy progress.engine)
      (none_open : progress.prepared = none) (logged : log progress.engine = before) :
      Underway engine healthy log target before [] progress
  | more {full : List (List Row)} {progress : Progress state} {statement : Statement}
      (sound : healthy progress.engine) (some_full : full ≠ [])
      (is_open : progress.prepared = some ⟨statement, target.capacity engine.dialect⟩)
      (logged : log progress.engine = before ++
        opened (target.insertText engine.dialect (target.capacity engine.dialect)) statement.id
          full) :
      Underway engine healthy log target before full progress

variable {target} {before : List CallRecord} {full : List (List Row)} {progress : Progress state}

private theorem Underway.insertBatch
    (underway : Underway engine healthy log target before full progress)
    (reliable : Reliable engine healthy log) {batch : Array Row}
    (whole : batch.size = target.capacity engine.dialect) :
    ∃ after, Load.insertBatch engine target batch progress = (.ok (), after) ∧
      Underway engine healthy log target before (full ++ [batch.toList]) after := by
  cases underway with
  | start sound none_open logged =>
      obtain ⟨statement, after, inserted, healthyAfter, loggedAfter⟩ :=
        insertBatch_first target reliable sound none_open batch
      rw [whole] at inserted loggedAfter
      refine ⟨_, inserted, .more healthyAfter (by simp) rfl ?_⟩
      rw [loggedAfter, logged, List.nil_append]
  | @more _ _ statement sound some_full is_open logged =>
      rw [← whole] at is_open
      obtain ⟨after, inserted, healthyAfter, loggedAfter⟩ :=
        insertBatch_again target reliable sound is_open
      rw [whole] at inserted
      refine ⟨_, inserted, .more healthyAfter (by simp) rfl ?_⟩
      rw [loggedAfter, logged]
      simp [opened]

/-- A smaller batch closes the statement for full batches and opens its own. -/
theorem Underway.insertLast (underway : Underway engine healthy log target before full progress)
    (reliable : Reliable engine healthy log) {batch : Array Row}
    (smaller : batch.size < target.capacity engine.dialect) :
    ∃ first statement after,
      Load.insertBatch engine target batch progress =
        (.ok (), ⟨after, some ⟨statement, batch.size⟩⟩) ∧ healthy after ∧
      log after = before ++
        session (target.insertText engine.dialect (target.capacity engine.dialect)) first full ++
        opened (target.insertText engine.dialect batch.size) statement.id [batch.toList] := by
  cases underway with
  | start sound none_open logged =>
      obtain ⟨statement, after, inserted, healthyAfter, loggedAfter⟩ :=
        insertBatch_first target reliable sound none_open batch
      refine ⟨0, statement, after, inserted, healthyAfter, ?_⟩
      rw [loggedAfter, logged, session_nil, List.append_nil]
  | @more _ _ old sound some_full is_open logged =>
      obtain ⟨statement, after, inserted, healthyAfter, loggedAfter⟩ :=
        insertBatch_other target reliable sound is_open batch (Nat.ne_of_gt smaller)
      refine ⟨old.id, statement, after, inserted, healthyAfter, ?_⟩
      rw [loggedAfter, logged, session_of_ne_nil some_full]
      simp

private theorem Underway.closed (underway : Underway engine healthy log target before full progress)
    (reliable : Reliable engine healthy log) (outcome : Result Nat) (unread : Feed Row) :
    ∃ first after, Load.closed engine ⟨outcome, unread, progress⟩ = (outcome, unread, after) ∧
      log after = before ++
        session (target.insertText engine.dialect (target.capacity engine.dialect)) first full := by
  cases underway with
  | start sound none_open logged =>
      refine ⟨0, progress.engine, by simp only [Load.closed, none_open], ?_⟩
      rw [logged, session_nil, List.append_nil]
  | @more _ _ statement sound some_full is_open logged =>
      obtain ⟨after, closing, _, loggedAfter⟩ := reliable.close statement sound
      refine ⟨statement.id, after, by simp only [Load.closed, is_open, closing], ?_⟩
      rw [loggedAfter, logged, session_of_ne_nil some_full, List.append_assoc]

def keptRows (rows : List Row) : List Row :=
  rows.filter (!·.isEmpty)

def insertedRows (width : Nat) (rows : List Row) : List Row :=
  (keptRows rows).map (Row.fit width)

@[simp]
theorem insertedRows_nil (width : Nat) : insertedRows width [] = [] := rfl

/-- How a load ends that still has rows to insert after the batches in `full`: all are inserted, in
full batches and a smaller last one, which may be missing. -/
def Finishes (engine : Engine state) (log : state → List CallRecord) (target : Target)
    (before : List CallRecord) (full : List (List Row)) (total : Nat) (pending : List Row)
    (result : Result Nat × Feed Row × state) : Prop :=
  ∃ more last first second after,
    result = (.ok (total + pending.length), [], after) ∧
    (∀ batch ∈ more, batch.length = target.capacity engine.dialect) ∧
    last.length < target.capacity engine.dialect ∧ more.flatten ++ last = pending ∧
    log after = before ++ sessions engine.dialect target (full ++ more) last first second

variable {total : Nat}

private theorem Underway.finish_vacant
    (underway : Underway engine healthy log target before full progress)
    (reliable : Reliable engine healthy log) (room : 0 < target.capacity engine.dialect) :
    Finishes engine log target before full total []
      (Load.closed engine ⟨.ok total, [], progress⟩) := by
  obtain ⟨first, after, finished, logged⟩ := underway.closed reliable (.ok total) []
  refine ⟨[], [], first, 0, after, finished, fun _ member => (nomatch member), room, rfl, ?_⟩
  rw [logged, sessions, leftOver, if_pos rfl, session_nil, List.append_nil, List.append_nil]

private theorem Underway.finish_last
    (underway : Underway engine healthy log target before full progress)
    (reliable : Reliable engine healthy log) {batch : Array Row} (some_row : batch ≠ #[])
    (room : batch.size < target.capacity engine.dialect) :
    Finishes engine log target before full total batch.toList
      (Load.closed engine (Load.insertFrom engine target total batch progress [])) := by
  obtain ⟨first, statement, middle, inserted, sound, logged⟩ := underway.insertLast reliable room
  obtain ⟨after, closing, _, loggedAfter⟩ := reliable.close statement sound
  have rows : batch.toList ≠ [] := fun nothing => some_row (Array.toList_eq_nil_iff.mp nothing)
  have unfinished : batch.isEmpty = false := by simpa using some_row
  refine ⟨[], batch.toList, first, statement.id, after, ?_, fun _ member => (nomatch member), room,
    rfl, ?_⟩
  · simp only [Load.insertFrom, unfinished, Bool.false_eq_true, ↓reduceIte, inserted, Load.closed,
      closing, Array.length_toList]
  · rw [loggedAfter, logged, sessions, leftOver, if_neg rows, Array.length_toList, List.append_nil,
      session_of_ne_nil (List.cons_ne_nil batch.toList []), List.append_assoc, List.append_assoc]

private theorem Finishes.batch {batch pending : List Row} {result : Result Nat × Feed Row × state}
    (whole : batch.length = target.capacity engine.dialect)
    (finishes : Finishes engine log target before (full ++ [batch])
      (total + target.capacity engine.dialect) pending result) :
    Finishes engine log target before full total (batch ++ pending) result := by
  obtain ⟨more, last, first, second, after, finished, sizes, rest, joined, logged⟩ := finishes
  refine ⟨batch :: more, last, first, second, after, ?_, ?_, rest, ?_, ?_⟩
  · rw [finished, List.length_append, whole, Nat.add_assoc]
  · intro each one_of
    cases one_of with
    | head => exact whole
    | tail _ later => exact sizes each later
  · rw [List.flatten_cons, List.append_assoc, joined]
  · rw [logged, List.append_assoc full]
    rfl

private theorem Underway.insertFrom
    (underway : Underway engine healthy log target before full progress)
    (reliable : Reliable engine healthy log) (total : Nat) (batch : Array Row)
    (room : batch.size < target.capacity engine.dialect) (rows : List Row) :
    Finishes engine log target before full total
      (batch.toList ++ insertedRows target.names.length rows)
      (Load.closed engine (Load.insertFrom engine target total batch progress (rows.map .ok))) := by
  induction rows generalizing total batch full progress with
  | nil =>
      rw [insertedRows_nil, List.append_nil, List.map_nil]
      by_cases vacant : batch = #[]
      · subst vacant
        exact underway.finish_vacant reliable room
      · exact underway.finish_last reliable vacant room
  | cons row rows ih =>
      cases row with
      | nil => exact ih underway total batch room
      | cons cell cells =>
          have larger := batch.size_push (Row.fit target.names.length (cell :: cells))
          have pending : batch.toList ++
              insertedRows target.names.length ((cell :: cells) :: rows) =
              (batch.push (Row.fit target.names.length (cell :: cells))).toList ++
                insertedRows target.names.length rows := by
            rw [Array.toList_push, List.append_assoc]
            rfl
          rw [pending, List.map_cons]
          by_cases whole : (batch.push (Row.fit target.names.length (cell :: cells))).size =
              target.capacity engine.dialect
          · obtain ⟨middle, inserted, onward⟩ := underway.insertBatch reliable whole
            rw [insertFrom_whole whole, inserted]
            exact .batch ((Array.length_toList ..).trans whole)
              (ih onward _ #[] (Nat.lt_of_le_of_lt (Nat.zero_le _) room))
          · rw [insertFrom_room whole]
            exact ih underway total _ (by omega)

/-! ## A whole load -/

end Reliable

end Tabular.Load
