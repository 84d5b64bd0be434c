import Tabular.Proofs.Engine.Watched
import Tabular.Proofs.Load.Part

/-!
# Calls up to the first failure

A load makes its calls one after the other and goes on only while they succeed and the rows can be
read. It ends with the first failure; after one it makes no call but those that close a statement.
-/

set_option autoImplicit false

namespace Tabular

theorem Load.feedErrors_eq_nil {feed : Feed Row} (fine : ∀ error, .error error ∉ feed) :
    feedErrors feed = [] := by
  refine List.filterMap_eq_nil_iff.mpr fun piece member => ?_
  cases piece with
  | error error => exact absurd member (fine error)
  | ok value => rfl

theorem Load.feedErrors_ofList_append (rows : List Row) (feed : Feed Row) :
    feedErrors (rows.map .ok ++ feed) = feedErrors feed := by
  induction rows with
  | nil => rfl
  | cons row rows ih => exact ih

/-- How calls end that are made on what may be faulty in the given ways, in this order. -/
inductive Stopped {α : Type} (faults : List Error) : List (Made EngineCall) → Result α → Prop where
  | done (calls : List EngineCall) {value : α} (fine : faults = []) :
      Stopped faults (succeeded calls) (.ok value)
  | call (before : List EngineCall) {call : EngineCall} {error : Error}
      {closing : List (Made EngineCall)}
      (only : ∀ made ∈ closing, ∃ statement, made.call = .close statement) :
      Stopped faults (succeeded before ++ ⟨call, some error⟩ :: closing) (.error error)
  | input (before : List EngineCall) {error : Error} {closing : List (Made EngineCall)}
      (first : faults.head? = some error)
      (only : ∀ made ∈ closing, ∃ statement, made.call = .close statement) :
      Stopped faults (succeeded before ++ closing) (.error error)

/-- Calls that lead from one state to another, do not commit, and stop at the first failure. -/
def Engine.Conducted {state α : Type} (engine : Engine state) (faults : List Error) (now : state)
    (outcome : Result α) (after : state) : Prop :=
  ∃ calls, engine.Trace now calls after ∧ (∀ made ∈ calls, made.call ≠ .commit) ∧
    Stopped faults calls outcome

namespace Engine

variable {state α β : Type} {engine : Engine state} {faults more : List Error}
  {now middle after : state} {outcome : Result β} {value : α} {error : Error}

theorem Conducted.idle (value : α) (now : state) : engine.Conducted [] now (.ok value) now :=
  ⟨[], .done, List.forall_mem_nil _, .done [] rfl⟩

theorem Conducted.fault (error : Error) (faults : List Error) (now : state) :
    engine.Conducted (error :: faults) now (.error error : Result α) now :=
  ⟨[], .done, List.forall_mem_nil _, .input [] rfl (List.forall_mem_nil _)⟩

private theorem Conducted.failed {call : EngineCall} (ran : engine.Ran now ⟨call, some error⟩ after)
    (other : call ≠ .commit) : engine.Conducted faults now (.error error : Result α) after :=
  ⟨[⟨call, some error⟩], ran.single, List.forall_mem_singleton.mpr other,
    .call [] (List.forall_mem_nil _)⟩

private theorem Conducted.one {call : EngineCall}
    (ran : engine.Ran now ⟨call, reason? outcome⟩ after) (other : call ≠ .commit) :
    engine.Conducted [] now outcome after := by
  cases outcome with
  | error error => exact .failed ran other
  | ok value =>
      exact ⟨[⟨call, none⟩], ran.single, List.forall_mem_singleton.mpr other,
        .done [call] rfl⟩

theorem Conducted.faults_eq_nil (first : engine.Conducted faults now (.ok value) after) :
    faults = [] := by
  obtain ⟨calls, -, -, stopped⟩ := first
  cases stopped with
  | done calls fine => exact fine

theorem Conducted.andThen (first : engine.Conducted faults now (.ok value) middle)
    (next : engine.Conducted more middle outcome after) :
    engine.Conducted (faults ++ more) now outcome after := by
  rw [first.faults_eq_nil, List.nil_append]
  obtain ⟨calls, trace, uncommitted, stopped⟩ := first
  obtain ⟨later, rest, other, ended⟩ := next
  refine ⟨calls ++ later, trace.append rest, List.forall_mem_append.mpr ⟨uncommitted, other⟩, ?_⟩
  cases stopped with
  | done calls _ =>
      cases ended with
      | done later fine =>
          rw [← succeeded_append]
          exact .done _ fine
      | call before only =>
          rw [← List.append_assoc, ← succeeded_append]
          exact .call _ only
      | input before first only =>
          rw [← List.append_assoc, ← succeeded_append]
          exact .input _ first only

/-- What was to come after a failure does not matter. -/
theorem Conducted.stop (failed : engine.Conducted faults now (.error error : Result α) after)
    (more : List Error) : engine.Conducted (faults ++ more) now (.error error : Result β) after := by
  obtain ⟨calls, trace, uncommitted, stopped⟩ := failed
  refine ⟨calls, trace, uncommitted, ?_⟩
  cases stopped with
  | call before only => exact .call before only
  | input before first only =>
      refine .input before ?_ only
      rw [List.head?_append, first, Option.some_or]

theorem Conducted.map (conducted : engine.Conducted faults now outcome after) (f : β → α) :
    engine.Conducted faults now (outcome.map f) after := by
  obtain ⟨calls, trace, uncommitted, stopped⟩ := conducted
  refine ⟨calls, trace, uncommitted, ?_⟩
  cases stopped with
  | done calls fine => exact .done calls fine
  | call before only => exact .call before only
  | input before first only => exact .input before first only

/-- A statement is closed after a failure, which stays the one that is reported. -/
theorem Conducted.close (failed : engine.Conducted faults now (.error error : Result α) middle)
    {statement : Statement} {failure : Option Error}
    (ran : engine.Ran middle ⟨.close statement, failure⟩ after) :
    engine.Conducted faults now (.error error : Result α) after := by
  obtain ⟨calls, trace, uncommitted, stopped⟩ := failed
  have closing : ∀ made ∈ [Made.mk (EngineCall.close statement) failure],
      ∃ statement, made.call = .close statement :=
    List.forall_mem_singleton.mpr ⟨statement, rfl⟩
  refine ⟨calls ++ [⟨.close statement, failure⟩], trace.append ran.single,
    List.forall_mem_append.mpr ⟨uncommitted, List.forall_mem_singleton.mpr nofun⟩, ?_⟩
  cases stopped with
  | call before only =>
      rw [List.append_assoc, List.cons_append]
      exact .call before (List.forall_mem_append.mpr ⟨only, closing⟩)
  | input before first only =>
      rw [List.append_assoc]
      exact .input before first (List.forall_mem_append.mpr ⟨only, closing⟩)

end Engine

/-! ## The parts of a load -/

namespace Load

variable {state : Type} (engine : Engine state) (target : Target)

private theorem conducted_prepare (rows : Nat) (now : state) :
    engine.Conducted [] now (prepare engine target rows now).1
      (prepare engine target rows now).2.engine := by
  have ran : engine.Ran now _ _ := .prepare (target.insertText engine.dialect rows)
  rw [prepare]
  split <;> rename_i called <;> rw [called] at ran <;> exact .one ran (by simp)

private theorem conducted_statementFor (rows : Nat) (progress : Progress state) :
    engine.Conducted [] progress.engine (statementFor engine target rows progress).1
      (statementFor engine target rows progress).2.engine := by
  rw [statementFor]
  split
  · exact conducted_prepare engine target rows progress.engine
  · rename_i statement prepared _
    split
    · exact .idle statement progress.engine
    · have ran : engine.Ran progress.engine _ _ := .close statement
      split
      · rename_i called
        rw [called] at ran
        exact .failed ran (by simp)
      · rename_i after called
        rw [called] at ran
        have closed : engine.Conducted [] progress.engine (.ok ()) after := .one ran (by simp)
        exact closed.andThen (conducted_prepare engine target rows after)

private theorem conducted_insertBatch (batch : Array Row) (progress : Progress state) :
    engine.Conducted [] progress.engine (insertBatch engine target batch progress).1
      (insertBatch engine target batch progress).2.engine := by
  have prepared := conducted_statementFor engine target batch.size progress
  rw [insertBatch]
  split
  · rename_i stopped
    rw [stopped] at prepared
    exact prepared.stop []
  · rename_i statement now ready
    rw [ready] at prepared
    have ran : engine.Ran now.engine _ _ := .run statement batch.toList.flatten
    exact prepared.andThen ((Engine.Conducted.one ran (by simp)).map fun _ => ())

private theorem conducted_insertFrom (feed : Feed Row) (total : Nat) (batch : Array Row)
    (progress : Progress state) :
    engine.Conducted (feedErrors feed) progress.engine
      (insertFrom engine target total batch progress feed).outcome
      (insertFrom engine target total batch progress feed).progress.engine := by
  -- For whatever batch is being filled: its rows were read, so only the feed can be at fault.
  induction feed generalizing total batch progress with
  | nil =>
      have inserted := conducted_insertBatch engine target batch progress
      rw [insertFrom]
      split
      · exact .idle total progress.engine
      · split <;> rename_i called <;> rw [called] at inserted
        · exact inserted.stop []
        · exact inserted.map fun _ => total + batch.size
  | cons piece rest ih =>
      rcases piece with error | _ | ⟨cell, cells⟩
      · exact .fault error (feedErrors rest) progress.engine
      · exact ih total batch progress
      · by_cases whole : (batch.push (Row.fit target.names.length (cell :: cells))).size =
            target.capacity engine.dialect
        · have inserted := conducted_insertBatch engine target
            (batch.push (Row.fit target.names.length (cell :: cells))) progress
          rw [insertFrom_whole whole]
          split <;> rename_i called <;> rw [called] at inserted
          · exact inserted.stop (feedErrors rest)
          · exact inserted.andThen (ih _ _ _)
        · rw [insertFrom_room whole]
          exact ih total _ progress

private theorem conducted_closed {faults : List Error} {now : state} {inserted : Inserted state}
    (conducted : engine.Conducted faults now inserted.outcome inserted.progress.engine) :
    engine.Conducted faults now (closed engine inserted).1 (closed engine inserted).2.2 := by
  rw [closed]
  split
  · exact conducted
  · rename_i prepared _
    have ran : engine.Ran inserted.progress.engine _ _ := .close prepared.statement
    cases outcome : inserted.outcome with
    | error error =>
        rw [outcome] at conducted
        split <;> rename_i called <;> rw [called] at ran <;> exact conducted.close ran
    | ok count =>
        rw [outcome] at conducted
        split <;> rename_i called <;> rw [called] at ran
        · have closing : engine.Conducted [] inserted.progress.engine (.ok ()) _ := .one ran (by simp)
          have whole := conducted.andThen (closing.map fun _ => count)
          rwa [List.append_nil] at whole
        · have unclosed : engine.Conducted [] inserted.progress.engine (.error _ : Result Nat) _ :=
            .failed ran (by simp)
          have whole := conducted.andThen unclosed
          rwa [List.append_nil] at whole

variable {engine}

private theorem conducted_copy (streams : engine.Streams) (feed : Feed Row) (now : state) :
    engine.Conducted (feedErrors feed) now (copy engine target feed now).1
      (copy engine target feed now).2.2 := by
  let source : CopySource := { width := target.names.length, unread := feed }
  have ran : engine.Ran now _ _ := .copy target.table target.names source
  rw [copy]
  cases copied : (engine.copy target.table target.names source now).1 with
  | error error =>
      rw [copied] at ran
      simp only [source] at copied
      simp only [copied]
      exact .failed ran (by simp)
  | ok count =>
      have fine := feedErrors_eq_nil (streams _ _ _ _ _ copied)
      rw [copied] at ran
      simp only [source] at copied fine
      rw [fine]
      simp only [copied]
      exact .one ran (by simp)

private theorem conducted_fill (streams : engine.Streams) (feed : Feed Row) (now : state) :
    engine.Conducted (feedErrors feed) now (fill engine target feed now).1
      (fill engine target feed now).2.2 := by
  rw [fill]
  split
  · exact conducted_copy target streams feed now
  · exact conducted_closed engine (conducted_insertFrom engine target feed 0 #[] { engine := now })

private theorem conducted_create (now : state) :
    engine.Conducted target.fault?.toList now (create engine target now).1
      (create engine target now).2 := by
  rw [create]
  split <;> rename_i found <;> rw [found]
  · exact .fault _ [] now
  · have ran : engine.Ran now _ _ := .execute (target.createText engine.dialect)
    exact (Engine.Conducted.one ran (by simp)).map fun _ => ()

private theorem conducted_table (streams : engine.Streams) (source : Source) (now : state) :
    engine.Conducted (target.fault?.toList ++ feedErrors source.takeAhead.2.live) now
      (table engine target source now).1 (table engine target source now).2.2 := by
  have created : engine.Conducted _ now _ _ := conducted_create target now
  rw [table]
  split <;> rename_i called <;> rw [called] at created
  · exact created.stop _
  · have filled := conducted_fill target streams
      (source.takeAhead.1.map .ok ++ source.takeAhead.2.live)
    rw [feedErrors_ofList_append] at filled
    exact created.andThen (filled _)

end Load

/-- What can keep a source from being loaded, in the order in which it is met. -/
def Source.faults (table : String) (temporary : Bool) (source : Source) : List Error :=
  match source.schema with
  | .error error => [error]
  | .ok schema =>
    (Target.fault? ⟨table, schema.names, schema.types, temporary⟩).toList ++
      Load.feedErrors source.takeAhead.2.live

theorem Load.conducted_source {state : Type} {engine : Engine state} (streams : engine.Streams)
    (table : String) (temporary : Bool) (source : Source) (now : state) :
    engine.Conducted (source.faults table temporary) now
      (Load.source engine table temporary source now).1
      (Load.source engine table temporary source now).2.2 := by
  cases described : source.schema with
  | error error =>
      simp only [Load.source, Source.faults, described]
      exact .fault error [] now
  | ok schema =>
      simp only [Load.source, Source.faults, described]
      exact conducted_table _ streams source now

end Tabular
