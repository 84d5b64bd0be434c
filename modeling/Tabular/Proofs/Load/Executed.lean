import Tabular.Engine.Load
import Tabular.Proofs.Engine.Recorder

/-!
# Statements that a load executes

A load executes one statement, which makes the table. Everything else it does is to prepare, run and
close statements or to stream rows, and leaves the executed statements as they are.
-/

set_option autoImplicit false

namespace Tabular

namespace Recorder

/-- The statement that a call executes. -/
def executedBy? : CallRecord → Option String
  | .execute sql => some sql
  | _ => none

/-- The statements executed so far, in order. -/
def executed (recorder : Recorder) : List String :=
  recorder.log.filterMap executedBy?

private theorem executed_record {α : Type} (call : CallRecord) (answer : α) (recorder : Recorder) :
    (record call answer recorder).2.executed =
      recorder.executed ++ (executedBy? call).toList := by
  rw [record_eq, executed, log_push, List.filterMap_append, ← executed]
  cases found : executedBy? call with
  | none => rw [List.filterMap_cons_none found]; rfl
  | some sql => rw [List.filterMap_cons_some found]; rfl

private theorem executed_record_of_none {α : Type} {call : CallRecord}
    (none : executedBy? call = none) (answer : α) (recorder : Recorder) :
    (record call answer recorder).2.executed = recorder.executed := by
  rw [executed_record, none]
  exact List.append_nil _

private theorem executed_copy (table : String) (columns : List String) (source : CopySource)
    (recorder : Recorder) :
    (Recorder.copy table columns source recorder).2.2.executed = recorder.executed := by
  have started := executed_record_of_none (rfl : executedBy? (.copy table columns) = none) 0
    recorder
  rw [Recorder.copy]
  split
  · rename_i begun
    rw [begun] at started
    exact started
  · rename_i answer now begun
    rw [begun] at started
    have streamed := executed_record_of_none (rfl : executedBy? (.copied source.pull.1) = none)
      answer now
    dsimp only
    split
    · rename_i done _
      rw [done] at streamed
      exact streamed.trans started
    · rename_i done _
      rw [done] at streamed
      exact streamed.trans started

end Recorder

namespace Load

variable (dialect : Dialect) (target : Target)

private theorem executed_prepare (rows : Nat) (now : Recorder) :
    (prepare (Recorder.engine dialect) target rows now).2.engine.executed = now.executed := by
  have recorded :
      ((Recorder.engine dialect).prepare (target.insertText dialect rows) now).2.executed =
      now.executed := Recorder.executed_record_of_none rfl _ now
  rw [← recorded, prepare]
  split <;> rename_i called <;> exact congrArg (fun call => call.2.executed) called.symm

private theorem executed_close (statement : Statement) (now : Recorder) :
    ((Recorder.engine dialect).close statement now).2.executed = now.executed :=
  Recorder.executed_record_of_none rfl () now

private theorem executed_run (statement : Statement) (params : List Cell) (now : Recorder) :
    ((Recorder.engine dialect).run statement params now).2.executed = now.executed :=
  Recorder.executed_record_of_none rfl 1 now

private theorem executed_statementFor (rows : Nat) (progress : Progress Recorder) :
    (statementFor (Recorder.engine dialect) target rows progress).2.engine.executed =
      progress.engine.executed := by
  rw [statementFor]
  split
  · exact executed_prepare dialect target rows progress.engine
  · rename_i statement prepared _
    split
    · rfl
    · have closed := executed_close dialect statement progress.engine
      split
      · rename_i called
        rwa [called] at closed
      · rename_i after called
        rw [called] at closed
        exact (executed_prepare dialect target rows after).trans closed

private theorem executed_insertBatch (batch : Array Row) (progress : Progress Recorder) :
    (insertBatch (Recorder.engine dialect) target batch progress).2.engine.executed =
      progress.engine.executed := by
  have prepared := executed_statementFor dialect target batch.size progress
  rw [insertBatch]
  split
  · rename_i stopped
    rwa [stopped] at prepared
  · rename_i statement now ready
    rw [ready] at prepared
    exact (executed_run dialect statement batch.toList.flatten now.engine).trans prepared

private theorem executed_insertFrom (feed : Feed Row) (total : Nat) (batch : Array Row)
    (progress : Progress Recorder) :
    (insertFrom (Recorder.engine dialect) target total batch progress
      feed).progress.engine.executed = progress.engine.executed := by
  induction feed generalizing total batch progress with
  | nil =>
      have inserted := executed_insertBatch dialect target batch progress
      rw [insertFrom]
      split
      · rfl
      · split <;> rename_i called <;> rwa [called] at inserted
  | cons piece rest ih =>
      rcases piece with error | _ | ⟨cell, cells⟩
      · rfl
      · exact ih total batch progress
      · by_cases whole : (batch.push (Row.fit target.names.length (cell :: cells))).size =
            target.capacity dialect
        · have inserted := executed_insertBatch dialect target
            (batch.push (Row.fit target.names.length (cell :: cells))) progress
          rw [insertFrom_whole whole]
          split
          · rename_i called
            rwa [called] at inserted
          · rename_i now called
            rw [called] at inserted
            exact (ih _ _ now).trans inserted
        · rw [insertFrom_room whole]
          exact ih total _ progress

private theorem executed_closed (inserted : Inserted Recorder) :
    (closed (Recorder.engine dialect) inserted).2.2.executed =
      inserted.progress.engine.executed := by
  rw [closed]
  split
  · rfl
  · rename_i prepared _
    have recorded := executed_close dialect prepared.statement inserted.progress.engine
    split <;> rename_i called <;> rwa [called] at recorded

private theorem executed_fill (feed : Feed Row) (now : Recorder) :
    (fill (Recorder.engine dialect) target feed now).2.2.executed = now.executed := by
  rw [fill]
  split
  · exact Recorder.executed_copy target.table target.names _ now
  · rw [insert, executed_closed, executed_insertFrom]

private theorem executed_create {now : Recorder}
    (created : (create (Recorder.engine dialect) target now).1 = .ok ()) :
    (create (Recorder.engine dialect) target now).2.executed =
      now.executed ++ [target.createText dialect] := by
  have recorded := Recorder.executed_record (.execute (target.createText dialect)) 0 now
  rw [create] at created ⊢
  split at created
  · cases created
  · exact recorded

/-- A load that succeeds executes the statement that makes its table, and no other. -/
theorem executed_table {source : Source} {now : Recorder} {count : Nat}
    (loaded : (table (Recorder.engine dialect) target source now).1 = .ok count) :
    (table (Recorder.engine dialect) target source now).2.2.executed =
      now.executed ++ [target.createText dialect] := by
  have made := @executed_create dialect target now
  rw [table] at loaded ⊢
  split at loaded
  · cases loaded
  · rename_i after created
    rw [created] at made
    exact (executed_fill dialect target _ after).trans (made rfl)

theorem executed_source {name : String} {temporary : Bool} {source : Source} {now : Recorder}
    {count : Nat}
    (loaded : (Load.source (Recorder.engine dialect) name temporary source now).1 = .ok count) :
    ∃ target : Target, target.table = name ∧
      (Load.source (Recorder.engine dialect) name temporary source now).2.2.executed =
        now.executed ++ [target.createText dialect] := by
  rw [Load.source] at loaded ⊢
  cases described : source.schema with
  | error error =>
      rw [described] at loaded
      cases loaded
  | ok schema =>
      rw [described] at loaded
      exact ⟨_, rfl, executed_table dialect _ loaded⟩

end Load

end Tabular
