import Tabular.Engine.Storage

/-!
# Watched engines

An engine that keeps a list of the calls made to it, each with how it failed if it did. A trace is
such a list together with what the calls make of the state, and a storage rolls back if what it keeps
is changed by no call but the one to commit.
-/

set_option autoImplicit false

namespace Tabular

def reason? {α : Type} : Result α → Option Error
  | .ok _ => none
  | .error error => some error

theorem reason?_map {α β : Type} (f : α → β) (outcome : Result α) :
    reason? (outcome.map f) = reason? outcome := by
  cases outcome with
  | error failure => rfl
  | ok value => rfl

/-- A call that was made, and how it failed if it did. -/
structure Made (call : Type) where
  call : call
  failure : Option Error
deriving DecidableEq, Repr

def succeeded {call : Type} (calls : List call) : List (Made call) :=
  calls.map fun call => ⟨call, none⟩

theorem succeeded_append {call : Type} (calls more : List call) :
    succeeded (calls ++ more) = succeeded calls ++ succeeded more :=
  List.map_append

theorem map_call_succeeded {call : Type} (calls : List call) :
    (succeeded calls).map Made.call = calls := by
  rw [succeeded, List.map_map]
  exact List.map_id calls

/-- A state with the calls that led to it. -/
abbrev Watched (call state : Type) := state × List (Made call)

def watch {call state α : Type} (called : call) (act : Call state α) :
    Call (Watched call state) α := fun (now, log) =>
  let (outcome, after) := act now
  (outcome, after, log ++ [⟨called, reason? outcome⟩])

inductive EngineCall where
  | execute (sql : String)
  | prepare (sql : String)
  | run (statement : Statement) (params : List Cell)
  | close (statement : Statement)
  | copy (table : String) (columns : List String)
  | describe (sql : String)
  | query (sql : String)
  | commit
deriving DecidableEq, Repr

namespace Engine

variable {state : Type}

def watched (engine : Engine state) : Engine (Watched EngineCall state) where
  dialect := engine.dialect
  execute := fun sql => watch (.execute sql) (engine.execute sql)
  prepare := fun sql => watch (.prepare sql) (engine.prepare sql)
  run := fun statement params => watch (.run statement params) (engine.run statement params)
  close := fun statement => watch (.close statement) (engine.close statement)
  copy := fun table columns source (now, log) =>
    let (outcome, source, after) := engine.copy table columns source now
    (outcome, source, after, log ++ [⟨.copy table columns, reason? outcome⟩])
  describe := fun sql => watch (.describe sql) (engine.describe sql)
  query := fun sql => watch (.query sql) (engine.query sql)
  commit := watch .commit engine.commit

/-- One call of an engine: how it fails if it does, and the state after it. -/
inductive Ran (engine : Engine state) (now : state) : Made EngineCall → state → Prop where
  | execute (sql : String) : Ran engine now ⟨.execute sql, reason? (engine.execute sql now).1⟩
      (engine.execute sql now).2
  | prepare (sql : String) : Ran engine now ⟨.prepare sql, reason? (engine.prepare sql now).1⟩
      (engine.prepare sql now).2
  | run (statement : Statement) (params : List Cell) :
      Ran engine now ⟨.run statement params, reason? (engine.run statement params now).1⟩
        (engine.run statement params now).2
  | close (statement : Statement) :
      Ran engine now ⟨.close statement, reason? (engine.close statement now).1⟩
        (engine.close statement now).2
  | copy (table : String) (columns : List String) (source : CopySource) :
      Ran engine now ⟨.copy table columns, reason? (engine.copy table columns source now).1⟩
        (engine.copy table columns source now).2.2
  | describe (sql : String) : Ran engine now ⟨.describe sql, reason? (engine.describe sql now).1⟩
      (engine.describe sql now).2
  | query (sql : String) : Ran engine now ⟨.query sql, reason? (engine.query sql now).1⟩
      (engine.query sql now).2
  | commit : Ran engine now ⟨.commit, reason? (engine.commit now).1⟩ (engine.commit now).2

/-- Calls of an engine one after the other, from one state to another. -/
inductive Trace (engine : Engine state) : state → List (Made EngineCall) → state → Prop where
  | done {now : state} : Trace engine now [] now
  | step {now middle after : state} {made : Made EngineCall} {calls : List (Made EngineCall)}
      (one : Ran engine now made middle) (rest : Trace engine middle calls after) :
      Trace engine now (made :: calls) after

variable {engine : Engine state} {now middle after : state} {log calls more : List (Made EngineCall)}
  {made : Made EngineCall}

theorem Ran.single (ran : engine.Ran now made after) : engine.Trace now [made] after :=
  .step ran .done

theorem Trace.append (first : engine.Trace now calls middle)
    (second : engine.Trace middle more after) : engine.Trace now (calls ++ more) after := by
  induction first with
  | done => exact second
  | step one rest ih => exact .step one (ih second)

private theorem Ran.of_watched {later : Watched EngineCall state}
    (ran : engine.watched.Ran (now, log) made later) :
    ∃ after, later = (after, log ++ [made]) ∧ engine.Ran now made after := by
  cases ran with
  | execute sql => exact ⟨_, rfl, .execute sql⟩
  | prepare sql => exact ⟨_, rfl, .prepare sql⟩
  | run statement params => exact ⟨_, rfl, .run statement params⟩
  | close statement => exact ⟨_, rfl, .close statement⟩
  | copy table columns source => exact ⟨_, rfl, .copy table columns source⟩
  | describe sql => exact ⟨_, rfl, .describe sql⟩
  | query sql => exact ⟨_, rfl, .query sql⟩
  | commit => exact ⟨_, rfl, .commit⟩

/-- The calls of a trace are what is added to the list of a watched engine. -/
theorem Trace.of_watched {later : Watched EngineCall state}
    (trace : engine.watched.Trace (now, log) calls later) :
    ∃ after, later = (after, log ++ calls) ∧ engine.Trace now calls after := by
  generalize start : (now, log) = earlier at trace
  induction trace generalizing now log with
  | done => exact ⟨now, by rw [← start, List.append_nil], .done⟩
  | step one rest ih =>
      subst start
      obtain ⟨middle, rfl, ran⟩ := one.of_watched
      obtain ⟨after, same, trace⟩ := ih rfl
      exact ⟨after, by rw [same, List.append_assoc]; rfl, .step ran trace⟩

/-- A copy whose rows are not all there to be read does not succeed. -/
def Streams (engine : Engine state) : Prop :=
  ∀ (table : String) (columns : List String) (source : CopySource) (now : state) (count : Nat),
    (engine.copy table columns source now).1 = .ok count →
    ∀ error, .error error ∉ source.unread

theorem Streams.watched (streams : engine.Streams) : engine.watched.Streams :=
  fun table columns source (now, _) count copied => streams table columns source now count copied

end Engine

namespace Storage

variable {content state : Type} {storage : Storage content state}

/-- What is left to other connections is what was there when the connection was made, whatever calls
are made and however they end, until one is made to commit. -/
structure RollsBack (storage : Storage content state) : Prop where
  connect : ∀ {before : content} {now : state}, storage.connect before = .ok now →
    storage.left now = before
  call : ∀ {now after : state} {made : Made EngineCall}, storage.engine.Ran now made after →
    made.call ≠ .commit → storage.left after = storage.left now

theorem RollsBack.trace (rollsBack : storage.RollsBack) {now after : state}
    {calls : List (Made EngineCall)} (trace : storage.engine.Trace now calls after)
    (uncommitted : ∀ made ∈ calls, made.call ≠ .commit) :
    storage.left after = storage.left now := by
  induction trace with
  | done => rfl
  | step one rest ih =>
      obtain ⟨first, others⟩ := List.forall_mem_cons.mp uncommitted
      exact (ih others).trans (rollsBack.call one first)

/-- A storage whose calls can be seen beside what it keeps. -/
def watched (storage : Storage content state) :
    Storage (Watched EngineCall content) (Watched EngineCall state) where
  engine := storage.engine.watched
  connect := fun (before, log) => (storage.connect before).map fun now => (now, log)
  left := fun (now, log) => (storage.left now, log)

end Storage

end Tabular
