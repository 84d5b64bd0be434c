import Tabular.Engine

/-!
# A recording engine

An engine that keeps a record of its calls and does no work. It can be told which calls are to fail,
and what to answer to queries.
-/

set_option autoImplicit false

namespace Tabular

/-- The kinds of calls that can be told to fail. Streaming rows fails before or after they have been
pulled. -/
inductive CallKind where
  | execute
  | prepare
  | run
  | close
  | copy
  | copied
  | describe
  | query
  | commit
deriving DecidableEq, Repr, Inhabited

inductive CallRecord where
  | execute (sql : String)
  | prepare (sql : String) (id : Nat)
  | run (id : Nat) (params : List Cell)
  | close (id : Nat)
  | copy (table : String) (columns : List String)
  | copied (chunks : List (List UInt8))
  | describe (sql : String)
  | query (sql : String)
  | commit
deriving DecidableEq, Repr, Inhabited

namespace CallRecord

def kind : CallRecord → CallKind
  | execute _ => .execute
  | prepare _ _ => .prepare
  | run _ _ => .run
  | close _ => .close
  | copy _ _ => .copy
  | copied _ => .copied
  | describe _ => .describe
  | query _ => .query
  | commit => .commit

end CallRecord

structure Recorder where
  /-- The calls so far, the last one first. -/
  calls : List CallRecord := []
  /-- How a call of a kind fails that has the given number among the calls of its kind, from one. -/
  fault : CallKind → Nat → Option Error := fun _ _ => none
  /-- The columns of the answers to queries, with their types. -/
  columns : List (String × String) := []
  rows : Feed Row := []

namespace Recorder

def count (recorder : Recorder) (kind : CallKind) : Nat :=
  recorder.calls.countP fun call => call.kind = kind

def record {α : Type} (call : CallRecord) (answer : α) : Call Recorder α := fun recorder =>
  let recorder := { recorder with calls := call :: recorder.calls }
  match recorder.fault call.kind (recorder.count call.kind) with
  | some error => (.error error, recorder)
  | none => (.ok answer, recorder)

/-- Record a statement that is prepared. Statements are numbered from one. -/
def prepare (sql : String) : Call Recorder Statement := fun recorder =>
  let id := recorder.count .prepare + 1
  record (.prepare sql id) ⟨id, sql⟩ recorder

/-- Record a stream of rows, which is pulled to its end or to a failure. -/
def copy (table : String) (columns : List String) (source : CopySource) (recorder : Recorder) :
    Result Nat × CopySource × Recorder :=
  match record (.copy table columns) 0 recorder with
  | (.error error, recorder) => (.error error, source, recorder)
  | (.ok answer, recorder) =>
    let (chunks, failure, source) := source.pull
    match record (.copied chunks) answer recorder, failure with
    | (.ok _, recorder), some error => (.error error, source, recorder)
    | (outcome, recorder), _ => (outcome, source, recorder)

def engine (dialect : Dialect) : Engine Recorder where
  dialect := dialect
  execute := fun sql => record (.execute sql) 0
  prepare := prepare
  run := fun statement params => record (.run statement.id params) 1
  close := fun statement => record (.close statement.id) ()
  copy := copy
  describe := fun sql recorder => record (.describe sql) recorder.columns recorder
  query := fun sql recorder =>
    record (.query sql)
      { columns := recorder.columns.map (·.1)
        types := recorder.columns.map (·.2)
        rows := recorder.rows } recorder
  commit := record .commit ()

end Recorder

end Tabular
