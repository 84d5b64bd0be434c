import Tabular.Proofs.Load.Calls
import Tabular.Run.Gather

/-!
# Importers

What brings the tables of a query into an engine does so by calls of the engine, and cannot commit.
The files of a query and a table that is provided are brought in call by call up to the first
failure, of a call or of what is read.
-/

set_option autoImplicit false

namespace Tabular.Run

variable {state : Type}

/-- The way an importer uses an engine: it makes calls other than to commit, and something is known
of these calls and of its outcome. -/
def Conducts {world : Type} (engine : Engine state) (importer : String → Call (world × state) String)
    (known : String → world → List (Made EngineCall) → Result String → Prop) : Prop :=
  ∀ sql around now, ∃ calls, engine.Trace now calls (importer sql (around, now)).2.2 ∧
    (∀ made ∈ calls, made.call ≠ .commit) ∧ known sql around calls (importer sql (around, now)).1

/-- What can keep a reference from being loaded, and the surroundings after it was resolved. -/
def referenceFaults (dialect : Dialect) (options : ReadOptions) (reference : String)
    (around : Surroundings) : List Error × Surroundings :=
  match Reference.resolve reference around with
  | (.error error, around) => ([error], around)
  | (.ok none, around) => ([], around)
  | (.ok (some opened), around) =>
    match Source.read (optionsFor options opened) opened.input with
    | .error error => ([error], around)
    | .ok source =>
      (source.faults (dialect.quoteIdent (tableName opened)) options.temporary, around)

/-- What can keep references from being loaded one after the other. -/
def gatherFaults (dialect : Dialect) (options : ReadOptions) :
    List String → Surroundings → List Error
  | [], _ => []
  | reference :: rest, around =>
    let (faults, around) := referenceFaults dialect options reference around
    faults ++ gatherFaults dialect options rest around

variable {engine : Engine state} (streams : engine.Streams) (options : ReadOptions)

include streams

private theorem conducted_gatherOne (reference : String) (around : Surroundings) (now : state) :
    engine.Conducted (referenceFaults engine.dialect options reference around).1 now
        (gatherOne engine options reference (around, now)).1
        (gatherOne engine options reference (around, now)).2.2 ∧
      (gatherOne engine options reference (around, now)).2.1 =
        (referenceFaults engine.dialect options reference around).2 := by
  rw [gatherOne, referenceFaults]
  rcases Reference.resolve reference around with ⟨error | _ | opened, around⟩
  · exact ⟨.fault error [] now, rfl⟩
  · exact ⟨.idle none now, rfl⟩
  · cases read : Source.read (optionsFor options opened) opened.input with
    | error error =>
        simp only [read, and_true]
        exact .fault error [] now
    | ok source =>
        simp only [read, and_true]
        exact (Load.conducted_source streams _ options.temporary source now).map _

private theorem conducted_gatherAll (references : List String) (sql : String)
    (rewriter : Query.Rewriter) (around : Surroundings) (now : state) :
    engine.Conducted (gatherFaults engine.dialect options references around) now
      (gatherAll engine options sql rewriter references (around, now)).1
      (gatherAll engine options sql rewriter references (around, now)).2.2 := by
  induction references generalizing sql rewriter around now with
  | nil => exact .idle sql now
  | cons reference rest ih =>
      obtain ⟨first, same⟩ := conducted_gatherOne streams options reference around now
      rw [gatherAll, gatherFaults]
      rcases called : gatherOne engine options reference (around, now) with
        ⟨error | _ | table, around, now⟩ <;> rw [called] at first same
      · exact first.stop _
      · exact first.andThen (same ▸ ih _ _ _ _)
      · exact first.andThen (same ▸ ih _ _ _ _)

theorem conducts_gather :
    Conducts engine (gather engine options) fun sql around =>
      Stopped (gatherFaults engine.dialect options (Query.tableRefs sql) around) :=
  fun sql around now => conducted_gatherAll streams options (Query.tableRefs sql) sql {} around now

theorem conducts_provide :
    Conducts engine (provide engine) fun _ provided =>
      Stopped (provided.source.faults (engine.dialect.quoteIdent provided.name)
        provided.temporary) :=
  fun sql provided now =>
    (Load.conducted_source streams _ provided.temporary provided.source now).map fun _ => sql

end Tabular.Run
