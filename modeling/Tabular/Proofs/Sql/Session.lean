import Tabular.Proofs.Engine.Watched
import Tabular.Sql.Location

/-!
# Sessions that are not committed

A session works on tables of its own. What is stored for other connections is changed by no statement,
and by no call but the one to commit.
-/

set_option autoImplicit false

namespace Tabular.Sql

namespace Session

variable {session after : Session} {params : Tuple} {name : TableName}

private theorem stored_withTables (session : Session) (schema : Schema) (tables : List Table) :
    (session.withTables schema tables).stored = session.stored := by
  cases schema with
  | main => rfl
  | temporary => rfl

private theorem stored_create? {temporary : Bool} {columns : List (String × Option String)}
    (made : session.create? temporary name columns = some after) :
    after.stored = session.stored := by
  have placed : ∀ {schema : Schema} {refused : List Table → Bool} {grown : List Table → List Table},
      ((session.tables? schema).bind fun tables =>
        if refused tables then none else some (session.withTables schema (grown tables))) =
          some after → after.stored = session.stored := by
    intro schema refused grown made
    obtain ⟨tables, -, made⟩ := Option.bind_eq_some_iff.mp made
    split at made
    · cases made
    · cases made
      exact stored_withTables session schema _
  unfold create? at made
  dsimp only at made
  split at made
  · exact placed made
  · exact placed made
  · exact placed made
  · exact placed made
  · cases made

private theorem stored_insert? {columns : Option (List String)} {rows : List (List NamedExpr)}
    (made : session.insert? params name columns rows = some after) :
    after.stored = session.stored := by
  obtain ⟨⟨schema, table⟩, -, made⟩ := Option.bind_eq_some_iff.mp made
  obtain ⟨tables, -, made⟩ := Option.bind_eq_some_iff.mp made
  dsimp only at made
  split at made
  all_goals
    obtain ⟨positions, -, made⟩ := Option.bind_eq_some_iff.mp made
    obtain ⟨tuples, -, made⟩ := Option.bind_eq_some_iff.mp made
    cases made
    exact stored_withTables session schema _

private theorem stored_delete? {condition : Option NamedExpr}
    (made : session.delete? params name condition = some after) :
    after.stored = session.stored := by
  obtain ⟨⟨schema, table⟩, -, made⟩ := Option.bind_eq_some_iff.mp made
  obtain ⟨tables, -, made⟩ := Option.bind_eq_some_iff.mp made
  obtain ⟨condition, -, made⟩ := Option.bind_eq_some_iff.mp made
  cases made
  exact stored_withTables session schema _

private theorem stored_step? {command : Command} {answer : Relation}
    (made : session.step? params command = some (answer, after)) :
    after.stored = session.stored := by
  cases command with
  | select query =>
      obtain ⟨relation, -, same⟩ := Option.map_eq_some_iff.mp made
      cases same
      rfl
  | create temporary name columns =>
      obtain ⟨later, made, same⟩ := Option.map_eq_some_iff.mp made
      cases same
      exact stored_create? made
  | insert name columns rows =>
      obtain ⟨later, made, same⟩ := Option.map_eq_some_iff.mp made
      cases same
      exact stored_insert? made
  | delete name condition =>
      obtain ⟨later, made, same⟩ := Option.map_eq_some_iff.mp made
      cases same
      exact stored_delete? made

private theorem stored_runAll (params : Tuple) (session : Session) (commands : List Command) :
    (runAll params session commands).2.stored = session.stored := by
  induction commands generalizing session with
  | nil => rfl
  | cons command rest ih =>
      rw [runAll]
      cases made : session.step? params command with
      | none => rfl
      | some step =>
          obtain ⟨answer, later⟩ := step
          exact (ih later).trans (stored_step? made)

private theorem stored_execute (params : List Cell) (sql : String) (session : Session) :
    (execute params sql session).2.stored = session.stored := by
  rw [execute]
  cases Parser.commands? sql with
  | none => rfl
  | some commands =>
      have kept := stored_runAll (params.map Value.ofCell).toArray session commands
      revert kept
      dsimp only
      rcases runAll (params.map Value.ofCell).toArray session commands with ⟨_ | _, later⟩
      · exact id
      · exact id

private theorem describe_eq (sql : String) (session : Session) :
    describe sql session = ((describe sql session).1, session) := by
  rw [describe]
  split <;> rfl

private theorem stored_prepare (sql : String) (session : Session) :
    (prepare sql session).2.stored = session.stored := by
  rw [prepare, describe_eq]
  cases (describe sql session).1 with
  | error failure => rfl
  | ok columns => rfl

private theorem stored_query (sql : String) (session : Session) :
    (query sql session).2.stored = session.stored := by
  rw [query, describe_eq]
  cases (describe sql session).1 with
  | error failure => rfl
  | ok columns =>
      have kept := stored_runAll #[] session ((Parser.commands? sql).getD [])
      revert kept
      dsimp only
      rcases runAll #[] session ((Parser.commands? sql).getD []) with ⟨_ | _, later⟩
      · exact id
      · exact id

theorem streams_engine (dialect : Dialect) : (engine dialect).Streams := by
  intro table columns source session count copied
  cases copied

end Session

private theorem Session.stored_connect (location : Location) (content : Content) :
    (Session.connect location content).stored = content := by
  cases location with
  | memory => rfl
  | file path create =>
      cases content with
      | tables tables => rfl
      | foreign => rfl

theorem Reached.rollsBack_storage (reached : Reached) (dialect : Dialect) :
    (reached.storage dialect).RollsBack where
  connect := by
    intro before now connected
    rw [storage] at connected
    dsimp only at connected
    split at connected
    · cases connected
      exact Session.stored_connect _ before
    · cases connected
  call := by
    intro now after made ran uncommitted
    cases ran with
    | execute sql => exact Session.stored_execute [] sql now
    | prepare sql => exact Session.stored_prepare sql now
    | run statement params => exact Session.stored_execute params statement.sql now
    | close statement => rfl
    | copy table columns source => rfl
    | describe sql =>
        exact congrArg (fun described => described.2.stored) (Session.describe_eq sql now)
    | query sql => exact Session.stored_query sql now
    | commit => exact absurd rfl uncommitted

end Tabular.Sql
