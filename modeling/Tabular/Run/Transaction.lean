import Tabular.Engine.Storage
import Tabular.Run.Answer

/-!
# Runs in a transaction

A run connects to a database, gathers the tables of a query, answers it and makes the changes last.
Nothing is made to last unless every step before succeeds.
-/

set_option autoImplicit false

namespace Tabular.Run

structure Ended (content world receiver : Type) where
  outcome : Result Unit
  content : content
  around : world
  output : receiver

/-- Run a query. Its tables are gathered in some way that rewrites the query and may change its
surroundings. -/
def transaction {content state world receiver : Type} (storage : Storage content state)
    (gather : String → Call (world × state) String) (writer : Writer receiver) (sql : String)
    (before : content) (around : world) (output : receiver) : Ended content world receiver :=
  match storage.connect before with
  | .error error => ⟨.error error, before, around, output⟩
  | .ok now =>
    match gather sql (around, now) with
    | (.error error, around, now) => ⟨.error error, storage.left now, around, output⟩
    | (.ok rewritten, around, now) =>
      match answer storage.engine writer rewritten now output with
      | (.error error, now, output) => ⟨.error error, storage.left now, around, output⟩
      | (.ok (), now, output) =>
        let (outcome, now) := storage.engine.commit now
        ⟨outcome, storage.left now, around, output⟩

end Tabular.Run
