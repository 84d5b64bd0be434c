import Tabular.Engine.CopyIn
import Tabular.Engine.Recorder
import Tabular.Proofs.Engine.Chunks
import Tabular.Proofs.Engine.Watched

/-!
# Rows that are streamed to their end

A copy pulls its rows one chunk at a time and does not succeed unless all of them were read.
-/

set_option autoImplicit false

namespace Tabular

theorem Recorder.streams_engine (dialect : Dialect) : (Recorder.engine dialect).Streams := by
  intro table columns source recorder count copied error
  have pulled : (Recorder.copy table columns source recorder).1 = .ok count := copied
  rw [Recorder.copy] at pulled
  split at pulled
  · cases pulled
  · dsimp only at pulled
    split at pulled
    · cases pulled
    · rename_i answer now _ outcome failure after _ reported
      cases failed : source.pull.2.1 with
      | none => exact CopySource.not_mem_of_pull source failed
      | some error =>
          subst pulled
          exact (reported _ _ failed rfl).elim

namespace CopyPort

variable {state : Type} (port : CopyPort state)

theorem not_mem_of_sendAll {source : CopySource} {now : state} {count : Nat} {error : Error}
    (sent : (port.sendAll source now).1 = .ok count) : .error error ∉ source.unread := by
  fun_induction sendAll port source now with
  | case1 => cases sent
  | case2 source now after ended =>
      intro member
      have left := CopySource.mem_of_next ended member
      rw [(CopySource.next_of_none ended).1] at left
      cases left
  | case3 => cases sent
  | case4 source now chunk after read later taken ih =>
      intro member
      exact ih sent (CopySource.mem_of_next read member)

theorem streams {engine : Engine state} (copies : engine.copy = port.copy engine.dialect) :
    engine.Streams := by
  intro table columns source now count copied error
  rw [copies, copy] at copied
  split at copied
  · cases copied
  · exact port.not_mem_of_sendAll copied

end CopyPort

end Tabular
