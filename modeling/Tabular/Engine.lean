import Tabular.Engine.CopyText
import Tabular.Engine.Dialect
import Tabular.Source

/-!
# Engines

What a query needs of a database engine. An engine is given by its calls, which may fail and which
change the state of the engine in either case. Rows that are streamed to an engine are pulled by it
one chunk at a time.
-/

set_option autoImplicit false

namespace Tabular

structure Statement where
  id : Nat
  sql : String
deriving DecidableEq, Repr, Inhabited

structure ResultSet where
  columns : List String
  types : List String
  rows : Feed Row
deriving Inhabited

def chunkSize : Nat := 64 * 1024

structure CopySource where
  width : Nat
  /-- The rows not read so far. -/
  unread : Feed Row
  loaded : Nat := 0
deriving Inhabited

namespace CopySource

/-- The copy text of rows up to the end of the feed, its failure, or the size of a chunk, when
`size` bytes are in the chunk; and the rows that remain. Rows without cells are passed over. -/
def fill (width size : Nat) : Feed Row → Result (List (List UInt8)) × Feed Row
  | [] => (.ok [], [])
  | piece :: rest =>
    if chunkSize ≤ size then (.ok [], piece :: rest)
    else
      match piece with
      | .error error => (.error error, rest)
      | .ok [] => fill width size rest
      | .ok (first :: others) =>
        let text := CopyText.row width (first :: others)
        let (filled, unread) := fill width (size + text.length) rest
        (filled.map (text :: ·), unread)

/-- The next chunk; none when all rows have been read. -/
def next (source : CopySource) : Result (Option (List UInt8)) × CopySource :=
  match fill source.width 0 source.unread with
  | (.error error, unread) => (.error error, { source with unread := unread })
  | (.ok [], unread) => (.ok none, { source with unread := unread })
  | (.ok (first :: others), unread) =>
    (.ok (some (first :: others).flatten),
      { source with unread := unread, loaded := source.loaded + others.length + 1 })

theorem length_fill_le (width size : Nat) (feed : Feed Row) :
    (fill width size feed).2.length ≤ feed.length := by
  fun_induction fill width size feed <;> simp_all <;> omega

theorem length_fill_lt {width size : Nat} {feed unread : Feed Row} {first : List UInt8}
    {others : List (List UInt8)} (filled : fill width size feed = (.ok (first :: others), unread)) :
    unread.length < feed.length := by
  fun_induction fill width size feed with
  | case1 => simp at filled
  | case2 => simp at filled
  | case3 => simp at filled
  | case4 size rest _ ih => exact Nat.lt_succ_of_lt (ih filled)
  | case5 size rest _ cell cells text inner left same ih =>
    have bound := length_fill_le width (size + text.length) rest
    rw [same] at bound
    obtain ⟨_, rfl⟩ := Prod.mk.inj filled
    exact Nat.lt_succ_of_le bound

theorem length_next_lt {source after : CopySource} {chunk : List UInt8}
    (read : source.next = (.ok (some chunk), after)) :
    after.unread.length < source.unread.length := by
  unfold next at read
  split at read
  · simp at read
  · simp at read
  · rename_i found
    have shorter := length_fill_lt found
    simp only [Prod.mk.injEq] at read
    rw [← read.2]
    exact shorter

def pull (source : CopySource) : List (List UInt8) × Option Error × CopySource :=
  match _read : source.next with
  | (.error error, after) => ([], some error, after)
  | (.ok none, after) => ([], none, after)
  | (.ok (some chunk), after) =>
    let (chunks, failure, after) := pull after
    (chunk :: chunks, failure, after)
termination_by source.unread.length
decreasing_by exact length_next_lt _read

end CopySource

structure Engine (state : Type) where
  dialect : Dialect
  execute : String → Call state Nat
  prepare : String → Call state Statement
  run : Statement → List Cell → Call state Nat
  close : Statement → Call state Unit
  copy : String → List String → CopySource → state → Result Nat × CopySource × state
  describe : String → Call state (List (String × String))
  query : String → Call state ResultSet
  /-- Make all changes last. -/
  commit : Call state Unit

end Tabular
