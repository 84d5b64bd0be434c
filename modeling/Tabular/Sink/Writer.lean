import Tabular.Engine
import Tabular.Sink

/-!
# Receivers of results

What takes a result: its columns are announced, its rows given one by one, and its end declared. Any
of these calls may fail. A receiver may turn the result into text or keep it.
-/

set_option autoImplicit false

namespace Tabular

structure Writer (state : Type) where
  start : List String → List String → Call state Unit
  row : Row → List String → Call state Unit
  finish : Call state Unit

structure TextOutput where
  sink : Sink
  /-- The pieces of text, the last one first. -/
  pieces : List String := []

namespace TextOutput

def text (output : TextOutput) : String :=
  String.join output.pieces.reverse

def add (given : Sink → String × Sink) : Call TextOutput Unit := fun output =>
  let (piece, sink) := given output.sink
  (.ok (), { sink := sink, pieces := piece :: output.pieces })

def writer : Writer TextOutput where
  start := fun columns types => add fun sink => sink.start columns types
  row := fun row columns => add fun sink => sink.row row columns
  finish := add Sink.finish

end TextOutput

structure Collected where
  columns : List String := []
  types : List String := []
  rows : Array Row := #[]
deriving Inhabited

def Collected.writer : Writer Collected where
  start := fun columns types _ => (.ok (), { columns := columns, types := types })
  row := fun row _ kept => (.ok (), { kept with rows := kept.rows.push row })
  finish := fun kept => (.ok (), kept)

end Tabular
