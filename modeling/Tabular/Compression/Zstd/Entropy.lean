import Tabular.Compression.Huffman

/-!
# Entropy codes of Zstandard

Two kinds of codes: tables whose states stand for symbols and say how many bits lead to the next
state, and Huffman codes. Data in these codes is read backwards from its end.
-/

set_option autoImplicit false

namespace Tabular.Zstd

/-! ## Bits read backwards -/

structure Backward where
  bytes : ByteArray
  start : Nat
  /-- The position behind the next bit to be read. It falls before `start` when more bits are read than
  there are; those count as zero. -/
  position : Int

namespace Backward

/-- The bit at a position, the lowest bit of a byte being the first one. -/
def bitAt (bytes : ByteArray) (position : Nat) : Nat :=
  (byteAt bytes (position / 8) >>> (position % 8).toUInt8 &&& 1).toNat

/-- The part between two bytes. The highest one among its bits marks its end. -/
def ofBytes? (bytes : ByteArray) (start stop : Nat) : Option Backward :=
  let last := (byteAt bytes (stop - 1)).toNat
  if stop ≤ start || last = 0 then none
  else some { bytes := bytes, start := 8 * start, position := 8 * (stop - 1) + Nat.log2 last }

def bit (b : Backward) : Nat × Backward :=
  let position := b.position - 1
  (if (b.start : Int) ≤ position then bitAt b.bytes position.toNat else 0,
    { b with position := position })

/-- A number of bits, the first one the highest. -/
def bits (b : Backward) (count : Nat) : Nat × Backward :=
  go b 0 count
where
  go (b : Backward) (read : Nat) : Nat → Nat × Backward
    | 0 => (read, b)
    | count + 1 =>
      let (next, b) := b.bit
      go b (2 * read + next) count

/-- Whether all bits have been read and no more than these. -/
def isSpent (b : Backward) : Bool := b.position = b.start

def isOverdrawn (b : Backward) : Bool := b.position < b.start

def symbol? (b : Backward) : Huffman → Option (Nat × Backward)
  | .none => none
  | .symbol value => some (value, b)
  | .branch zero one =>
    let (next, b) := b.bit
    if next = 0 then b.symbol? zero else b.symbol? one

end Backward

/-! ## State tables -/

/-- A state: its symbol, and the bits that lead to the next state from a first one on. -/
structure State where
  symbol : Nat
  bits : Nat
  base : Nat
deriving Inhabited

/-- A table of `2 ^ log` states. -/
structure Table where
  log : Nat
  states : Array State
deriving Inhabited

namespace Table

/-- The table in which all states stand for one symbol. -/
def constant (symbol : Nat) : Table :=
  { log := 0, states := #[{ symbol := symbol, bits := 0, base := 0 }] }

/-- The places of states in the order in which symbols get them, from a place on: each is a step
from the one before, and the last ones of the table are left out. -/
def places (size limit : Nat) : Nat → Nat → Array Nat → Array Nat
  | 0, _, found => found
  | count + 1, place, found =>
    places size limit count ((place + size / 2 + size / 8 + 3) % size)
      (if place < limit then found.push place else found)

/-- The table for shares of the states. A share of -1 is a single state at the end of the table. -/
def ofShares (log : Nat) (shares : List Int) : Table :=
  let size := Nat.pow 2 log
  let rare := (shares.zipIdx.filter fun entry => entry.1 = -1).map (·.2)
  let common := shares.zipIdx.flatMap fun (share, symbol) => List.replicate share.toNat symbol
  let limit := size - rare.length
  let owners := (rare.zipIdx.map fun (symbol, i) => (size - 1 - i, symbol)) ++
    (places size limit size 0 #[]).toList.zip common
  let symbols := owners.foldl (fun symbols (place, symbol) => symbols.setIfInBounds place symbol)
    (Array.replicate size 0)
  let next := (shares.map fun share => if share = -1 then 1 else share.toNat).toArray
  let (states, _) := symbols.foldl (fun (states, next) symbol =>
    let count := next[symbol]?.getD 1
    let bits := log - Nat.log2 count
    (states.push { symbol := symbol, bits := bits, base := count * Nat.pow 2 bits - size },
      next.setIfInBounds symbol (count + 1))) ((#[] : Array State), next)
  { log := log, states := states }

def state (table : Table) (number : Nat) : State :=
  table.states[number]?.getD default

def start (table : Table) (b : Backward) : State × Backward :=
  let (number, b) := b.bits table.log
  (table.state number, b)

def step (table : Table) (state : State) (b : Backward) : State × Backward :=
  let (number, b) := b.bits state.bits
  (table.state (state.base + number), b)

end Table

/-- Read how many symbols more have no share: two bits at a time, as long as these are ones. -/
def zeroShares : Nat → Unpack Nat
  | 0 => Unpack.malformed
  | steps + 1 => do
    let count ← Unpack.bits 2
    if count = 3 then return 3 + (← zeroShares steps) else return count

/-- Read a share when `left` states are left, one more than that having been promised. Small numbers
take one bit less. -/
def share (left : Nat) : Unpack Int := do
  let width := Nat.log2 (left + 1) + 1
  let small := Nat.pow 2 width - 1 - (left + 1)
  let low ← Unpack.bits (width - 1)
  if low < small then return (low : Int) - 1
  else
    let high ← Unpack.bits 1
    let value := low + high * Nat.pow 2 (width - 1)
    if high = 1 then return ((value - small : Nat) : Int) - 1 else return (value : Int) - 1

/-- Read a table of at most `2 ^ limit` states for at most so many symbols. -/
def table (limit symbols : Nat) : Unpack Table := do
  let log := 5 + (← Unpack.bits 4)
  Unpack.require (log ≤ limit)
  let shares ← go ((← Unpack.remaining) + 1) (Nat.pow 2 log) []
  Unpack.align
  Unpack.require (shares.length ≤ symbols)
  return Table.ofShares log shares
where
  /-- At most so many steps. -/
  go : Nat → Nat → List Int → Unpack (List Int)
    | 0, _, _ => Unpack.malformed
    | steps + 1, left, shares => do
      if left = 0 then return shares.reverse
      else
        Unpack.require (shares.length ≤ symbols)
        let next ← share left
        Unpack.require (next.natAbs ≤ left)
        if next = 0 then
          let more ← zeroShares ((← Unpack.remaining) + 1)
          go steps left (List.replicate (more + 1) 0 ++ shares)
        else go steps (left - next.natAbs) (next :: shares)

/-! ## Huffman codes -/

/-- The code with words of the given weights. Heavier symbols have shorter words, and words are
handed out from the right. -/
def codeOfWeights (weights : List Nat) : Option Huffman :=
  let total := weights.foldl (fun total weight =>
    if weight = 0 then total else total + Nat.pow 2 (weight - 1)) 0
  let most := Nat.log2 total + 1
  let rest := Nat.pow 2 most - total
  if total = 0 || rest != Nat.pow 2 (Nat.log2 rest) || 11 < most then none
  else
    let lengths := (weights ++ [Nat.log2 rest + 1]).map fun weight =>
      if weight = 0 then 0 else most + 1 - weight
    let entries := (lengths.zipIdx.filter fun entry => entry.1 != 0).reverse.mergeSort
      fun a b => decide (a.1 ≤ b.1)
    let (code, left) := Huffman.assign 0 most entries
    if left.isEmpty && code.isComplete then some code.mirror else none

/-- Read weights written in two states of a table that take turns, until the bits are used up. -/
def weightsFrom (table : Table) (b : Backward) : List Nat :=
  let (first, b) := table.start b
  let (second, b) := table.start b
  go 255 first second b
where
  /-- At most so many weights, the first state having its turn. -/
  go : Nat → State → State → Backward → List Nat
    | 0, _, _, _ => []
    | count + 1, first, second, b =>
      let (next, b) := table.step first b
      if b.isOverdrawn then [first.symbol, second.symbol]
      else first.symbol :: go count second next b

def huffman : Unpack Huffman := do
  let first := (← Unpack.byte).toNat
  let weights ← if first < 128 then do
      let stop := (← get).position / 8 + first
      let table ← table 6 256
      let u ← get
      match Backward.ofBytes? u.packed (u.position / 8) stop with
      | none => Unpack.malformed
      | some b =>
        set { u with position := 8 * stop }
        pure (weightsFrom table b)
    else do
      let count := first - 127
      let bytes ← Unpack.collect Unpack.byte ((count + 1) / 2) #[]
      pure ((bytes.toList.flatMap fun b => [b.toNat / 16, b.toNat % 16]).take count)
  match codeOfWeights weights with
  | none => Unpack.malformed
  | some code => return code

end Tabular.Zstd
