/-!
# Unpacking

Reading compressed bytes: bit by bit or byte by byte, with what has been unpacked so far at hand,
because compressed data refers back to it. What was unpacked before a fault is kept.
-/

set_option autoImplicit false

namespace Tabular

inductive Damage where
  | truncated
  | malformed
deriving DecidableEq, Repr, Inhabited

inductive BitOrder where
  | lowFirst
  | highFirst
deriving DecidableEq, Repr, Inhabited

/-- The byte at a position; zero behind the end. -/
def byteAt (bytes : ByteArray) (index : Nat) : UInt8 :=
  if bound : index < bytes.size then bytes[index] else 0

/-- The lowest bytes of a number, the lowest one first. -/
def lowBytes : Nat → Nat → List UInt8
  | 0, _ => []
  | count + 1, n => UInt8.ofNat (n % 256) :: lowBytes count (n / 256)

structure Unpacking where
  packed : ByteArray
  order : BitOrder := .lowFirst
  position : Nat := 0
  output : ByteArray := .empty
  windowStart : Nat := 0
  /-- How much of the output stands even if what follows is malformed. -/
  settled : Nat := 0

abbrev Unpack (α : Type) := EStateM Damage Unpacking α

namespace Unpacking

def remaining (u : Unpacking) : Nat :=
  8 * u.packed.size - u.position

/-- The next bit, when there is one. -/
def currentBit (u : Unpacking) : Nat :=
  let shift := match u.order with
    | .lowFirst => u.position % 8
    | .highFirst => 7 - u.position % 8
  (byteAt u.packed (u.position / 8) >>> shift.toUInt8 &&& 1).toNat

end Unpacking

namespace Unpack

def malformed {α : Type} : Unpack α := throw .malformed

/-- Go on only if a condition holds. -/
def require (condition : Bool) : Unpack Unit :=
  if condition then pure () else malformed

def remaining : Unpack Nat := return (← get).remaining

/-- Whether all bytes have been read. -/
def atEnd : Unpack Bool := return (← remaining) = 0

def bit : Unpack Nat := fun u =>
  if u.remaining = 0 then .error .truncated u
  else
    let value := u.currentBit
    .ok value { u with position := u.position + 1 }

/-- A number of bits, the first one the lowest digit. -/
def lowBits : Nat → Unpack Nat
  | 0 => return 0
  | count + 1 => do
    let low ← bit
    let high ← lowBits count
    return low + 2 * high

/-- A number of bits after the digits read so far, the first one the highest digit. -/
def highBits (value : Nat) : Nat → Unpack Nat
  | 0 => return value
  | count + 1 => do
    let next ← bit
    highBits (2 * value + next) count

/-- A number of bits in the order of the input. -/
def bits (count : Nat) : Unpack Nat := do
  match (← get).order with
  | .lowFirst => lowBits count
  | .highFirst => highBits 0 count

def align : Unpack Unit :=
  modify fun u => { u with position := (u.position + 7) / 8 * 8 }

/-- The next byte, at the start of a byte. -/
def byte : Unpack UInt8 := fun u =>
  if u.remaining < 8 then .error .truncated u
  else
    let value := byteAt u.packed (u.position / 8)
    .ok value { u with position := u.position + 8 }

/-- The number in a count of bytes, the lowest one first. -/
def littleEndian : Nat → Unpack Nat
  | 0 => return 0
  | count + 1 => do
    let low ← byte
    let high ← littleEndian count
    return low.toNat + 256 * high

/-- The number in a count of bytes, the highest one first. -/
def bigEndian (count : Nat) : Unpack Nat := do
  go count 0
where
  go : Nat → Nat → Unpack Nat
    | 0, read => return read
    | count + 1, read => do
      let next ← byte
      go count (256 * read + next.toNat)

def skip (count : Nat) : Unpack Unit := fun u =>
  if u.remaining < 8 * count then .error .truncated { u with position := 8 * u.packed.size }
  else .ok () { u with position := u.position + 8 * count }

def emit (b : UInt8) : Unpack Unit :=
  modify fun u => { u with output := u.output.push b }

def emitBytes : Nat → Unpack Unit
  | 0 => return ()
  | count + 1 => do
    emit (← byte)
    emitBytes count

def windowSize : Unpack Nat := return (← get).output.size - (← get).windowStart

def back (distance : Nat) : Unpack UInt8 := do
  let u ← get
  if bound : u.output.size - distance < u.output.size then return u.output[u.output.size - distance]
  else malformed

/-- Repeat bytes of the output one by one, so that they can be among those that are added. -/
def repeatBack (distance : Nat) : Nat → Unpack Unit
  | 0 => return ()
  | count + 1 => do
    emit (← back distance)
    repeatBack distance count

def copyBack (distance count : Nat) : Unpack Unit := do
  require (1 ≤ distance && distance ≤ (← windowSize))
  repeatBack distance count

/-- Let references reach back no further than to what comes now. -/
def openWindow : Unpack Unit :=
  modify fun u => { u with windowStart := u.output.size }

/-- Let the output so far stand even if what follows is malformed. -/
def settle : Unpack Unit :=
  modify fun u => { u with settled := u.output.size }

/-- Run a step until it says that it was the last one, for as many times as there are bits left; a
step that reads nothing would not end otherwise. -/
def untilDone (step : Unpack Bool) : Unpack Unit := do
  go ((← remaining) + 1)
where
  /-- At most so many steps. -/
  go : Nat → Unpack Unit
    | 0 => malformed
    | steps + 1 => do
      if ← step then return () else go steps

def collect {α : Type} (step : Unpack α) : Nat → Array α → Unpack (Array α)
  | 0, found => return found
  | count + 1, found => do
    let next ← step
    collect step count (found.push next)

end Unpack

end Tabular
