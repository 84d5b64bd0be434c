import Tabular.Compression.Checksum

/-!
# LZ4 frames

A header, blocks up to one of size zero, and an optional checksum. A block holds bytes as they are or
sequences: some bytes and a reference to bytes before them.
-/

set_option autoImplicit false

namespace Tabular.Lz4

structure Header where
  /-- Whether blocks refer to no other blocks. -/
  independent : Bool
  blockCheck : Bool
  contentSize : Option Nat
  contentCheck : Bool
  /-- The most bytes in a block. -/
  blockLimit : Nat

def headerCheck (bytes : ByteArray) (start stop : Nat) : Nat :=
  (Checksum.xxh32 bytes start stop).toNat / 0x100 % 0x100

def header : Unpack Header := do
  Unpack.require ((← Unpack.littleEndian 4) = 0x184D2204)
  let start := (← get).position / 8
  let flags := (← Unpack.byte).toNat
  let limits := (← Unpack.byte).toNat
  Unpack.require (flags / 64 = 1 && !flags.testBit 1 && limits % 16 = 0 && limits < 0x80 &&
    4 ≤ limits / 16)
  let size ← if flags.testBit 3 then pure (some (← Unpack.littleEndian 8)) else pure none
  if flags.testBit 0 then Unpack.skip 4
  let u ← get
  let check := headerCheck u.packed start (u.position / 8)
  Unpack.require ((← Unpack.byte).toNat = check && !flags.testBit 0)
  return { independent := flags.testBit 5, blockCheck := flags.testBit 4, contentSize := size,
           contentCheck := flags.testBit 2, blockLimit := Nat.pow 2 (8 + 2 * (limits / 16)) }

/-- Read the rest of a count that begins with four bits: more bytes follow as long as all bits of
the last ones are set. -/
def count (start : Nat) : Unpack Nat := do
  if start < 15 then return start
  else go ((← Unpack.remaining) + 1) start
where
  /-- At most so many bytes. -/
  go : Nat → Nat → Unpack Nat
    | 0, _ => Unpack.malformed
    | steps + 1, sum => do
      let next := (← Unpack.byte).toNat
      if next = 255 then go steps (sum + next) else return sum + next

/-- Unpack a sequence of a block that ends at a position; whether it was the last one. -/
def sequence (stop : Nat) : Unpack Bool := do
  let token := (← Unpack.byte).toNat
  let literals ← count (token / 16)
  Unpack.require ((← get).position + 8 * literals ≤ stop)
  Unpack.emitBytes literals
  if stop ≤ (← get).position then return true
  else
    let distance ← Unpack.littleEndian 2
    let length ← count (token % 16)
    Unpack.copyBack distance (length + 4)
    Unpack.require ((← get).position < stop)
    return false

/-- Unpack a block; whether it was the one that ends the frame. -/
def block (header : Header) : Unpack Bool := do
  let size ← Unpack.littleEndian 4
  if size = 0 then return true
  else
    let plain := size.testBit 31
    let size := size % 0x80000000
    Unpack.require (size ≤ header.blockLimit)
    let start := (← get).position
    if (← Unpack.remaining) < 8 * size then throw .truncated
    if header.independent then Unpack.openWindow
    if plain then Unpack.emitBytes size else Unpack.untilDone (sequence (start + 8 * size))
    if header.blockCheck then
      let sum := Checksum.xxh32 (← get).packed (start / 8) (start / 8 + size)
      Unpack.require ((← Unpack.littleEndian 4) = sum.toNat)
    Unpack.settle
    return false

/-- Unpack a frame. What follows it is not read. -/
def unpack : Unpack Unit := do
  if ← Unpack.atEnd then return ()
  else
    Unpack.openWindow
    let start := (← get).output.size
    let header ← header
    Unpack.untilDone (block header)
    let u ← get
    match header.contentSize with
    | some size => Unpack.require (size = u.output.size - start)
    | none => pure ()
    if header.contentCheck then
      Unpack.require ((← Unpack.littleEndian 4) =
        (Checksum.xxh32 u.output start u.output.size).toNat)

/-- The most bytes in a block that is written. -/
def blockLimit : Nat := 65536

/-- Blocks of bytes as they are, and the one that ends the frame. -/
def store (content : List UInt8) : List UInt8 :=
  if content.isEmpty then lowBytes 4 0
  else
    lowBytes 4 (0x80000000 + Nat.min content.length blockLimit) ++ content.take blockLimit ++
      store (content.drop blockLimit)
termination_by content.length
decreasing_by
  have := List.length_pos_iff.mpr (by simpa using ‹¬content.isEmpty = true›)
  simp [blockLimit]
  omega

def pack (content : List UInt8) : List UInt8 :=
  let descriptor : List UInt8 := [0x60, 0x40]
  [0x04, 0x22, 0x4D, 0x18] ++ descriptor ++
    [UInt8.ofNat (headerCheck (ByteArray.mk descriptor.toArray) 0 2)] ++ store content

end Tabular.Lz4
