import Tabular.Compression.Unpacking

/-!
# LZMA data

Bytes and references to bytes before them, written bit by bit by a range coder. The coder adapts the
probability of each bit to the bits of the same kind before it. LZMA2 cuts such data into chunks,
among which may be chunks of bytes as they are.
-/

set_option autoImplicit false

namespace Tabular.Lzma

/-- How contexts are chosen: the bits of the last byte and the bits of the position that count for a
byte, and the bits of the position that count for other decisions. -/
structure Properties where
  lastByteBits : Nat := 3
  bytePositionBits : Nat := 0
  positionBits : Nat := 2

def Properties.ofByte? (b : Nat) : Option Properties :=
  let properties : Properties :=
    { lastByteBits := b % 9, bytePositionBits := b / 9 % 5, positionBits := b / 45 }
  if b < 225 && properties.lastByteBits + properties.bytePositionBits ≤ 4 then some properties
  else none

def isMatchAt : Nat := 0
def isRepeatAt : Nat := 192
def isOtherAt : Nat := 204
def isThirdAt : Nat := 216
def isFourthAt : Nat := 228
def isLongAt : Nat := 240
def slotAt : Nat := 432
def specialAt : Nat := 688
def alignAt : Nat := 804
def lengthAt : Nat := 820
def repeatLengthAt : Nat := 1334
def literalAt : Nat := 1848

structure Coder where
  properties : Properties := {}
  /-- The width of the current range, and where in it the data points. -/
  range : Nat := 0
  code : Nat := 0
  /-- For each kind of bit how likely a zero is, in parts of 2048. -/
  chances : Array Nat := #[]
  history : Nat := 0
  /-- The last distances, less one each. -/
  distance : Nat := 0
  second : Nat := 0
  third : Nat := 0
  fourth : Nat := 0

abbrev Step (α : Type) := StateT Coder (EStateM Damage Unpacking) α

/-- The coder with nothing to remember. -/
def Coder.fresh (properties : Properties) : Coder :=
  { properties := properties
    chances := Array.replicate
      (literalAt + 0x300 * Nat.pow 2 (properties.lastByteBits + properties.bytePositionBits)) 1024 }

def begin : Step Unit := do
  Unpack.require ((← Unpack.byte) == 0)
  let start ← Unpack.collect Unpack.byte 4 #[]
  modify fun c =>
    { c with range := 0xFFFFFFFF, code := start.foldl (fun n b => 256 * n + b.toNat) 0 }

def normalize : Step Unit := do
  if (← get).range < 0x1000000 then
    let next ← Unpack.byte
    modify fun c => { c with range := 256 * c.range, code := 256 * c.code + next.toNat }

def Coder.decide (kind : Nat) (c : Coder) : Nat × Coder :=
  let chance := c.chances[kind]?.getD 1024
  let bound := c.range / 2048 * chance
  if c.code < bound then
    (0, { c with range := bound
                 chances := c.chances.setIfInBounds kind (chance + (2048 - chance) / 32) })
  else
    (1, { c with range := c.range - bound
                 code := c.code - bound
                 chances := c.chances.setIfInBounds kind (chance - chance / 32) })

def bit (kind : Nat) : Step Nat := do
  normalize
  modifyGet (Coder.decide kind)

/-- Read bits, the highest first, after the ones that were read; the kind depends on these. -/
def tree (start : Nat) (read : Nat) : Nat → Step Nat
  | 0 => return read
  | count + 1 => do
    let next ← bit (start + read)
    tree start (2 * read + next) count

/-- Read a number in a count of bits, the highest first. -/
def treeNumber (start count : Nat) : Step Nat := do
  return (← tree start 1 count) - Nat.pow 2 count

/-- Read bits, the lowest first, after the ones that were read. -/
def reverseTree (start : Nat) (read weight : Nat) : Nat → Step Nat
  | 0 => return 0
  | count + 1 => do
    let next ← bit (start + read)
    return next * weight + (← reverseTree start (2 * read + next) (2 * weight) count)

def evenBits (read : Nat) : Nat → Step Nat
  | 0 => return read
  | count + 1 => do
    normalize
    let next ← modifyGet fun c =>
      let half := c.range / 2
      if c.code < half then (0, { c with range := half })
      else (1, { c with range := half, code := c.code - half })
    evenBits (2 * read + next) count

/-- Read the length of a reference, less two. -/
def length (start position : Nat) : Step Nat := do
  if (← bit start) = 0 then treeNumber (start + 2 + 8 * position) 3
  else if (← bit (start + 1)) = 0 then return 8 + (← treeNumber (start + 130 + 8 * position) 3)
  else return 16 + (← treeNumber (start + 258) 8)

/-- Read the distance of a reference, less one. -/
def distance (length : Nat) : Step Nat := do
  let slot ← treeNumber (slotAt + 64 * Nat.min length 3) 6
  if slot < 4 then return slot
  else
    let count := slot / 2 - 1
    let high := (2 + slot % 2) * Nat.pow 2 count
    if slot < 14 then return high + (← reverseTree (specialAt + high - slot) 1 1 count)
    else
      let middle ← evenBits 0 (count - 4)
      return high + 16 * middle + (← reverseTree alignAt 1 1 4)

/-- Read the bits of a byte in view of the byte at the last distance. The kinds of the bits depend
on that byte as long as both agree. -/
def matchedByte (start model : Nat) : Nat → Nat → Bool → Step Nat
  | 0, read, _ => return read
  | count + 1, read, agrees => do
    let expected := model / Nat.pow 2 count % 2
    let next ← bit (start + if agrees then 0x100 * (1 + expected) + read else read)
    matchedByte start model count (2 * read + next) (agrees && next = expected)

def literal : Step Unit := do
  let c ← get
  let position ← Unpack.windowSize
  let last ← if position = 0 then pure 0 else Unpack.back 1
  let lastByteBits := c.properties.lastByteBits
  let context := position % Nat.pow 2 c.properties.bytePositionBits * Nat.pow 2 lastByteBits +
    last.toNat / Nat.pow 2 (8 - lastByteBits)
  let start := literalAt + 0x300 * context
  let byte ← if c.history < 7 then tree start 1 8
    else do
      Unpack.require (c.distance < position)
      matchedByte start (← Unpack.back (c.distance + 1)).toNat 8 1 true
  Unpack.emit (UInt8.ofNat byte)
  modify fun c =>
    { c with history := if c.history < 4 then 0 else if c.history < 10 then c.history - 3
                        else c.history - 6 }

def bringForward : Step Unit := do
  let history := (← get).history
  if (← bit (isThirdAt + history)) = 0 then
    modify fun c => { c with distance := c.second, second := c.distance }
  else if (← bit (isFourthAt + history)) = 0 then
    modify fun c => { c with distance := c.third, third := c.second, second := c.distance }
  else
    modify fun c =>
      { c with distance := c.fourth, fourth := c.third, third := c.second, second := c.distance }

/-- Copy bytes from the last distance, not past a limit of the output. -/
def copy (limit length : Nat) : Step Unit := do
  Unpack.require (length ≤ limit)
  Unpack.copyBack ((← get).distance + 1) length

/-- Unpack a byte or a reference, not past a limit of the output. -/
def step (limit : Nat) : Step Unit := do
  let history := (← get).history
  let position := (← Unpack.windowSize) % Nat.pow 2 (← get).properties.positionBits
  if (← bit (isMatchAt + 16 * history + position)) = 0 then literal
  else if (← bit (isRepeatAt + history)) = 0 then
    let length ← length lengthAt position
    let distance ← distance length
    modify fun c =>
      { c with distance := distance, second := c.distance, third := c.second, fourth := c.third
               history := if c.history < 7 then 7 else 10 }
    copy limit (length + 2)
  else
    let other ← bit (isOtherAt + history)
    let isShort ← if other = 0 then
        pure ((← bit (isLongAt + 16 * history + position)) = 0 : Bool)
      else do
        bringForward
        pure false
    if isShort then
      modify fun c => { c with history := if c.history < 7 then 9 else 11 }
      copy limit 1
    else
      let length ← length repeatLengthAt position
      modify fun c => { c with history := if c.history < 7 then 8 else 11 }
      copy limit (length + 2)

def steps (target : Nat) : Nat → Step Unit
  | 0 => pure ()
  | count + 1 => do
    let size := (← getThe Unpacking).output.size
    if target ≤ size then return ()
    else
      step (target - size)
      steps target count

inductive Needs where
  | window
  | properties
  | history
  | nothing
deriving DecidableEq, Repr, Inhabited

def packedChunk (control : Nat) (needs : Needs) : Step Unit := do
  let size := control % 32 * 0x10000 + (← Unpack.bigEndian 2) + 1
  let packed := (← Unpack.bigEndian 2) + 1
  let reset := control / 32 % 4
  if reset = 3 then Unpack.openWindow
  if 2 ≤ reset then
    match Properties.ofByte? (← Unpack.byte).toNat with
    | none => Unpack.malformed
    | some properties => set (Coder.fresh properties)
  else
    Unpack.require (needs = .history || needs = .nothing)
    if reset = 1 then modify fun c => Coder.fresh c.properties
    else Unpack.require (needs = .nothing)
  let stop := (← getThe Unpacking).position + 8 * packed
  begin
  steps ((← getThe Unpacking).output.size + size) size
  normalize
  Unpack.require ((← getThe Unpacking).position = stop)

/-- Unpack a chunk; what the next one needs, if there is one. -/
def chunk (needs : Needs) : Step (Option Needs) := do
  let control := (← Unpack.byte).toNat
  if control = 0 then return none
  else
    Unpack.require (needs != .window || control = 1 || 0xE0 ≤ control)
    if 0x80 ≤ control then
      packedChunk control needs
      return some .nothing
    else
      Unpack.require (control ≤ 2)
      if control = 1 then Unpack.openWindow
      Unpack.emitBytes ((← Unpack.bigEndian 2) + 1)
      return some (if needs = .window then .properties
        else if needs = .nothing then .history else needs)

def chunks : Nat → Needs → Step Unit
  | 0, _ => Unpack.malformed
  | count + 1, needs => do
    match ← chunk needs with
    | none => return ()
    | some needs => chunks count needs

def unpack : Unpack Unit := do
  let _ ← (chunks ((← Unpack.remaining) + 1) .window).run {}

/-- The most bytes in a chunk of bytes as they are. -/
def storedLimit : Nat := 0x10000

/-- Chunks of bytes as they are with the given content, and the one that ends them. The first chunk
opens the window. -/
def store (isFirst : Bool) (content : List UInt8) : List UInt8 :=
  if content.isEmpty then [0]
  else
    let size := Nat.min content.length storedLimit - 1
    [if isFirst then 1 else 2, UInt8.ofNat (size / 256), UInt8.ofNat (size % 256)] ++
      content.take storedLimit ++ store false (content.drop storedLimit)
termination_by content.length
decreasing_by
  have := List.length_pos_iff.mpr (by simpa using ‹¬content.isEmpty = true›)
  simp [storedLimit]
  omega

end Tabular.Lzma
