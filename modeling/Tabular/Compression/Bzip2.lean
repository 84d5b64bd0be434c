import Tabular.Compression.Checksum
import Tabular.Compression.Huffman

/-!
# Bzip2

Streams one after the other, each a header, blocks, and a mark with a checksum. The content of a
block is shortened at runs of four equal bytes, its rotations are sorted and the last byte of each is
taken, every byte is replaced by how recently it was used, runs of the most recent one are counted in
two digits, and all is written in Huffman codes that take turns.
-/

set_option autoImplicit false

namespace Tabular.Bzip2

def blockMark : Nat := 0x314159265359

def endMark : Nat := 0x177245385090

/-- How many symbols are written in one code before the next one takes its turn. -/
def turn : Nat := 50

/-! ## Reading -/

def ones (count : Nat) : Unpack (List Nat) := do
  let bits ← Unpack.collect Unpack.bit count #[]
  return (List.range count).filter fun i => bits[i]? = some 1

def usedBytes : Unpack (List UInt8) := do
  let ranges ← ones 16
  let used ← ranges.mapM fun range => do
    return (← ones 16).map fun low => UInt8.ofNat (16 * range + low)
  return used.flatten

/-- Count ones up to a zero, below a limit. -/
def unary : Nat → Unpack Nat
  | 0 => Unpack.malformed
  | limit + 1 => do
    if (← Unpack.bit) = 0 then return 0 else return (← unary limit) + 1

/-- An item of a list, and the list with the item in front. -/
def toFront {α : Type} (items : List α) (index : Nat) : Option (α × List α) :=
  (items[index]?).map fun item => (item, item :: items.eraseIdx index)

def turns (codes : Nat) : Nat → List Nat → Array Nat → Unpack (Array Nat)
  | 0, _, found => return found
  | count + 1, recent, found => do
    match toFront recent (← unary codes) with
    | none => Unpack.malformed
    | some (next, recent) => turns codes count recent (found.push next)

def stepLength : Nat → Nat → Unpack Nat
  | 0, _ => Unpack.malformed
  | steps + 1, length => do
    Unpack.require (1 ≤ length && length ≤ 20)
    if (← Unpack.bit) = 0 then return length
    else if (← Unpack.bit) = 0 then stepLength steps (length + 1)
    else stepLength steps (length - 1)

/-- Read the lengths of words, each as a change of the one before. -/
def wordLengths : Nat → Nat → Array Nat → Unpack (List Nat)
  | 0, _, found => return found.toList
  | count + 1, length, found => do
    let length ← stepLength ((← Unpack.remaining) + 1) length
    wordLengths count length (found.push length)

def code (symbols : Nat) : Unpack Huffman := do
  let lengths ← wordLengths symbols (← Unpack.bits 5) #[]
  return (Huffman.ofLengths lengths).1

structure Partial where
  /-- The bytes in use, the most recent one first. -/
  recent : List UInt8
  bytes : ByteArray := .empty
  /-- The length of the run that is being read, and the weight of its next digit. -/
  run : Nat := 0
  weight : Nat := 1

namespace Partial

def settle (part : Partial) : Partial :=
  let again := part.recent.head?.getD 0
  { part with
    bytes := (List.range part.run).foldl (fun bytes _ => bytes.push again) part.bytes
    run := 0
    weight := 1 }

def digit (part : Partial) (value : Nat) : Partial :=
  { part with run := part.run + (value + 1) * part.weight, weight := 2 * part.weight }

/-- Read a byte that is not the most recent one. -/
def byte? (part : Partial) (index : Nat) : Option Partial :=
  let part := part.settle
  (toFront part.recent index).map fun (next, recent) =>
    { part with recent := recent, bytes := part.bytes.push next }

end Partial

def symbols (limit : Nat) (codes : Array Huffman) (turns : Array Nat) (recent : List UInt8) :
    Unpack ByteArray := do
  let last := recent.length + 1
  go last ((← Unpack.remaining) + 1) 0 { recent := recent }
where
  /-- At most so many steps, after the symbols that were read. -/
  go (last : Nat) : Nat → Nat → Partial → Unpack ByteArray
    | 0, _, _ => Unpack.malformed
    | steps + 1, read, part => do
      match turns[read / turn]?.bind (codes[·]?) with
      | none => Unpack.malformed
      | some code =>
        let symbol ← code.read
        Unpack.require (part.bytes.size + part.run ≤ limit)
        if symbol ≤ 1 then go last steps (read + 1) (part.digit symbol)
        else if symbol = last then return part.settle.bytes
        else
          match part.byte? (symbol - 1) with
          | none => Unpack.malformed
          | some part => go last steps (read + 1) part

/-- For every byte value the number of smaller bytes. -/
def smaller (bytes : ByteArray) : Array Nat :=
  let counts := bytes.foldl (fun counts b => counts.modify b.toNat (· + 1)) (Array.replicate 256 0)
  (counts.foldl (fun (sums, sum) count => (sums.push sum, sum + count)) (#[], 0)).1

/-- For every position in the sorted bytes the position of the byte that stands there. -/
def origins (bytes : ByteArray) : Array Nat :=
  ((List.range bytes.size).foldl (fun (origins, next) i =>
    let b := (byteAt bytes i).toNat
    let place := next[b]?.getD 0
    (origins.setIfInBounds place i, next.setIfInBounds b (place + 1)))
    (Array.replicate bytes.size 0, smaller bytes)).1

/-- The bytes whose sorted rotations end in the given ones, where the rotation that is the bytes
themselves has the given place. -/
def unsorted (bytes : ByteArray) (place : Nat) : ByteArray :=
  let origins := origins bytes
  ((List.range bytes.size).foldl (fun (result, place) _ =>
    let place := origins[place]?.getD 0
    (result.push (byteAt bytes place), place)) (ByteArray.empty, place)).1

def lengthened (bytes : ByteArray) : ByteArray :=
  (bytes.foldl (fun (result, run, last) b =>
    if run = 4 then
      ((List.range b.toNat).foldl (fun result _ => result.push last) result, 0, last)
    else (result.push b, if run = 0 || b != last then 1 else run + 1, b))
    (ByteArray.empty, 0, (0 : UInt8))).1

def block (limit : Nat) : Unpack UInt32 := do
  let sum ← Unpack.bits 32
  Unpack.require ((← Unpack.bit) = 0)
  let place ← Unpack.bits 24
  let used ← usedBytes
  Unpack.require (!used.isEmpty)
  let codeCount ← Unpack.bits 3
  Unpack.require (2 ≤ codeCount && codeCount ≤ 6)
  let turnCount ← Unpack.bits 15
  Unpack.require (1 ≤ turnCount)
  let turns ← turns codeCount turnCount (List.range codeCount) #[]
  let codes ← Unpack.collect (code (used.length + 2)) codeCount #[]
  let bytes ← symbols limit codes turns used
  Unpack.require (place < bytes.size && bytes.size ≤ limit)
  let content := lengthened (unsorted bytes place)
  Unpack.require (sum = (Checksum.crc32High content 0 content.size).toNat)
  modify fun u => { u with output := u.output ++ content }
  return UInt32.ofNat sum

def blocks (limit : Nat) : Nat → UInt32 → Unpack Unit
  | 0, _ => Unpack.malformed
  | count + 1, sum => do
    let mark ← Unpack.bits 48
    if mark = blockMark then
      let next ← block limit
      blocks limit count (Checksum.rotate32 sum 1 ^^^ next)
    else
      Unpack.require (mark = endMark)
      Unpack.require ((← Unpack.bits 32) = sum.toNat)
      Unpack.align

/-- Unpack all streams. -/
def unpack : Unpack Unit := Unpack.untilDone do
  Unpack.require ((← Unpack.bits 24) = 0x425A68)
  let level ← Unpack.bits 8
  Unpack.require (0x31 ≤ level && level ≤ 0x39)
  blocks (100000 * (level - 0x30)) ((← Unpack.remaining) + 1) 0
  Unpack.atEnd

/-! ## Writing -/

/-- The lowest bits of a number, the highest one first. -/
def digits (count n : Nat) : List Bool :=
  (List.range count).map fun i => n.testBit (count - 1 - i)

/-- Bits as bytes, the last one filled up with zeros. -/
def toBytes (bits : List Bool) : List UInt8 :=
  match bits with
  | [] => []
  | bit :: rest =>
    let chunk := (bit :: rest).take 8
    UInt8.ofNat (chunk.foldl (fun n bit => 2 * n + bit.toNat) 0 * Nat.pow 2 (8 - chunk.length)) ::
      toBytes (rest.drop 7)
termination_by bits.length
decreasing_by
  simp only [List.length_drop, List.length_cons]
  omega

/-- Cut content so that every part stays short when its runs are written. -/
def blockSize : Nat := 200

/-- Put the number zero behind every run of four equal bytes. -/
def shortened (last : UInt8) (run : Nat) : List UInt8 → List UInt8
  | [] => []
  | b :: rest =>
    let run := if run = 0 || b != last then 1 else run + 1
    if run = 4 then b :: 0 :: shortened b 0 rest else b :: shortened b run rest

/-- Whether one rotation is not behind another. -/
def rotationLe (bytes : Array UInt8) (a b : Nat) : Bool :=
  let byteFrom := fun start i => bytes[(start + i) % bytes.size]?.getD 0
  match (List.range bytes.size).find? fun i => byteFrom a i != byteFrom b i with
  | none => true
  | some i => byteFrom a i ≤ byteFrom b i

/-- The last bytes of the sorted rotations, and the place of the bytes themselves. -/
def sorted (bytes : Array UInt8) : List UInt8 × Nat :=
  let order := (List.range bytes.size).mergeSort (rotationLe bytes)
  (order.map fun start => bytes[(start + bytes.size - 1) % bytes.size]?.getD 0, order.idxOf 0)

def runDigits (run : Nat) : List Nat :=
  if run = 0 then []
  else if run % 2 = 1 then 0 :: runDigits ((run - 1) / 2)
  else 1 :: runDigits ((run - 2) / 2)
termination_by run
decreasing_by all_goals omega

/-- The symbols of bytes, where a run of the most recent byte precedes them. -/
def symbolsOf (recent : List UInt8) (run : Nat) : List UInt8 → List Nat
  | [] => runDigits run
  | b :: rest =>
    match recent.idxOf b with
    | 0 => symbolsOf recent (run + 1) rest
    | index => runDigits run ++ (index + 1) :: symbolsOf (b :: recent.erase b) 0 rest

/-- The bits of a block, and its checksum. -/
def blockBits (content : List UInt8) : List Bool × UInt32 :=
  let whole := ByteArray.mk content.toArray
  let sum := Checksum.crc32High whole 0 whole.size
  let (bytes, place) := sorted (shortened 0 0 content).toArray
  let used := (List.range 256).filter fun b => bytes.contains (UInt8.ofNat b)
  let symbols := symbolsOf (used.map UInt8.ofNat) 0 bytes ++ [used.length + 1]
  let width := Nat.log2 (used.length + 1) + 1
  let turnCount := (symbols.length + turn - 1) / turn
  let ranges := (List.range 16).filter fun range => used.any fun b => b / 16 = range
  let bits := digits 48 blockMark ++ digits 32 sum.toNat ++ [false] ++ digits 24 place ++
    (List.range 16).map (fun range => ranges.contains range) ++
    ranges.flatMap (fun range => (List.range 16).map fun low => used.contains (16 * range + low)) ++
    digits 3 2 ++ digits 15 turnCount ++ List.replicate turnCount false ++
    (List.replicate 2 (digits 5 width ++ List.replicate (used.length + 2) false)).flatten ++
    symbols.flatMap (digits width)
  (bits, sum)

/-- The bits of all blocks, and their checksum after the one so far. -/
def allBits (sum : UInt32) (content : List UInt8) : List Bool × UInt32 :=
  if content.isEmpty then ([], sum)
  else
    let (bits, next) := blockBits (content.take blockSize)
    let (more, sum) := allBits (Checksum.rotate32 sum 1 ^^^ next) (content.drop blockSize)
    (bits ++ more, sum)
termination_by content.length
decreasing_by
  have := List.length_pos_iff.mpr (by simpa using ‹¬content.isEmpty = true›)
  simp [blockSize]
  omega

def pack (content : List UInt8) : List UInt8 :=
  let (bits, sum) := allBits 0 content
  [0x42, 0x5A, 0x68, 0x39] ++ toBytes (bits ++ digits 48 endMark ++ digits 32 sum.toNat)

end Tabular.Bzip2
