import Tabular.Compression.Huffman

/-!
# Deflated data

Blocks of literal bytes and of references to bytes before them, written with Huffman codes that are
fixed or stand in front of the block; or blocks of bytes as they are.
-/

set_option autoImplicit false

namespace Tabular.Deflate

/-- The least length and the number of additional bits of the length symbols, from 257 on. -/
def lengths : List (Nat × Nat) :=
  [(3, 0), (4, 0), (5, 0), (6, 0), (7, 0), (8, 0), (9, 0), (10, 0), (11, 1), (13, 1), (15, 1), (17, 1),
    (19, 2), (23, 2), (27, 2), (31, 2), (35, 3), (43, 3), (51, 3), (59, 3), (67, 4), (83, 4), (99, 4),
    (115, 4), (131, 5), (163, 5), (195, 5), (227, 5), (258, 0)]

/-- The least distance and the number of additional bits of the distance symbols. -/
def distances : List (Nat × Nat) :=
  [(1, 0), (2, 0), (3, 0), (4, 0), (5, 1), (7, 1), (9, 2), (13, 2), (17, 3), (25, 3), (33, 4), (49, 4),
    (65, 5), (97, 5), (129, 6), (193, 6), (257, 7), (385, 7), (513, 8), (769, 8), (1025, 9), (1537, 9),
    (2049, 10), (3073, 10), (4097, 11), (6145, 11), (8193, 12), (12289, 12), (16385, 13), (24577, 13)]

/-- The order in which the lengths of the words for word lengths are given. -/
def lengthOrder : List Nat :=
  [16, 17, 18, 0, 8, 7, 9, 6, 10, 5, 11, 4, 12, 3, 13, 2, 14, 1, 15]

structure Codes where
  literal : Huffman
  distance : Huffman

/-- The codes of blocks that bring none. -/
def fixedCodes : Codes :=
  { literal := (Huffman.ofLengths (List.replicate 144 8 ++ List.replicate 112 9 ++
      List.replicate 24 7 ++ List.replicate 8 8)).1
    distance := (Huffman.ofLengths (List.replicate 32 5)).1 }

/-- A code by the lengths of its words. Unless there is at most one word, all words have to be
used. -/
def code (lengths : List Nat) : Unpack Huffman := do
  let (code, fits) := Huffman.ofLengths lengths
  Unpack.require (fits && (code.isComplete || (Huffman.inOrder lengths).length ≤ 1))
  return code

/-- A value by its symbol: the least value of the symbol and the number in the additional bits. -/
def value (table : List (Nat × Nat)) (symbol : Nat) : Unpack Nat := do
  match table[symbol]? with
  | none => Unpack.malformed
  | some (least, count) => return least + (← Unpack.bits count)

/-- Read word lengths after those read so far. Some symbols stand for repetitions. -/
def wordLengths (lengthCode : Huffman) (count : Nat) : Unpack (List Nat) := do
  go count #[]
where
  /-- At most so many steps. -/
  go : Nat → Array Nat → Unpack (List Nat)
    | 0, found => do
      Unpack.require (found.size = count)
      return found.toList
    | steps + 1, found => do
      if count ≤ found.size then
        Unpack.require (found.size = count)
        return found.toList
      else
        let symbol ← lengthCode.read
        if symbol < 16 then go steps (found.push symbol)
        else if symbol = 16 then
          match found.back? with
          | none => Unpack.malformed
          | some previous =>
            go steps (found ++ Array.replicate (3 + (← Unpack.bits 2)) previous)
        else if symbol = 17 then
          go steps (found ++ Array.replicate (3 + (← Unpack.bits 3)) 0)
        else go steps (found ++ Array.replicate (11 + (← Unpack.bits 7)) 0)

def blockCodes : Unpack Codes := do
  let literals := 257 + (← Unpack.bits 5)
  let distances := 1 + (← Unpack.bits 5)
  let count := 4 + (← Unpack.bits 4)
  Unpack.require (literals ≤ 286 && distances ≤ 30)
  let given ← Unpack.collect (Unpack.bits 3) count #[]
  let lengthCode ← code ((List.range 19).map fun symbol =>
    given[lengthOrder.idxOf symbol]?.getD 0)
  let all ← wordLengths lengthCode (literals + distances)
  return { literal := ← code (all.take literals), distance := ← code (all.drop literals) }

/-- Unpack one symbol of a block; whether it was the end of the block. -/
def symbol (codes : Codes) : Unpack Bool := do
  let symbol ← codes.literal.read
  if symbol < 256 then
    Unpack.emit (UInt8.ofNat symbol)
    return false
  else if symbol = 256 then return true
  else
    let length ← value lengths (symbol - 257)
    let distance ← value distances (← codes.distance.read)
    Unpack.copyBack distance length
    return false

def stored : Unpack Unit := do
  Unpack.align
  let size ← Unpack.littleEndian 2
  let complement ← Unpack.littleEndian 2
  Unpack.require (size + complement = 0xFFFF)
  Unpack.emitBytes size

/-- Unpack a block; whether it was the last one. -/
def block : Unpack Bool := do
  let last ← Unpack.bits 1
  match ← Unpack.bits 2 with
  | 0 => stored
  | 1 => Unpack.untilDone (symbol fixedCodes)
  | 2 => do
    let codes ← blockCodes
    Unpack.untilDone (symbol codes)
  | _ => Unpack.malformed
  return last = 1

def inflate : Unpack Unit := Unpack.untilDone block

/-- The most bytes in a block of bytes as they are. -/
def storedLimit : Nat := 0xFFFF

/-- Deflated data with the given content, as blocks of bytes as they are. -/
def store (content : List UInt8) : List UInt8 :=
  let size := Nat.min content.length storedLimit
  let rest := content.drop storedLimit
  let last := content.length ≤ storedLimit
  (if last then 1 else 0) :: lowBytes 2 size ++ lowBytes 2 (0xFFFF - size) ++ content.take storedLimit ++
    if last then [] else store rest
termination_by content.length
decreasing_by simp_all [storedLimit]; omega

end Tabular.Deflate
