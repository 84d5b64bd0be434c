import Tabular.Compression.Checksum
import Tabular.Compression.Zstd.Entropy

/-!
# Zstandard

Frames one after the other. A frame is a header, blocks, and an optional checksum. A block holds bytes
as they are, one byte many times, or literal bytes and sequences, each of which takes some of these
bytes and refers to bytes before them.
-/

set_option autoImplicit false

namespace Tabular.Zstd

structure Memory where
  literals : Option Huffman := none
  /-- The last tables for lengths of literals, offsets and lengths of matches. -/
  literalLengths : Option Table := none
  offsets : Option Table := none
  matchLengths : Option Table := none
  recent : Nat × Nat × Nat := (1, 4, 8)

/-- The least value and the number of additional bits of the symbols for lengths of literals. -/
def literalLengthValues : List (Nat × Nat) :=
  (List.range 16).map (·, 0) ++
    [(16, 1), (18, 1), (20, 1), (22, 1), (24, 2), (28, 2), (32, 3), (40, 3), (48, 4), (64, 6), (128, 7),
      (256, 8), (512, 9), (1024, 10), (2048, 11), (4096, 12), (8192, 13), (16384, 14), (32768, 15),
      (65536, 16)]

/-- The least value and the number of additional bits of the symbols for lengths of matches. -/
def matchLengthValues : List (Nat × Nat) :=
  (List.range 32).map (fun symbol => (symbol + 3, 0)) ++
    [(35, 1), (37, 1), (39, 1), (41, 1), (43, 2), (47, 2), (51, 3), (59, 3), (67, 4), (83, 4), (99, 5),
      (131, 7), (259, 8), (515, 9), (1027, 10), (2051, 11), (4099, 12), (8195, 13), (16387, 14),
      (32771, 15), (65539, 16)]

/-- The tables that need not be given. -/
def standardLiteralLengths : Table :=
  .ofShares 6 [4, 3, 2, 2, 2, 2, 2, 2, 2, 2, 2, 2, 2, 1, 1, 1, 2, 2, 2, 2, 2, 2, 2, 2, 2, 3, 2, 1, 1, 1, 1,
    1, -1, -1, -1, -1]

def standardMatchLengths : Table :=
  .ofShares 6 [1, 4, 3, 2, 2, 2, 2, 2, 2, 1, 1, 1, 1, 1, 1, 1, 1, 1, 1, 1, 1, 1, 1, 1, 1, 1, 1, 1, 1, 1, 1,
    1, 1, 1, 1, 1, 1, 1, 1, 1, 1, 1, 1, 1, 1, 1, -1, -1, -1, -1, -1, -1, -1]

def standardOffsets : Table :=
  .ofShares 5 [1, 1, 1, 1, 1, 1, 2, 2, 2, 1, 1, 1, 1, 1, 1, 1, 1, 1, 1, 1, 1, 1, 1, 1, -1, -1, -1, -1, -1]

/-- The most bytes in a block. -/
def blockLimit : Nat := 0x20000

/-! ## Literals -/

/-- Read so many symbols and no more bits than these take. -/
def decode (code : Huffman) : Nat → Backward → ByteArray → Unpack ByteArray
  | 0, b, found => do
    Unpack.require b.isSpent
    return found
  | count + 1, b, found =>
    match b.symbol? code with
    | none => Unpack.malformed
    | some (symbol, b) => decode code count b (found.push (UInt8.ofNat symbol))

def stream (code : Huffman) (size count : Nat) (found : ByteArray) : Unpack ByteArray := do
  let u ← get
  let start := u.position / 8
  Unpack.skip size
  match Backward.ofBytes? u.packed start (start + size) with
  | none => Unpack.malformed
  | some b => decode code count b found

/-- Read literals in a Huffman code, in one stream or four. -/
def streams (code : Huffman) (four : Bool) (size count : Nat) : Unpack ByteArray := do
  if four then
    let first ← Unpack.littleEndian 2
    let second ← Unpack.littleEndian 2
    let third ← Unpack.littleEndian 2
    let share := (count + 3) / 4
    Unpack.require (first + second + third + 6 ≤ size && 3 * share ≤ count)
    let found ← stream code first share .empty
    let found ← stream code second share found
    let found ← stream code third share found
    stream code (size - 6 - first - second - third) (count - 3 * share) found
  else stream code size count .empty

def literals (memory : Memory) : Unpack (ByteArray × Memory) := do
  let kind ← Unpack.bits 2
  let form ← Unpack.bits 2
  if kind < 2 then
    -- The second bit of the form belongs to the size if the first is zero.
    let size ← match form with
      | 1 => Unpack.bits 12
      | 3 => Unpack.bits 20
      | _ => do pure (form / 2 + 2 * (← Unpack.bits 4))
    Unpack.require (size ≤ blockLimit)
    if kind = 0 then
      let bytes ← Unpack.collect Unpack.byte size #[]
      return (ByteArray.mk bytes, memory)
    else
      let b ← Unpack.byte
      return (ByteArray.mk (Array.replicate size b), memory)
  else
    let width := match form with
      | 2 => 14
      | 3 => 18
      | _ => 10
    let count ← Unpack.bits width
    let size ← Unpack.bits width
    Unpack.require (count ≤ blockLimit)
    let start := (← get).position
    let code ← if kind = 2 then huffman else
      match memory.literals with
      | none => Unpack.malformed
      | some code => pure code
    let used := ((← get).position - start) / 8
    Unpack.require (used ≤ size)
    let bytes ← streams code (form != 0) (size - used) count
    return (bytes, { memory with literals := some code })

/-! ## Sequences -/

/-- Read a table as a mode says: the standard one, one for a single symbol, a new one, or the last
one. -/
def chosenTable (mode : Nat) (standard : Table) (limit symbols : Nat) (last : Option Table) :
    Unpack Table := do
  match mode with
  | 0 => return standard
  | 1 => do
    let symbol := (← Unpack.byte).toNat
    Unpack.require (symbol < symbols)
    return .constant symbol
  | 2 => table limit symbols
  | _ =>
    match last with
    | none => Unpack.malformed
    | some table => return table

/-- An offset by its number: the first three numbers stand for recent offsets, which are counted from
the second one behind no literals. -/
def offsetOf? (number literalLength : Nat) : Nat × Nat × Nat → Option (Nat × (Nat × Nat × Nat))
  | (first, second, third) =>
    if 3 < number then some (number - 3, (number - 3, first, second))
    else
      match number + if literalLength = 0 then 1 else 0 with
      | 1 => some (first, (first, second, third))
      | 2 => some (second, (second, first, third))
      | 3 => some (third, (third, first, second))
      | _ => if first ≤ 1 then none else some (first - 1, (first - 1, first, second))

structure Reading where
  literalLength : State
  offset : State
  matchLength : State
  source : Backward
  recent : Nat × Nat × Nat
  taken : Nat := 0

def emitLiterals (literals : ByteArray) (start count : Nat) : Unpack Unit := do
  Unpack.require (start + count ≤ literals.size)
  modify fun u => { u with output := u.output ++ literals.extract start (start + count) }

def sequence (literals : ByteArray) (r : Reading) : Unpack Reading := do
  match literalLengthValues[r.literalLength.symbol]?, matchLengthValues[r.matchLength.symbol]? with
  | some (leastLiteral, literalBits), some (leastMatch, matchBits) =>
    let (low, source) := r.source.bits r.offset.symbol
    let (extraMatch, source) := source.bits matchBits
    let (extraLiteral, source) := source.bits literalBits
    let literalLength := leastLiteral + extraLiteral
    match offsetOf? (Nat.pow 2 r.offset.symbol + low) literalLength r.recent with
    | none => Unpack.malformed
    | some (offset, recent) =>
      emitLiterals literals r.taken literalLength
      Unpack.copyBack offset (leastMatch + extraMatch)
      return { r with source := source, recent := recent, taken := r.taken + literalLength }
  | _, _ => Unpack.malformed

/-- Unpack a number of sequences, in the states that the tables give. -/
def sequences (literalLengths offsets matchLengths : Table) (literals : ByteArray) :
    Nat → Reading → Unpack Reading
  | 0, r => return r
  | 1, r => do
    let r ← sequence literals r
    Unpack.require r.source.isSpent
    return r
  | count + 1, r => do
    let r ← sequence literals r
    let (literalLength, source) := literalLengths.step r.literalLength r.source
    let (matchLength, source) := matchLengths.step r.matchLength source
    let (offset, source) := offsets.step r.offset source
    Unpack.require (!source.isOverdrawn)
    sequences literalLengths offsets matchLengths literals count
      { r with literalLength := literalLength, matchLength := matchLength, offset := offset
               source := source }

def sequenceCount : Unpack Nat := do
  let first := (← Unpack.byte).toNat
  if first < 128 then return first
  else if first < 255 then return (first - 128) * 256 + (← Unpack.byte).toNat
  else return (← Unpack.littleEndian 2) + 0x7F00

def packedBlock (memory : Memory) (stop : Nat) : Unpack Memory := do
  let (literals, memory) ← literals memory
  let count ← sequenceCount
  if count = 0 then
    Unpack.require ((← get).position = 8 * stop)
    emitLiterals literals 0 literals.size
    return memory
  else
    let modes := (← Unpack.byte).toNat
    Unpack.require (modes % 4 = 0)
    let literalLengths ←
      chosenTable (modes / 64) standardLiteralLengths 9 36 memory.literalLengths
    let offsets ← chosenTable (modes / 16 % 4) standardOffsets 8 32 memory.offsets
    let matchLengths ← chosenTable (modes / 4 % 4) standardMatchLengths 9 53 memory.matchLengths
    let u ← get
    match Backward.ofBytes? u.packed (u.position / 8) stop with
    | none => Unpack.malformed
    | some source =>
      let (literalLength, source) := literalLengths.start source
      let (offset, source) := offsets.start source
      let (matchLength, source) := matchLengths.start source
      let r ← sequences literalLengths offsets matchLengths literals count
        { literalLength := literalLength, offset := offset, matchLength := matchLength
          source := source, recent := memory.recent }
      emitLiterals literals r.taken (literals.size - r.taken)
      modify fun u => { u with position := 8 * stop }
      return { memory with
        literalLengths := some literalLengths
        offsets := some offsets
        matchLengths := some matchLengths
        recent := r.recent }

/-! ## Frames -/

structure Header where
  contentSize : Option Nat
  hasCheck : Bool
  /-- The most bytes in a block. -/
  blockLimit : Nat

def header : Unpack Header := do
  let descriptor := (← Unpack.byte).toNat
  Unpack.require (!descriptor.testBit 3)
  let single := descriptor.testBit 5
  let window ← if single then pure none else do
    let b := (← Unpack.byte).toNat
    let base := Nat.pow 2 (10 + b / 8)
    pure (some (base + base / 8 * (b % 8)))
  let dictionary ← Unpack.littleEndian (Nat.pow 2 (descriptor % 4) / 2)
  Unpack.require (dictionary = 0)
  let content ← match descriptor / 64 with
    | 0 => if single then pure (some (← Unpack.littleEndian 1)) else pure none
    | 1 => pure (some ((← Unpack.littleEndian 2) + 256))
    | 2 => pure (some (← Unpack.littleEndian 4))
    | _ => pure (some (← Unpack.littleEndian 8))
  let window := window.getD (content.getD 0)
  Unpack.require (window ≤ Nat.pow 2 27)
  return { contentSize := content, hasCheck := descriptor.testBit 2
           blockLimit := Nat.min blockLimit window }

def blocks (header : Header) : Nat → Memory → Unpack Unit
  | 0, _ => Unpack.malformed
  | count + 1, memory => do
    let word ← Unpack.littleEndian 3
    let size := word / 8
    Unpack.require (size ≤ header.blockLimit)
    let packed := if word / 2 % 4 = 1 then 1 else size
    if (← Unpack.remaining) < 8 * packed then throw .truncated
    let memory ← match word / 2 % 4 with
      | 0 => do
        Unpack.emitBytes size
        pure memory
      | 1 => do
        let b ← Unpack.byte
        modify fun u => { u with output := u.output ++ ByteArray.mk (Array.replicate size b) }
        pure memory
      | 2 => packedBlock memory ((← get).position / 8 + size)
      | _ => Unpack.malformed
    if word % 2 = 1 then return () else blocks header count memory

def frame : Unpack Unit := do
  Unpack.openWindow
  let start := (← get).output.size
  let header ← header
  blocks header ((← Unpack.remaining) + 1) {}
  let u ← get
  Unpack.require (header.contentSize.all (· = u.output.size - start))
  if header.hasCheck then
    Unpack.require ((← Unpack.littleEndian 4) =
      (Checksum.xxh64 u.output start u.output.size).toNat % Nat.pow 2 32)

/-- Unpack all frames. Frames with other marks of a range hold nothing that is unpacked. -/
def unpack : Unpack Unit := Unpack.untilDone do
  let mark ← Unpack.littleEndian 4
  if mark = 0xFD2FB528 then frame
  else
    Unpack.require (0x184D2A50 ≤ mark && mark ≤ 0x184D2A5F)
    Unpack.skip (← Unpack.littleEndian 4)
  Unpack.atEnd

def store (content : List UInt8) : List UInt8 :=
  let size := Nat.min content.length blockLimit
  let last := content.length ≤ blockLimit
  lowBytes 3 (8 * size + if last then 1 else 0) ++ content.take blockLimit ++
    if last then [] else store (content.drop blockLimit)
termination_by content.length
decreasing_by simp_all [blockLimit]; omega

/-- A frame with the given content. Its window is as large as a block. -/
def pack (content : List UInt8) : List UInt8 :=
  [0x28, 0xB5, 0x2F, 0xFD, 0x00, 0x38] ++ store content

end Tabular.Zstd
