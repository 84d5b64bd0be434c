import Tabular.Compression.Checksum
import Tabular.Compression.Lzma

/-!
# XZ

Streams one after the other, with zeros between them: a header, blocks, an index of their sizes and
a footer. A block has a header, LZMA2 data, zeros up to a multiple of four bytes, and a check.
-/

set_option autoImplicit false

namespace Tabular.Xz

structure Check where
  kind : Nat
deriving DecidableEq, Repr, Inhabited

def Check.size (check : Check) : Nat :=
  if check.kind = 0 then 0 else 4 * Nat.pow 2 ((check.kind - 1) / 3)

def Check.passes (check : Check) (bytes : ByteArray) (start stop value : Nat) : Bool :=
  match check.kind with
  | 1 => value = (Checksum.crc32 bytes start stop).toNat
  | 4 => value = (Checksum.crc64 bytes start stop).toNat
  | _ => true

def crc32From (start : Nat) : Unpack Unit := do
  let u ← get
  let sum := Checksum.crc32 u.packed start (u.position / 8)
  Unpack.require ((← Unpack.littleEndian 4) = sum.toNat)

def here : Unpack Nat := return (← get).position / 8

/-- Read zeros up to a number of bytes after a position that is a multiple of four. -/
def padding (start : Nat) : Unpack Unit := do
  let count := (4 - ((← here) - start) % 4) % 4
  let bytes ← Unpack.collect Unpack.byte count #[]
  Unpack.require (bytes.all (· == 0))

/-- Read a number in groups of seven bits, the lowest first; each byte but the last has its high bit
set. -/
def number : Unpack Nat := do
  go 9 1
where
  /-- At most so many bytes. -/
  go : Nat → Nat → Unpack Nat
    | 0, _ => Unpack.malformed
    | count + 1, weight => do
      let b := (← Unpack.byte).toNat
      if b < 0x80 then return b * weight
      else return (b - 0x80) * weight + (← go count (128 * weight))

def streamFlags : Unpack Check := do
  Unpack.require ((← Unpack.byte) == 0)
  let kind := (← Unpack.byte).toNat
  Unpack.require (kind < 16)
  return ⟨kind⟩

def header : Unpack Check := do
  Unpack.require ((← Unpack.bigEndian 6) = 0xFD377A585A00)
  let start ← here
  let check ← streamFlags
  crc32From start
  return check

structure Sizes where
  /-- Without the zeros at its end. -/
  packed : Nat
  content : Nat
deriving DecidableEq, Repr, Inhabited

/-- Read the header of a block whose first byte is given. The answer is the sizes that it states. -/
def blockHeader (first : Nat) : Unpack (Option Nat × Option Nat) := do
  let start := (← here) - 1
  let stop := start + 4 * first
  let flags := (← Unpack.byte).toNat
  Unpack.require (flags % 0x40 = 0)
  let packed ← if flags.testBit 6 then pure (some (← number)) else pure none
  let content ← if flags.testBit 7 then pure (some (← number)) else pure none
  Unpack.require ((← number) = 0x21)
  Unpack.require ((← number) = 1)
  Unpack.require ((← Unpack.byte).toNat ≤ 40)
  Unpack.require ((← here) ≤ stop)
  let bytes ← Unpack.collect Unpack.byte (stop - (← here)) #[]
  Unpack.require (bytes.all (· == 0))
  crc32From start
  return (packed, content)

def block (check : Check) (first : Nat) : Unpack Sizes := do
  let start := (← here) - 1
  let (statedPacked, statedContent) ← blockHeader first
  let dataStart ← here
  let outputStart := (← get).output.size
  Lzma.unpack
  let packed := (← here) - dataStart
  let content := (← get).output.size - outputStart
  Unpack.require (statedPacked.all (· = packed) && statedContent.all (· = content))
  padding dataStart
  let value ← Unpack.littleEndian check.size
  let u ← get
  Unpack.require (check.passes u.output outputStart u.output.size value)
  return { packed := dataStart - start + packed + check.size, content := content }

def index (sizes : Array Sizes) : Unpack Unit := do
  let start := (← here) - 1
  Unpack.require ((← number) = sizes.size)
  let found ← Unpack.collect (do return { packed := ← number, content := ← number }) sizes.size #[]
  Unpack.require (found.toList = sizes.toList)
  padding start
  crc32From start

def footer (check : Check) (indexStart : Nat) : Unpack Unit := do
  let start ← here
  let sum ← Unpack.littleEndian 4
  let checked ← here
  let backward ← Unpack.littleEndian 4
  let flags ← streamFlags
  Unpack.require (sum = (Checksum.crc32 (← get).packed checked (checked + 6)).toNat)
  Unpack.require (4 * (backward + 1) = start - indexStart && flags = check)
  Unpack.require ((← Unpack.bigEndian 2) = 0x595A)

def blocks (check : Check) : Nat → Array Sizes → Unpack Unit
  | 0, _ => Unpack.malformed
  | count + 1, sizes => do
    let first := (← Unpack.byte).toNat
    if first = 0 then
      let indexStart := (← here) - 1
      index sizes
      footer check indexStart
    else blocks check count (sizes.push (← block check first))

/-- Pass over zeros between streams, four at a time; whether the input ends there. -/
def gap : Nat → Unpack Bool
  | 0 => Unpack.malformed
  | steps + 1 => do
    if ← Unpack.atEnd then return true
    else
      let u ← get
      if byteAt u.packed (u.position / 8) != 0 then return false
      else
        Unpack.require ((← Unpack.littleEndian 4) = 0)
        gap steps

/-- Unpack all streams. -/
def unpack : Unpack Unit := Unpack.untilDone do
  let check ← header
  blocks check ((← Unpack.remaining) + 1) #[]
  gap ((← Unpack.remaining) + 1)

/-! ## Writing -/

def numberBytes (n : Nat) : List UInt8 :=
  if n < 0x80 then [UInt8.ofNat n]
  else UInt8.ofNat (n % 0x80 + 0x80) :: numberBytes (n / 0x80)
termination_by n
decreasing_by omega

def checked (bytes : List UInt8) : List UInt8 :=
  let whole := ByteArray.mk bytes.toArray
  bytes ++ lowBytes 4 (Checksum.crc32 whole 0 whole.size).toNat

def padded (bytes : List UInt8) : List UInt8 :=
  bytes ++ List.replicate ((4 - bytes.length % 4) % 4) 0

def pack (content : List UInt8) : List UInt8 :=
  let flags : List UInt8 := [0, 1]
  let whole := ByteArray.mk content.toArray
  let blockHeader := checked [2, 0, 0x21, 1, 22, 0, 0, 0]
  let data := Lzma.store true content
  let sizes := numberBytes (blockHeader.length + data.length + 4) ++ numberBytes content.length
  let index := checked (padded ([0, 1] ++ sizes))
  let footer := lowBytes 4 (index.length / 4 - 1) ++ flags
  let sum := Checksum.crc32 (ByteArray.mk footer.toArray) 0 6
  [0xFD, 0x37, 0x7A, 0x58, 0x5A, 0x00] ++ checked flags ++ blockHeader ++ padded data ++
    lowBytes 4 (Checksum.crc32 whole 0 whole.size).toNat ++ index ++ lowBytes 4 sum.toNat ++ footer ++
    [0x59, 0x5A]

end Tabular.Xz
