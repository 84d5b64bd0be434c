import Tabular.Compression.Checksum
import Tabular.Compression.Deflate

/-!
# Gzip

Members one after the other, each a header, deflated data, and a checksum and the size of what they
unpack to.
-/

set_option autoImplicit false

namespace Tabular.Gzip

structure Flags where
  headerCheck : Bool
  extra : Bool
  name : Bool
  comment : Bool

/-- Read flags. The upper three bits are reserved and must be zero. -/
def flags : Unpack Flags := do
  let bits := (← Unpack.byte).toNat
  Unpack.require (bits < 0x20)
  return { headerCheck := bits.testBit 1, extra := bits.testBit 2, name := bits.testBit 3,
           comment := bits.testBit 4 }

def passText : Unpack Unit := Unpack.untilDone do
  return (← Unpack.byte) == 0

def header : Unpack Unit := do
  let start := (← get).position / 8
  Unpack.require ((← Unpack.byte) == 0x1F)
  Unpack.require ((← Unpack.byte) == 0x8B)
  Unpack.require ((← Unpack.byte) == 0x08)
  let flags ← flags
  Unpack.skip 6
  if flags.extra then Unpack.skip (← Unpack.littleEndian 2)
  if flags.name then passText
  if flags.comment then passText
  if flags.headerCheck then
    let u ← get
    let sum := Checksum.crc32 u.packed start (u.position / 8)
    Unpack.require ((← Unpack.littleEndian 2) = sum.toNat % 0x10000)

def trailer : Unpack Unit := do
  Unpack.align
  let sum ← Unpack.littleEndian 4
  let size ← Unpack.littleEndian 4
  let u ← get
  Unpack.require (sum = (Checksum.crc32 u.output u.windowStart u.output.size).toNat &&
    size = (u.output.size - u.windowStart) % 0x100000000)

def body : Unpack Unit := do
  Unpack.openWindow
  Deflate.inflate
  Unpack.settle
  trailer

/-- Unpack all members. -/
def unpack : Unpack Unit := Unpack.untilDone do
  header
  body
  Unpack.atEnd

def pack (content : List UInt8) : List UInt8 :=
  let bytes := ByteArray.mk content.toArray
  [0x1F, 0x8B, 0x08, 0, 0, 0, 0, 0, 0, 0xFF] ++ Deflate.store content ++
    lowBytes 4 (Checksum.crc32 bytes 0 bytes.size).toNat ++ lowBytes 4 content.length

end Tabular.Gzip
