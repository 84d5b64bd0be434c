import Tabular.Compression.Unpacking

/-!
# Checksums

Cyclic redundancy checks with the low or the high bit first, and the XXH32 and XXH64 hashes, of a
part of a byte array.
-/

set_option autoImplicit false

namespace Tabular.Checksum

/-- Fold a function over the bytes from one position up to another. -/
def foldBytes {α : Type} (step : α → UInt8 → α) (bytes : ByteArray) (start stop : Nat) (seed : α) : α :=
  (List.range (stop - start)).foldl (fun sum i => step sum (byteAt bytes (start + i))) seed

def times {α : Type} (step : α → α) : Nat → α → α
  | 0, value => value
  | count + 1, value => times step count (step value)

/-- Divide by a polynomial of degree 32, low bit first, for one byte. -/
def crc32Step (sum : UInt32) (b : UInt8) : UInt32 :=
  times (fun r => if r &&& 1 == 1 then (r >>> 1) ^^^ 0xEDB88320 else r >>> 1) 8 (sum ^^^ b.toUInt32)

def crc32 (bytes : ByteArray) (start stop : Nat) : UInt32 :=
  foldBytes crc32Step bytes start stop 0xFFFFFFFF ^^^ 0xFFFFFFFF

/-- Divide by a polynomial of degree 64, low bit first, for one byte. -/
def crc64Step (sum : UInt64) (b : UInt8) : UInt64 :=
  times (fun r => if r &&& 1 == 1 then (r >>> 1) ^^^ 0xC96C5795D7870F42 else r >>> 1) 8
    (sum ^^^ b.toUInt64)

def crc64 (bytes : ByteArray) (start stop : Nat) : UInt64 :=
  foldBytes crc64Step bytes start stop 0xFFFFFFFFFFFFFFFF ^^^ 0xFFFFFFFFFFFFFFFF

/-- Divide by the polynomial of the check with 32 bits, high bit first, for one byte. -/
def crc32HighStep (sum : UInt32) (b : UInt8) : UInt32 :=
  times (fun r => if r &&& 0x80000000 != 0 then (r <<< 1) ^^^ 0x04C11DB7 else r <<< 1) 8
    (sum ^^^ (b.toUInt32 <<< 24))

/-- The check with 32 bits, high bit first. -/
def crc32High (bytes : ByteArray) (start stop : Nat) : UInt32 :=
  foldBytes crc32HighStep bytes start stop 0xFFFFFFFF ^^^ 0xFFFFFFFF

/-- The number in a count of bytes from a position on, the lowest one first. -/
def littleEndianAt (bytes : ByteArray) (start : Nat) : Nat → Nat
  | 0 => 0
  | count + 1 => (byteAt bytes start).toNat + 256 * littleEndianAt bytes (start + 1) count

def rotate32 (x : UInt32) (count : UInt32) : UInt32 :=
  x <<< count ||| x >>> (32 - count)

def rotate64 (x : UInt64) (count : UInt64) : UInt64 :=
  x <<< count ||| x >>> (64 - count)

namespace Xxh32

def prime1 : UInt32 := 2654435761
def prime2 : UInt32 := 2246822519
def prime3 : UInt32 := 3266489917
def prime4 : UInt32 := 668265263
def prime5 : UInt32 := 374761393

def round (sum lane : UInt32) : UInt32 :=
  rotate32 (sum + lane * prime2) 13 * prime1

/-- The four sums after all stripes of sixteen bytes. -/
def stripes (bytes : ByteArray) (start count : Nat) : UInt32 × UInt32 × UInt32 × UInt32 :=
  (List.range count).foldl (fun (a, b, c, d) i =>
    let lane := fun k => UInt32.ofNat (littleEndianAt bytes (start + 16 * i + 4 * k) 4)
    (round a (lane 0), round b (lane 1), round c (lane 2), round d (lane 3)))
    (prime1 + prime2, prime2, 0, 0 - prime1)

def finish (sum : UInt32) : UInt32 :=
  let sum := (sum ^^^ (sum >>> 15)) * prime2
  let sum := (sum ^^^ (sum >>> 13)) * prime3
  sum ^^^ (sum >>> 16)

end Xxh32

def xxh32 (bytes : ByteArray) (start stop : Nat) : UInt32 :=
  let size := stop - start
  let whole := size / 16
  let sum := if whole = 0 then Xxh32.prime5
    else
      let (a, b, c, d) := Xxh32.stripes bytes start whole
      rotate32 a 1 + rotate32 b 7 + rotate32 c 12 + rotate32 d 18
  let sum := sum + UInt32.ofNat size
  let words := size % 16 / 4
  let sum := (List.range words).foldl (fun sum i =>
    let lane := UInt32.ofNat (littleEndianAt bytes (start + 16 * whole + 4 * i) 4)
    rotate32 (sum + lane * Xxh32.prime3) 17 * Xxh32.prime4) sum
  let sum := foldBytes (fun sum b => rotate32 (sum + b.toUInt32 * Xxh32.prime5) 11 * Xxh32.prime1)
    bytes (start + 16 * whole + 4 * words) stop sum
  Xxh32.finish sum

namespace Xxh64

def prime1 : UInt64 := 11400714785074694791
def prime2 : UInt64 := 14029467366897019727
def prime3 : UInt64 := 1609587929392839161
def prime4 : UInt64 := 9650029242287828579
def prime5 : UInt64 := 2870177450012600261

def round (sum lane : UInt64) : UInt64 :=
  rotate64 (sum + lane * prime2) 31 * prime1

/-- The four sums after all stripes of thirty-two bytes. -/
def stripes (bytes : ByteArray) (start count : Nat) : UInt64 × UInt64 × UInt64 × UInt64 :=
  (List.range count).foldl (fun (a, b, c, d) i =>
    let lane := fun k => UInt64.ofNat (littleEndianAt bytes (start + 32 * i + 8 * k) 8)
    (round a (lane 0), round b (lane 1), round c (lane 2), round d (lane 3)))
    (prime1 + prime2, prime2, 0, 0 - prime1)

/-- Take one of the four sums into the whole. -/
def merge (sum lane : UInt64) : UInt64 :=
  (sum ^^^ round 0 lane) * prime1 + prime4

def finish (sum : UInt64) : UInt64 :=
  let sum := (sum ^^^ (sum >>> 33)) * prime2
  let sum := (sum ^^^ (sum >>> 29)) * prime3
  sum ^^^ (sum >>> 32)

end Xxh64

def xxh64 (bytes : ByteArray) (start stop : Nat) : UInt64 :=
  let size := stop - start
  let whole := size / 32
  let sum := if whole = 0 then Xxh64.prime5
    else
      let (a, b, c, d) := Xxh64.stripes bytes start whole
      let sum := rotate64 a 1 + rotate64 b 7 + rotate64 c 12 + rotate64 d 18
      [a, b, c, d].foldl Xxh64.merge sum
  let sum := sum + UInt64.ofNat size
  let longs := size % 32 / 8
  let sum := (List.range longs).foldl (fun sum i =>
    let lane := UInt64.ofNat (littleEndianAt bytes (start + 32 * whole + 8 * i) 8)
    rotate64 (sum ^^^ Xxh64.round 0 lane) 27 * Xxh64.prime1 + Xxh64.prime4) sum
  let start := start + 32 * whole + 8 * longs
  let words := (stop - start) / 4
  let sum := (List.range words).foldl (fun sum i =>
    let lane := UInt64.ofNat (littleEndianAt bytes (start + 4 * i) 4)
    rotate64 (sum ^^^ (lane * Xxh64.prime1)) 23 * Xxh64.prime2 + Xxh64.prime3) sum
  let sum := foldBytes (fun sum b => rotate64 (sum ^^^ (b.toUInt64 * Xxh64.prime5)) 11 * Xxh64.prime1)
    bytes (start + 4 * words) stop sum
  Xxh64.finish sum

end Tabular.Checksum
