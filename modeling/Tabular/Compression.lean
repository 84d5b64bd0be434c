import Tabular.Compression.Bzip2
import Tabular.Compression.Gzip
import Tabular.Compression.Lz4
import Tabular.Compression.Xz
import Tabular.Compression.Zstd
import Tabular.Format
import Tabular.Source.Input

/-!
# Compression

The kinds of compression, how compressed bytes are told from others, and reading and writing them.
Bytes that begin like compressed ones but have a broken header are taken as they are.
-/

set_option autoImplicit false

namespace Tabular

inductive Compression where
  | gzip
  | bzip2
  | zstd
  | lz4
  | xz
deriving DecidableEq, Repr, Inhabited

namespace Compression

def name : Compression → String
  | gzip => "gzip"
  | bzip2 => "bzip2"
  | zstd => "zstd"
  | lz4 => "lz4"
  | xz => "xz"

/-- The kind that an ending in lower-case letters stands for. -/
def ofExtension? : String → Option Compression
  | "gz" => some gzip
  | "bz2" => some bzip2
  | "zst" => some zstd
  | "lz4" => some lz4
  | "xz" => some xz
  | _ => none

/-- The kind with a name in lower-case letters, which may be an ending. -/
def named? (name : String) : Option Compression :=
  ([gzip, bzip2, zstd].find? fun kind => kind.name == name) <|> ofExtension? name

/-- The kind with a name, in any case of letters. -/
def parse (name : String) : Result Compression :=
  match named? (Ascii.lower name) with
  | some kind => .ok kind
  | none => .error (.unknownFormat name)

/-- The last part of a path that is not empty or a dot, without the separators around it. There is
none if that part leads upwards. -/
def lastPart? (path : List Char) : Option (List Char) :=
  match ((Text.splitAt '/' path).filter fun part => part != [] && part != ['.']).getLast? with
  | some ['.', '.'] => none
  | part => part

/-- The kind that the last ending of a file name stands for. A name that only starts with a dot has
no ending. -/
def ofPath? (path : String) : Option Compression :=
  match (lastPart? path.toList).bind (Format.splitLast? '.') with
  | some (_ :: _, extension) => ofExtension? (Ascii.lower (String.ofList extension))
  | _ => none

def magic : Compression → List UInt8
  | gzip => [0x1F, 0x8B, 0x08]
  | bzip2 => [0x42, 0x5A, 0x68]
  | zstd => [0x28, 0xB5, 0x2F, 0xFD]
  | lz4 => [0x04, 0x22, 0x4D, 0x18]
  | xz => [0xFD, 0x37, 0x7A, 0x58, 0x5A, 0x00, 0x00]

def detect? (bytes : List UInt8) : Option Compression :=
  [gzip, bzip2, zstd, lz4, xz].find? fun kind => kind.magic.isPrefixOf bytes

def headSize : Nat := 8192

def succeeds (step : Unpack Unit) (bytes : List UInt8) : Bool :=
  match step { packed := ByteArray.mk bytes.toArray } with
  | .ok _ _ => true
  | .error _ _ => false

/-- Whether the header at the start of bytes is a good one, as far as that is looked at. -/
def hasHeader (kind : Compression) (bytes : List UInt8) : Bool :=
  match kind with
  | gzip => succeeds Gzip.header (bytes.take headSize)
  | bzip2 => (bytes[3]?).any fun level => 0x31 ≤ level && level ≤ 0x39
  | _ => true

def unpacking : Compression → Unpack Unit
  | gzip => Gzip.unpack
  | bzip2 => Bzip2.unpack
  | zstd => Zstd.unpack
  | lz4 => Lz4.unpack
  | xz => Xz.unpack

/-- The order of the bits of a kind. -/
def bitOrder : Compression → BitOrder
  | bzip2 => .highFirst
  | _ => .lowFirst

/-- The content of compressed bytes, up to a fault. -/
def unpack (kind : Compression) (bytes : List UInt8) : Input :=
  match kind.unpacking { packed := ByteArray.mk bytes.toArray, order := kind.bitOrder } with
  | .ok _ u => { bytes := u.output.toList }
  | .error .truncated u => { bytes := u.output.toList, intact := false }
  | .error .malformed u => { bytes := u.output.toList.take u.settled, intact := false }

/-- What is read of bytes: their content if they are compressed. -/
def read (bytes : List UInt8) : Input :=
  match detect? bytes with
  | some kind => if kind.hasHeader bytes then kind.unpack bytes else { bytes := bytes }
  | none => { bytes := bytes }

def pack : Compression → List UInt8 → List UInt8
  | gzip => Gzip.pack
  | bzip2 => Bzip2.pack
  | zstd => Zstd.pack
  | lz4 => Lz4.pack
  | xz => Xz.pack

/-- Bytes as they are written: compressed, if wanted. -/
def write (kind : Option Compression) (content : List UInt8) : List UInt8 :=
  match kind with
  | some kind => kind.pack content
  | none => content

end Compression

end Tabular
