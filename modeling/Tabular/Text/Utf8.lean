/-!
# UTF-8

Reading and writing UTF-8. One step reads the scalar value at the head of a byte string or the
longest ill-formed start of one, so strict and lossy decoding share their rule: strict decoding
refuses an ill-formed start, lossy decoding puts one replacement character in its place.
-/

set_option autoImplicit false

namespace Tabular.Utf8

def encodeChar (c : Char) : List UInt8 :=
  String.utf8EncodeChar c

def encode (text : List Char) : List UInt8 :=
  text.flatMap encodeChar

def bytes (text : String) : List UInt8 :=
  encode text.toList

def within (low high b : UInt8) : Bool :=
  low ≤ b && b ≤ high

def payload (b : UInt8) : Nat :=
  b.toNat % 64

/-- The range that the second byte of a sequence must lie in, given a first byte that starts a
sequence of several bytes, and the number of bytes that follow the second one. -/
def secondByte? (lead : UInt8) : Option (UInt8 × UInt8 × Nat) :=
  if within 0xC2 0xDF lead then some (0x80, 0xBF, 0)
  else if lead == 0xE0 then some (0xA0, 0xBF, 1)
  else if lead == 0xED then some (0x80, 0x9F, 1)
  else if within 0xE1 0xEF lead then some (0x80, 0xBF, 1)
  else if lead == 0xF0 then some (0x90, 0xBF, 2)
  else if within 0xF1 0xF3 lead then some (0x80, 0xBF, 2)
  else if lead == 0xF4 then some (0x80, 0x8F, 2)
  else none

/-- Read `count` continuation bytes onto the value read so far. The value is missing when one of
them is ill-formed; the bytes before it have then been consumed. -/
def continuation : Nat → Nat → List UInt8 → Option Nat × List UInt8
  | 0, value, rest => (some value, rest)
  | _ + 1, _, [] => (none, [])
  | count + 1, value, b :: rest =>
    if within 0x80 0xBF b then continuation count (value * 64 + payload b) rest
    else (none, b :: rest)

/-- The value of a first byte without its length mark. -/
def leadValue (lead : UInt8) : Nat :=
  if lead < 0xE0 then lead.toNat % 32 else if lead < 0xF0 then lead.toNat % 16 else lead.toNat % 8

/-- Read one character whose first byte is `lead`. The character is missing when the bytes are
ill-formed; the longest start that could have begun a character has then been consumed. -/
def next (lead : UInt8) (rest : List UInt8) : Option Char × List UInt8 :=
  if lead < 0x80 then (some (Char.ofNat lead.toNat), rest)
  else
    match secondByte? lead, rest with
    | some (low, high, more), b :: tail =>
      if within low high b then
        match continuation more (leadValue lead * 64 + payload b) tail with
        | (some value, remaining) => (some (Char.ofNat value), remaining)
        | (none, remaining) => (none, remaining)
      else (none, b :: tail)
    | _, _ => (none, rest)

theorem continuation_length_le (count value : Nat) (rest : List UInt8) :
    (continuation count value rest).2.length ≤ rest.length := by
  induction rest generalizing count value with
  | nil => cases count <;> simp [continuation]
  | cons b rest ih =>
    cases count with
    | zero => simp [continuation]
    | succ count =>
      simp only [continuation]
      split
      · exact Nat.le_succ_of_le (ih _ _)
      · simp

/-- Reading one character leaves at most the bytes after its first one. -/
theorem next_length_le (lead : UInt8) (rest : List UInt8) :
    (next lead rest).2.length ≤ rest.length := by
  unfold next
  split
  · simp
  · split
    · split
      · rename_i more b tail _ _
        have bound := continuation_length_le more (leadValue lead * 64 + payload b) tail
        split <;> simp_all <;> omega
      · simp
    · simp

/-- The characters of a byte string, in reverse after `read`; missing when it is not UTF-8. -/
def decodeOnto? (read : List Char) (input : List UInt8) : Option (List Char) :=
  match input with
  | [] => some read.reverse
  | lead :: rest =>
    match _step : next lead rest with
    | (some c, remaining) => decodeOnto? (c :: read) remaining
    | (none, _) => none
termination_by input.length
decreasing_by
  have shorter := next_length_le lead rest
  rw [_step] at shorter
  exact Nat.lt_succ_of_le shorter

/-- The characters of a byte string, or nothing when it is not UTF-8. -/
def decode? (input : List UInt8) : Option (List Char) :=
  decodeOnto? [] input

/-- The characters of a byte string in reverse after `read`, ill-formed starts replaced. -/
def decodeLossyOnto (read : List Char) (input : List UInt8) : List Char :=
  match input with
  | [] => read.reverse
  | lead :: rest =>
    let step := next lead rest
    decodeLossyOnto (step.1.getD '\uFFFD' :: read) step.2
termination_by input.length
decreasing_by
  have := next_length_le lead rest
  simp only [List.length_cons]
  omega

/-- The characters of a byte string, with the replacement character for every ill-formed start. -/
def decodeLossy (input : List UInt8) : List Char :=
  decodeLossyOnto [] input

/-- The string with the given bytes, or nothing when they are not UTF-8. -/
def string? (input : List UInt8) : Option String :=
  (decode? input).map String.ofList

/-- The string with the given bytes, ill-formed starts replaced. -/
def stringLossy (input : List UInt8) : String :=
  String.ofList (decodeLossy input)

end Tabular.Utf8
