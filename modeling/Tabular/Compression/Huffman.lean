import Tabular.Compression.Unpacking

/-!
# Huffman codes

A code is a binary tree with symbols at its leaves. A canonical code is given by the length of each
symbol's word: words are handed out from left to right, shorter ones first and among equal ones in
the order of the symbols.
-/

set_option autoImplicit false

namespace Tabular

inductive Huffman where
  | none
  | symbol (value : Nat)
  | branch (zero one : Huffman)
deriving Repr, Inhabited

namespace Huffman

/-- Hand out words below a node at a depth, to symbols that are in order and have words at least as
long; and the symbols for which no word was left. -/
def assign (depth : Nat) : Nat → List (Nat × Nat) → Huffman × List (Nat × Nat)
  | _, [] => (none, [])
  | levels, (length, value) :: rest =>
    if length = depth then (symbol value, rest)
    else
      match levels with
      | 0 => (none, (length, value) :: rest)
      | levels + 1 =>
        let (zero, rest) := assign (depth + 1) levels ((length, value) :: rest)
        let (one, rest) := assign (depth + 1) levels rest
        (branch zero one, rest)

/-- The lengths of words with their symbols, in the order in which words are handed out. A symbol
with length zero has no word. -/
def inOrder (lengths : List Nat) : List (Nat × Nat) :=
  (lengths.zipIdx.filter fun entry => entry.1 != 0).mergeSort fun a b => decide (a.1 ≤ b.1)

/-- The canonical code with words of the given lengths, and whether there were words for all
symbols. -/
def ofLengths (lengths : List Nat) : Huffman × Bool :=
  let (code, left) := assign 0 (lengths.foldl Nat.max 0) (inOrder lengths)
  (code, left.isEmpty)

def mirror : Huffman → Huffman
  | branch zero one => branch one.mirror zero.mirror
  | other => other

/-- Whether every sequence of bits begins with a word. -/
def isComplete : Huffman → Bool
  | none => false
  | symbol _ => true
  | branch zero one => zero.isComplete && one.isComplete

def read : Huffman → Unpack Nat
  | none => Unpack.malformed
  | symbol value => return value
  | branch zero one => do
    if (← Unpack.bit) = 0 then zero.read else one.read

end Huffman

end Tabular
