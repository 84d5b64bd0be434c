import Tabular.Source.Input
import Tabular.Source.Options
import Tabular.Text.Blank

/-!
# Aligned columns

Text whose columns are aligned by blanks. A boundary is the first position between two words of the
first line that is blank, or past the end, in all of the sampled lines. Words without such a
position between them share a column.
-/

set_option autoImplicit false

namespace Tabular.Aligned

/-- The least number of lines to sample. -/
def sampleSize : Nat := 1000

def tabWidth : Nat := 8

/-- A line, in reverse, with every tab replaced by spaces up to the next tab stop. -/
def expandTabsOnto : List Char → Nat → List Char → List Char
  | line, _, [] => line
  | line, column, c :: rest =>
    if c == '\t' then
      let pad := tabWidth - column % tabWidth
      expandTabsOnto (List.replicate pad ' ' ++ line) (column + pad) rest
    else expandTabsOnto (c :: line) (column + 1) rest

/-- A line with every tab replaced by spaces up to the next tab stop. -/
def expandTabs (text : List Char) : List Char :=
  (expandTabsOnto [] 0 text).reverse

/-- The lines that are not blank, tabs expanded. -/
def lines : Feed (List UInt8) → Feed (List Char)
  | [] => []
  | .error failure :: rest => .error failure :: lines rest
  | .ok line :: rest =>
    let text := Text.trimLineEnd (Utf8.decodeLossy line)
    if (Text.trim text).isEmpty then lines rest else .ok (expandTabs text) :: lines rest

/-- The words of a text that stands at the given position: the start of each and the position after
its end. `open?` is the start of the word that the text continues. -/
def wordSpansFrom (position : Nat) (open? : Option Nat) : List Char → List (Nat × Nat)
  | [] =>
    match open? with
    | some start => [(start, position)]
    | none => []
  | c :: rest =>
    match Text.isBlank c, open? with
    | false, none => wordSpansFrom (position + 1) (some position) rest
    | true, some start => (start, position) :: wordSpansFrom (position + 1) none rest
    | _, _ => wordSpansFrom (position + 1) open? rest

def wordSpans (line : List Char) : List (Nat × Nat) :=
  wordSpansFrom 0 none line

/-- Whether a position is blank or past the end in every line. -/
def isGap (sample : List (List Char)) (position : Nat) : Bool :=
  sample.all fun text => match text[position]? with
    | some c => Text.isBlank c
    | none => true

def gaps (words : List (Nat × Nat)) : List (Nat × Nat) :=
  (words.zip words.tail).map fun (left, right) => (left.2, right.1)

/-- The first position of a gap that is blank in every line. -/
def boundary? (sample : List (List Char)) (gap : Nat × Nat) : Option Nat :=
  (List.range' gap.1 (gap.2 - gap.1)).find? (isGap sample)

def boundaries (first : List Char) (sample : List (List Char)) : List Nat :=
  (gaps (wordSpans first)).filterMap (boundary? sample)

/-- The text between two positions of a line, without the blanks around it. A position past the end
stands for the end. -/
def cut (line : List Char) (start stop : Nat) : String :=
  String.ofList (Text.trim ((line.drop start).take (Nat.max stop start - start)))

/-- Cut a line at the given positions. The last cell takes the rest of the line. -/
def cutFrom (line : List Char) (start : Nat) : List Nat → List String
  | [] => [cut line start line.length]
  | stop :: rest => cut line start stop :: cutFrom line (Nat.min (Nat.max stop start) line.length) rest

def cells (boundaries : List Nat) (line : List Char) : List String :=
  cutFrom line 0 boundaries

def row (null : Option String) (boundaries : List Nat) (line : List Char) : Row :=
  (cells boundaries line).map fun text => (Cell.text text).nullIf null

/-- A source of aligned columns. The boundaries are found in a sample, from which the header and the
rows read ahead are taken; the rest of the sample comes before the lines that follow it. -/
def source (options : ReadOptions) (input : Input) : Result Source := do
  let feed ← Feed.discard options.skip (lines input.lines)
  let (sample, feed) ← Feed.take (Nat.max sampleSize options.ahead) feed
  match sample with
  | [] => .ok (.table none [] [])
  | first :: others =>
    let boundaries := boundaries first sample
    let (names, body) :=
      if options.header then (headerNames [] (cells boundaries first), others)
      else ((List.range (boundaries.length + 1)).map positionalName, sample)
    let row := row options.null boundaries
    .ok (.table (some ⟨names, defaultTypes names.length⟩) ((body.take options.ahead).map row)
      (options.liveRows ((body.drop options.ahead).map (fun line => .ok (row line)) ++
        Feed.map row feed)))

end Tabular.Aligned
