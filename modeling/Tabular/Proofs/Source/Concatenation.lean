import Mathlib.Data.List.Basic
import Mathlib.Data.List.TakeWhile
import Tabular.Proofs.Files.Pipe
import Tabular.Proofs.Text.Lines
import Tabular.Source.Aligned
import Tabular.Source.Framed
import Tabular.Source.Labelled

/-!
# Files read as one

The readers of lines pass over blank ones. So the line end behind every file does no more than end a
last line that has none: each file is read as it is alone, but for the numbers of its lines.
-/

set_option autoImplicit false

namespace Tabular

/-! ## Lines of bytes -/

namespace Line

theorem split_of_not_mem {body : List UInt8} (whole : 0x0A ∉ body) (solid : body ≠ []) :
    split body = [⟨body, false⟩] := by
  have none_left : body.dropWhile (· != 0x0A) = [] :=
    List.dropWhile_eq_nil_iff.mpr (Text.forall_ne_of_not_mem whole)
  cases body with
  | nil => exact absurd rfl solid
  | cons b rest =>
      rw [split]
      split
      · rfl
      · rename_i found
        rw [none_left] at found
        cases found

/-- Bytes are a last line, or a line with its line feed and more bytes. -/
theorem induction_on {motive : List UInt8 → Prop} (bytes : List UInt8)
    (last : ∀ body, 0x0A ∉ body → motive body)
    (line : ∀ body rest, 0x0A ∉ body → motive rest → motive (body ++ 0x0A :: rest)) :
    motive bytes := by
  induction size : bytes.length using Nat.strongRecOn generalizing bytes with
  | ind length ih =>
      by_cases feed : 0x0A ∈ bytes
      · obtain ⟨body, rest, rfl, whole⟩ := List.eq_append_cons_of_mem feed
        refine line body rest whole (ih rest.length ?_ rest rfl)
        rw [← size, List.length_append, List.length_cons]
        omega
      · exact last bytes feed

end Line

/-! ## What a reader sees -/

/-- What a reader of lines takes a line for, and which lines it passes over. -/
structure LineView (α : Type) where
  see : List UInt8 → α
  blank : α → Bool

def Labelled.lineView : LineView (List UInt8) where
  see := trimReturns
  blank := isBlank

/-- The lines of framed rows and of aligned columns. -/
def Text.lineView : LineView (List Char) where
  see line := trimLineEnd (Utf8.decodeLossy line)
  blank text := (trim text).isEmpty

namespace LineView

variable {α : Type}

/-- The lines that are not blank, with their numbers. The first of all has the given number. -/
def seen (view : LineView α) : Nat → List Line → List (Nat × α)
  | _, [] => []
  | number, line :: rest =>
    let text := view.see line.body
    if view.blank text then seen view (number + 1) rest
    else (number, text) :: seen view (number + 1) rest

/-- The lines of bytes that are not blank. -/
def texts (view : LineView α) (bytes : List UInt8) : List α :=
  (view.seen 1 (Line.split bytes)).map Prod.snd

variable {view : LineView α}

private theorem seen_of_blank {number : Nat} {line : Line} {lines : List Line}
    (blank : view.blank (view.see line.body) = true) :
    view.seen number (line :: lines) = view.seen (number + 1) lines :=
  if_pos blank

private theorem seen_of_solid {number : Nat} {line : Line} {lines : List Line}
    (solid : view.blank (view.see line.body) = false) :
    view.seen number (line :: lines) =
      (number, view.see line.body) :: view.seen (number + 1) lines :=
  if_neg (Bool.eq_false_iff.mp solid)

/-- Lines further down are seen with higher numbers. -/
theorem seen_add (before number : Nat) (lines : List Line) :
    view.seen (before + number) lines =
      (view.seen number lines).map fun (line, text) => (before + line, text) := by
  induction lines generalizing number with
  | nil => rfl
  | cons line lines ih =>
      rw [seen, seen, Nat.add_assoc, ih]
      split
      · rfl
      · rfl

/-- A line end behind bytes ends their last line and adds no line that is seen. -/
theorem seen_split_append (passed : view.blank (view.see []) = true) (number : Nat)
    (content more : List UInt8) :
    view.seen number (Line.split (content ++ 0x0A :: more)) =
      view.seen number (Line.split content) ++
        view.seen (number + (content.count 0x0A + 1)) (Line.split more) := by
  induction content using Line.induction_on generalizing number with
  | last body whole =>
      rw [Line.split_append whole, List.count_eq_zero_of_not_mem whole]
      by_cases empty : body = []
      · subst empty
        rw [Line.split_nil, seen]
        exact if_pos passed
      · rw [Line.split_of_not_mem whole empty, seen, seen]
        split
        · rfl
        · rfl
  | line body rest whole ih =>
      have count : (body ++ 0x0A :: rest).count 0x0A = rest.count 0x0A + 1 := by
        rw [List.count_append, List.count_eq_zero_of_not_mem whole, List.count_cons_self]
        exact Nat.zero_add _
      have place : number + 1 + (rest.count 0x0A + 1) = number + (rest.count 0x0A + 1 + 1) := by omega
      rw [List.append_assoc, List.cons_append, Line.split_append whole, Line.split_append whole,
        count, seen, seen, ih, place]
      split
      · rfl
      · rfl

end LineView

/-! ## The files of a pattern -/

/-- The contents of files in order, each with the number of lines in front of it. -/
def placed : Nat → List (List UInt8) → List (Nat × List UInt8)
  | _, [] => []
  | before, content :: rest => (before, content) :: placed (before + (content.count 0x0A + 1)) rest

private theorem map_snd_placed (before : Nat) (contents : List (List UInt8)) :
    (placed before contents).map Prod.snd = contents := by
  induction contents generalizing before with
  | nil => rfl
  | cons content contents ih => rw [placed, List.map_cons, ih]

namespace LineView

variable {α : Type} {view : LineView α}

private theorem seen_concatenation (passed : view.blank (view.see []) = true) (before : Nat)
    (contents : List (List UInt8)) :
    view.seen (before + 1) (Line.split (contents.flatMap (· ++ [0x0A]))) =
      (placed before contents).flatMap fun (before, content) =>
        (view.seen 1 (Line.split content)).map fun (line, text) => (before + line, text) := by
  induction contents generalizing before with
  | nil =>
      rw [List.flatMap_nil, Line.split_nil]
      rfl
  | cons content contents ih =>
      have place : before + 1 + (content.count 0x0A + 1) = before + (content.count 0x0A + 1) + 1 := by
        omega
      rw [List.flatMap_cons, List.append_assoc, List.singleton_append, seen_split_append passed,
        seen_add, place, ih]
      rfl

/-- The lines that are seen in files read as one are those that are seen in each alone. -/
theorem texts_concatenation (passed : view.blank (view.see []) = true)
    (contents : List (List UInt8)) :
    view.texts (contents.flatMap (· ++ [0x0A])) = contents.flatMap view.texts := by
  have files : contents.flatMap view.texts =
      (placed 0 contents).flatMap fun (_, content) => view.texts content := by
    have alone := List.flatMap_map Prod.snd view.texts (placed 0 contents)
    rw [map_snd_placed] at alone
    exact alone
  rw [files, texts, seen_concatenation passed 0, List.map_flatMap]
  simp only [texts, List.map_map]
  rfl

end LineView

/-! ## Records, entries and aligned lines -/

/-- The failure of a line further down. -/
def Error.movedBy (before : Nat) : Error → Error
  | .invalidColumn line column => .invalidColumn (before + line) column
  | .invalidTbln line reason => .invalidTbln (before + line) reason
  | other => other

/-- What is read of lines further down. -/
def Feed.movedBy {α : Type} (before : Nat) (feed : Feed α) : Feed α :=
  List.map (Except.mapError (Error.movedBy before)) feed

namespace Labelled

private theorem records_eq (null : Option String) (number : Nat) (lines : List Line) :
    records null number (lines.map fun line => .ok line.body) =
      (lineView.seen number lines).map fun (line, body) => pairs null line body := by
  induction lines generalizing number with
  | nil => rfl
  | cons line lines ih =>
      cases blank : isBlank (trimReturns line.body) with
      | true =>
          rw [LineView.seen_of_blank blank, ← ih, List.map_cons, records]
          exact if_pos blank
      | false =>
          rw [LineView.seen_of_solid blank, List.map_cons, List.map_cons, ← ih,
            records]
          exact if_neg (Bool.eq_false_iff.mp blank)

private theorem pair_movedBy (null : Option String) (before number : Nat) (field : List UInt8) :
    pair null (before + number) field =
      (pair null number field).mapError (Error.movedBy before) := by
  rw [pair, pair]
  split
  · rfl
  · rfl

private theorem mapM_movedBy {α β : Type} {read moved : α → Result β} {before : Nat}
    (each : ∀ item, moved item = (read item).mapError (Error.movedBy before)) (items : List α) :
    items.mapM moved = (items.mapM read).mapError (Error.movedBy before) := by
  induction items with
  | nil => rfl
  | cons item items ih =>
      rw [List.mapM_cons, List.mapM_cons, each, ih]
      cases read item with
      | error failure => rfl
      | ok value =>
          cases items.mapM read with
          | error failure => rfl
          | ok values => rfl

private theorem pairs_movedBy (null : Option String) (before number : Nat) (line : List UInt8) :
    pairs null (before + number) line =
      (pairs null number line).mapError (Error.movedBy before) :=
  mapM_movedBy (pair_movedBy null before number) _

end Labelled

namespace Framed

/-- What is read of a line that is not blank, given its number; a comment is passed over. -/
def entryAt? : Nat × List Char → Option (Result Entry)
  | (number, text) =>
    if text.head? == some '#' then none
    else some (match entry text with
      | .ok found => .ok found
      | .error reason => .error (.invalidTbln number reason))

theorem entries_eq (number : Nat) (lines : List Line) :
    entries number (lines.map fun line => .ok line.body) =
      (Text.lineView.seen number lines).filterMap entryAt? := by
  induction lines generalizing number with
  | nil => rfl
  | cons line lines ih =>
      cases blank : Text.lineView.blank (Text.lineView.see line.body) with
      | true =>
          have idle : isIdle (Text.lineView.see line.body) = true := by
            rw [isIdle]
            exact Bool.or_eq_true_iff.mpr (.inl blank)
          rw [LineView.seen_of_blank blank, ← ih, List.map_cons, entries]
          exact if_pos idle
      | false =>
          rw [LineView.seen_of_solid blank, List.map_cons, entries]
          cases comment : (Text.lineView.see line.body).head? == some '#' with
          | true =>
              have idle : isIdle (Text.lineView.see line.body) = true := by
                rw [isIdle, comment, Bool.or_true]
              have skipped : entryAt? (number, Text.lineView.see line.body) = none := if_pos comment
              rw [List.filterMap_cons_none skipped, ← ih]
              exact if_pos idle
          | false =>
              have kept : ¬ isIdle (Text.lineView.see line.body) = true := by
                rw [isIdle, comment, Bool.or_false]
                exact Bool.eq_false_iff.mp blank
              have found : entryAt? (number, Text.lineView.see line.body) = some _ :=
                if_neg (Bool.eq_false_iff.mp comment)
              rw [List.filterMap_cons_some found, ← ih]
              exact if_neg kept

private theorem entryAt?_movedBy (before number : Nat) (text : List Char) :
    entryAt? (before + number, text) =
      (entryAt? (number, text)).map (Except.mapError (Error.movedBy before)) := by
  rw [entryAt?, entryAt?]
  split
  · rfl
  · cases entry text with
    | error reason => rfl
    | ok found => rfl

end Framed

private theorem Aligned.lines_eq (number : Nat) (lines : List Line) :
    Aligned.lines (lines.map fun line => .ok line.body) =
      (Text.lineView.seen number lines).map fun (_, text) => .ok (expandTabs text) := by
  induction lines generalizing number with
  | nil => rfl
  | cons line lines ih =>
      cases blank : Text.lineView.blank (Text.lineView.see line.body) with
      | true =>
          rw [LineView.seen_of_blank blank, ← ih, List.map_cons, Aligned.lines]
          exact if_pos blank
      | false =>
          rw [LineView.seen_of_solid blank, List.map_cons, List.map_cons, ← ih,
            Aligned.lines]
          exact if_neg (Bool.eq_false_iff.mp blank)

/-! ## The stream of a pattern -/

theorem Input.lines_of_intact (bytes : List UInt8) :
    Input.lines ⟨bytes, true⟩ = (Line.split bytes).map fun line => .ok line.body := by
  rw [Input.lines, if_pos rfl]

private theorem Labelled.records_concatenation (null : Option String)
    (contents : List (List UInt8)) :
    records null 1 (Input.lines ⟨contents.flatMap (· ++ [0x0A]), true⟩) =
      (placed 0 contents).flatMap fun (before, content) =>
        (records null 1 (Input.lines ⟨content, true⟩)).movedBy before := by
  rw [Input.lines_of_intact, records_eq, LineView.seen_concatenation (by decide) 0,
    List.map_flatMap]
  simp only [Input.lines_of_intact, records_eq, Feed.movedBy, List.map_map, Function.comp_def,
    pairs_movedBy]

private theorem Framed.entries_concatenation (contents : List (List UInt8)) :
    entries 1 (Input.lines ⟨contents.flatMap (· ++ [0x0A]), true⟩) =
      (placed 0 contents).flatMap fun (before, content) =>
        (entries 1 (Input.lines ⟨content, true⟩)).movedBy before := by
  rw [Input.lines_of_intact, entries_eq, LineView.seen_concatenation (by decide +kernel) 0,
    List.filterMap_flatMap]
  simp only [Input.lines_of_intact, entries_eq, Feed.movedBy, List.filterMap_map,
    List.map_filterMap, Function.comp_def, entryAt?_movedBy]

private theorem Aligned.lines_concatenation (contents : List (List UInt8)) :
    lines (Input.lines ⟨contents.flatMap (· ++ [0x0A]), true⟩) =
      contents.flatMap fun content => lines (Input.lines ⟨content, true⟩) := by
  have texts : ∀ bytes, lines (Input.lines ⟨bytes, true⟩) =
      (Text.lineView.texts bytes).map fun text => .ok (expandTabs text) := by
    intro bytes
    rw [Input.lines_of_intact, lines_eq 1, LineView.texts, List.map_map]
    rfl
  rw [texts, LineView.texts_concatenation (by decide +kernel), List.map_flatMap]
  simp only [texts]

/-- Each file of a pattern is read as it is alone, however the files are copied and read: the lines
that are not blank are those of the files in order, and so are the records with labels, the entries
in frames and the aligned lines. Only failures name lines that are further down. -/
theorem Reference.readPattern_apart {pattern : String} {tree : Node} {contents : List (List UInt8)}
    (found : Pattern.files pattern.toList tree = .ok contents) (matched : contents ≠ [])
    (plain : ∀ content ∈ contents, Compression.read content = ⟨content, true⟩) :
    ∃ stream, readPattern pattern tree = .ok stream ∧
      (∀ copies sizes, copies.map List.flatten = contents → (∀ n, 0 < sizes n) →
        (Pipe.ofCopies copies).readAll sizes = stream.bytes) ∧
      Labelled.lineView.texts stream.bytes = contents.flatMap Labelled.lineView.texts ∧
      Text.lineView.texts stream.bytes = contents.flatMap Text.lineView.texts ∧
      (∀ null, Labelled.records null 1 stream.lines =
        (placed 0 contents).flatMap fun (before, content) =>
          (Labelled.records null 1 (Input.lines ⟨content, true⟩)).movedBy before) ∧
      Framed.entries 1 stream.lines =
        ((placed 0 contents).flatMap fun (before, content) =>
          (Framed.entries 1 (Input.lines ⟨content, true⟩)).movedBy before) ∧
      Aligned.lines stream.lines =
        contents.flatMap fun content => Aligned.lines (Input.lines ⟨content, true⟩) := by
  have bytes : contents.flatMap (fun content => (Compression.read content).bytes ++ [0x0A]) =
      contents.flatMap (· ++ [0x0A]) := by
    refine List.flatMap_congr fun content member => ?_
    rw [plain content member]
  refine ⟨⟨contents.flatMap (· ++ [0x0A]), true⟩, ?_, ?_, ?_, ?_, ?_, ?_, ?_⟩
  · rw [readPattern_eq found matched, bytes]
  · rintro copies sizes rfl asked
    exact Pipe.readAll_ofCopies asked copies
  · exact LineView.texts_concatenation (by decide) contents
  · exact LineView.texts_concatenation (by decide +kernel) contents
  · exact fun null => Labelled.records_concatenation null contents
  · exact Framed.entries_concatenation contents
  · exact Aligned.lines_concatenation contents

/-- Files that end in the middle of a line, with a carriage return and a line feed, with nothing at all
and with blank lines. -/
def ragged : List (List UInt8) :=
  [[0x61, 0x3A, 0x31], [], [0x61, 0x3A, 0x32, 0x0D, 0x0A], [0x0A, 0x20, 0x0A], [0x62]]

theorem Reference.readPattern_apart_ragged :
    let tree : Node := .folder (List.zipWith (fun name content => (name, .file content))
      ["1", "2", "3", "4", "5"] ragged)
    Pattern.files "*".toList tree = .ok ragged ∧
      (∀ content ∈ ragged, Compression.read content = ⟨content, true⟩) ∧
      ∃ stream, readPattern "*" tree = .ok stream ∧
        Labelled.records none 1 stream.lines =
          [.ok [("a", .text "1")], .ok [("a", .text "2")], .error (.invalidColumn 8 "b")] := by
  intro tree
  have parts : Pattern.parts "*".toList = .ok [[.anyMany]] := by decide +kernel
  have start : tree.start? (String.ofList "*".toList) = some tree := rfl
  have found : Pattern.files "*".toList tree = .ok ragged := by
    simp only [Pattern.files, parts, bind, Except.bind, start]
    simp [tree, ragged, Pattern.below, Pattern.literalName?, Pattern.among, Pattern.named,
      Pattern.matchesName, Pattern.isFolders, Pattern.contentOf]
  have plain : ∀ content ∈ ragged, Compression.read content = ⟨content, true⟩ := by decide
  obtain ⟨stream, read, -, -, -, records, -⟩ := readPattern_apart found (by decide) plain
  refine ⟨found, plain, stream, read, ?_⟩
  rw [records none]
  decide +kernel

end Tabular
