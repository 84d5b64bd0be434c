import Tabular.Document.Path
import Tabular.Proofs.Document
import Tabular.Proofs.Text.Blank

/-!
# Paths with keys behind them

What the first segments of a path select is what the other segments are applied to. Behind a segment
that was applied to each item of a list this needs a key: a position selects one of the items.
-/

set_option autoImplicit false

namespace Tabular

namespace Path

variable {key : String}

/-! ## Selecting in steps -/

private theorem select_null (segments : List String) : select segments .null = .null := by
  cases segments <;> simp only [select]

private theorem selectEach_eq_map (segments : List String) (items : List Document) :
    selectEach segments items = items.map (select segments) := by
  induction items with
  | nil => simp only [selectEach, List.map_nil]
  | cons item items ih => simp only [selectEach, List.map_cons, ih]

private theorem select_list_of_key (isKey : position? key = none) (rest : List String)
    (items : List Document) :
    select (key :: rest) (.list items) = .list (items.map (select (key :: rest))) := by
  simp only [select, isKey, selectEach_eq_map]

mutual

theorem select_append_key (isKey : position? key = none) (front rest : List String)
    (document : Document) :
    select (front ++ key :: rest) document = select (key :: rest) (select front document) := by
  cases front with
  | nil => simp only [List.nil_append, select]
  | cons head front =>
      cases document with
      | record fields =>
          simp only [List.cons_append, select]
          exact selectField_append_key isKey head front rest fields
      | list items =>
          cases place : position? head with
          | some n =>
              simp only [List.cons_append, select, place]
              exact selectItem_append_key isKey n front rest items
          | none =>
              have each := map_select_append_key isKey (head :: front) rest items
              simp only [List.cons_append, select_list_of_key place, select_list_of_key isKey]
              rw [List.map_map, ← each, List.cons_append]
      | null | bool | number | text => simp only [List.cons_append, select]
termination_by sizeOf document

theorem selectField_append_key (isKey : position? key = none) (name : String)
    (front rest : List String) (fields : List (String × Document)) :
    selectField name (front ++ key :: rest) fields =
      select (key :: rest) (selectField name front fields) := by
  cases fields with
  | nil => simp only [selectField, select_null]
  | cons field fields =>
      obtain ⟨found, value⟩ := field
      simp only [selectField]
      split
      · exact select_append_key isKey front rest value
      · exact selectField_append_key isKey name front rest fields
termination_by sizeOf fields

theorem selectItem_append_key (isKey : position? key = none) (n : Nat) (front rest : List String)
    (items : List Document) :
    selectItem n (front ++ key :: rest) items =
      select (key :: rest) (selectItem n front items) := by
  cases items with
  | nil => simp only [selectItem, select_null]
  | cons item items =>
      cases n with
      | zero =>
          simp only [selectItem]
          exact select_append_key isKey front rest item
      | succ n =>
          simp only [selectItem]
          exact selectItem_append_key isKey n front rest items
termination_by sizeOf items

theorem map_select_append_key (isKey : position? key = none) (front rest : List String)
    (items : List Document) :
    items.map (select (front ++ key :: rest)) =
      items.map (select (key :: rest) ∘ select front) := by
  cases items with
  | nil => rfl
  | cons item items =>
      rw [List.map_cons, List.map_cons, select_append_key isKey front rest item,
        map_select_append_key isKey front rest items, Function.comp_apply]
termination_by sizeOf items

end

theorem select_append {back : List String} (keys : ∀ segment ∈ back, position? segment = none)
    (front : List String) (document : Document) :
    select (front ++ back) document = select back (select front document) := by
  cases back with
  | nil => simp only [List.append_nil, select]
  | cons key rest => exact select_append_key (keys key List.mem_cons_self) front rest document

/-! ## Expressions -/

/-- Whether a character is dropped at the ends of an expression. -/
def isOuter (c : Char) : Bool :=
  Text.isBlank c || isQuote c

/-- An expression with nothing around it that is dropped. -/
structure Bare (expression : String) : Prop where
  first : expression.toList.head?.any isOuter = false
  last : expression.toList.getLast?.any isOuter = false

/-- The segments of an expression without what is around it. -/
def segmentsOf (bare : List Char) : List String :=
  (Text.splitAt '.' ((bare.map fun c => if c == '[' then '.' else c).filter (· != ']'))
    |>.filter (!·.isEmpty)).map String.ofList

theorem segmentsOf_append_dot (front back : List Char) :
    segmentsOf (front ++ '.' :: back) = segmentsOf front ++ segmentsOf back := by
  have parts (left right : List Char) :
      (left ++ '.' :: right).splitOn '.' = left.splitOn '.' ++ right.splitOn '.' :=
    List.splitOnP_append_cons left right (beq_self_eq_true '.')
  simp [segmentsOf, Text.splitAt, parts]

private theorem Bare.parse {expression : String} (bare : Bare expression) :
    parse expression = ⟨segmentsOf expression.toList⟩ := by
  have solid {end? : Option Char} (outer : end?.any isOuter = false) :
      ∀ c ∈ end?, Text.isBlank c = false ∧ isQuote c = false := by
    rintro c rfl
    exact Bool.or_eq_false_iff.mp outer
  have untrimmed : Text.trim expression.toList = expression.toList :=
    Text.trimBy_of_kept (fun c member => (solid bare.first c member).1)
      fun c member => (solid bare.last c member).1
  have unquoted : Text.trimBy isQuote expression.toList = expression.toList :=
    Text.trimBy_of_kept (fun c member => (solid bare.first c member).2)
      fun c member => (solid bare.last c member).2
  rw [Path.parse, untrimmed, unquoted, segmentsOf]

theorem Bare.append_dot {path name : String} (front : Bare path) (back : Bare name) :
    Bare (path ++ "." ++ name) := by
  have letters : (path ++ "." ++ name).toList = path.toList ++ '.' :: name.toList := by simp
  have dot : isOuter '.' = false := rfl
  constructor
  · rw [letters, List.head?_append]
    cases begun : path.toList.head? with
    | none => simp [dot]
    | some c => simpa [begun] using front.first
  · rw [letters, List.getLast?_append, List.getLast?_cons]
    cases ended : name.toList.getLast? with
    | none => simp [dot]
    | some c => simpa [ended] using back.last

/-- Keys behind a path select inside what the path selects, also in each item of a list and where
nothing is selected. An expression with a dot and keys behind it is read as such a longer path. -/
theorem select_inside {back : List String} (keys : ∀ segment ∈ back, position? segment = none)
    (front : List String) (document : Document) :
    select (front ++ back) document = select back (select front document) ∧
      ∀ path name, Bare path → Bare name →
        (parse path).segments = front → (parse name).segments = back →
          (parse (path ++ "." ++ name)).segments = front ++ back ∧
            (parse (path ++ "." ++ name)).apply document =
              (parse name).apply ((parse path).apply document) := by
  have inside := select_append keys front document
  refine ⟨inside, ?_⟩
  intro path name before behind first second
  have segments : (parse (path ++ "." ++ name)).segments = front ++ back := by
    rw [← first, ← second, before.parse, behind.parse, (before.append_dot behind).parse]
    simp [segmentsOf_append_dot]
  refine ⟨segments, ?_⟩
  rw [Path.apply, Path.apply, Path.apply, segments, first, second, inside]

/-- Keys below lists in lists, beside a number and a record without the key. -/
theorem select_inside_lists :
    let document : Document := .list [.record [("a", .list [
      .record [("b", .record [("c", .bool true)])], .number (.integer 5),
      .list [.record [("b", .list [.record [("c", .text "x")], .null])]], .record []])]]
    let inner : Document := .list [.bool true, .null, .list [.list [.text "x", .null]], .null]
    (∀ segment ∈ ["b", "c"], position? segment = none) ∧ Bare "[0].a" ∧ Bare "b.c" ∧
      (parse "[0].a").segments = ["0", "a"] ∧ (parse "b.c").segments = ["b", "c"] ∧
      select ["0", "a", "b", "c"] document = inner ∧
      (parse "b.c").apply ((parse "[0].a").apply document) = inner := by
  intro document inner
  have keys : ∀ segment ∈ ["b", "c"], position? segment = none := by decide +kernel
  have path : Bare "[0].a" := ⟨by decide +kernel, by decide +kernel⟩
  have name : Bare "b.c" := ⟨by decide +kernel, by decide +kernel⟩
  have front : (parse "[0].a").segments = ["0", "a"] := by decide +kernel
  have back : (parse "b.c").segments = ["b", "c"] := by decide +kernel
  have selected : select ["0", "a", "b", "c"] document = inner := by decide +kernel
  obtain ⟨-, expressions⟩ := select_inside keys ["0", "a"] document
  obtain ⟨segments, same⟩ := expressions _ _ path name front back
  refine ⟨keys, path, name, front, back, selected, ?_⟩
  rw [← same, Path.apply, segments]
  exact selected

-- A position behind keys selects among the items that were selected.
example :
    let document : Document := .list [.record [("a", .list [.bool true])],
      .record [("a", .list [.bool false])]]
    select (["a"] ++ ["0"]) document = .list [.bool true, .bool false] ∧
      select ["0"] (select ["a"] document) = .list [.bool true] := by
  decide +kernel

end Path

end Tabular
