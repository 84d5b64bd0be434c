import Tabular.Source
import Tabular.Source.Options

/-!
# Results and feeds

What is known of an operation from its result, and of the pieces that are left of a feed.
-/

set_option autoImplicit false

namespace Tabular

theorem bind_ok {α β : Type} {outcome : Result α} {onward : α → Result β} {result : β}
    (made : outcome >>= onward = .ok result) :
    ∃ value, outcome = .ok value ∧ onward value = .ok result := by
  cases outcome with
  | error failure => cases made
  | ok value => exact ⟨value, rfl, made⟩

namespace Feed

variable {α β : Type}

theorem suffix_of_discard {count : Nat} {feed rest : Feed α}
    (made : discard count feed = .ok rest) :
    rest <:+ feed := by
  induction count generalizing feed with
  | zero =>
      cases made
      exact List.suffix_refl _
  | succ count ih =>
      cases feed with
      | nil =>
          cases made
          exact List.suffix_refl _
      | cons piece feed =>
          obtain ⟨value, -, later⟩ := bind_ok made
          exact (ih later).trans (List.suffix_cons _ _)

theorem exists_of_mem_map {f : α → β} {feed : Feed α} {value : β}
    (member : .ok value ∈ map f feed) :
    ∃ piece, value = f piece := by
  obtain ⟨piece, -, same⟩ := List.mem_map.mp member
  cases piece with
  | error failure => cases same
  | ok piece => exact ⟨piece, (Except.ok.inj same).symm⟩

/-- The feed of pieces, without failures. -/
def ofList (pieces : List α) : Feed α :=
  pieces.map .ok

theorem error_not_mem_ofList (pieces : List α) (failure : Error) :
    .error failure ∉ ofList pieces := by
  intro member
  obtain ⟨piece, -, wrong⟩ := List.mem_map.mp member
  cases wrong

theorem discard_ofList (count : Nat) (pieces : List α) :
    discard count (ofList pieces) = .ok (ofList (pieces.drop count)) := by
  induction count generalizing pieces with
  | zero => rfl
  | succ count ih =>
      cases pieces with
      | nil => rfl
      | cons piece pieces => exact ih pieces

theorem take_ofList (count : Nat) (pieces : List α) :
    take count (ofList pieces) = .ok (pieces.take count, ofList (pieces.drop count)) := by
  induction count generalizing pieces with
  | zero => rfl
  | succ count ih =>
      cases pieces with
      | nil => rfl
      | cons piece pieces =>
          have rest := ih pieces
          rw [ofList] at rest
          rw [ofList, List.map_cons, take, rest]
          rfl

section

variable {count : Nat} {pieces : List α} {failure : Error} {rest : Feed α}

theorem discard_ofList_append (enough : count ≤ pieces.length) :
    discard count (ofList pieces ++ rest) = .ok (ofList (pieces.drop count) ++ rest) := by
  induction count generalizing pieces with
  | zero => rfl
  | succ count ih =>
      cases pieces with
      | nil => cases enough
      | cons piece pieces => exact ih (Nat.le_of_succ_le_succ enough)

theorem discard_of_error (few : pieces.length < count) :
    discard count (ofList pieces ++ .error failure :: rest) = .error failure := by
  induction pieces generalizing count with
  | nil =>
      obtain ⟨count, rfl⟩ := Nat.exists_eq_add_of_lt few
      rfl
  | cons piece pieces ih =>
      cases count with
      | zero => cases few
      | succ count => exact ih (Nat.lt_of_succ_lt_succ few)

theorem take_ofList_append (enough : count ≤ pieces.length) :
    take count (ofList pieces ++ rest) =
      .ok (pieces.take count, ofList (pieces.drop count) ++ rest) := by
  induction count generalizing pieces with
  | zero => rfl
  | succ count ih =>
      cases pieces with
      | nil => cases enough
      | cons piece pieces =>
          have later := ih (Nat.le_of_succ_le_succ enough)
          rw [ofList] at later
          rw [ofList, List.map_cons, List.cons_append, take, later]
          rfl

theorem take_of_error (few : pieces.length < count) :
    take count (ofList pieces ++ .error failure :: rest) = .error failure := by
  induction pieces generalizing count with
  | nil =>
      obtain ⟨count, rfl⟩ := Nat.exists_eq_add_of_lt few
      rfl
  | cons piece pieces ih =>
      cases count with
      | zero => cases few
      | succ count =>
          have later := ih (Nat.lt_of_succ_lt_succ few)
          rw [ofList] at later
          rw [ofList, List.map_cons, List.cons_append, take, later]
          rfl

end

/-! ### Discarding and taking -/

section

variable {skip ahead : Nat} {found : List α} {rest : Feed α}

theorem take_discard_of_le (enough : skip + ahead ≤ found.length)
    (onward : List α × Feed α → Result β) :
    (discard skip (ofList found ++ rest) >>= fun feed => take ahead feed >>= onward) =
      onward ((found.drop skip).take ahead, ofList ((found.drop skip).drop ahead) ++ rest) := by
  have within : ahead ≤ (found.drop skip).length := by
    rw [List.length_drop]
    exact Nat.le_sub_of_add_le' enough
  rw [discard_ofList_append (Nat.le_trans (Nat.le_add_right _ _) enough)]
  change (take ahead (ofList (found.drop skip) ++ rest) >>= onward) = _
  rw [take_ofList_append within]
  rfl

/-- With too few pieces in front of it a failure is met while they are discarded or taken. -/
theorem take_discard_of_lt {failure : Error} (few : found.length < skip + ahead)
    (onward : List α × Feed α → Result β) :
    (discard skip (ofList found ++ .error failure :: rest) >>= fun feed =>
      take ahead feed >>= onward) = .error failure := by
  rcases Nat.lt_or_ge found.length skip with short | long
  · rw [discard_of_error short]
    rfl
  · have within : (found.drop skip).length < ahead := by
      rw [List.length_drop]
      exact Nat.sub_lt_left_of_lt_add long few
    rw [discard_ofList_append long]
    change (take ahead (ofList (found.drop skip) ++ .error failure :: rest) >>= onward) = _
    rw [take_of_error within]
    rfl

end

/-- What is taken and what is left are the whole feed. -/
theorem append_of_take {count : Nat} {feed rest : Feed α} {pieces : List α}
    (taken : take count feed = .ok (pieces, rest)) : feed = ofList pieces ++ rest := by
  induction count generalizing feed pieces with
  | zero =>
      cases taken
      rfl
  | succ count ih =>
      cases feed with
      | nil =>
          cases taken
          rfl
      | cons piece feed =>
          obtain ⟨first, rfl, following⟩ := bind_ok taken
          obtain ⟨⟨others, more⟩, later, made⟩ := bind_ok following
          cases made
          rw [ih later]
          rfl

theorem error_mem_map (f : α → β) {feed : Feed α} {failure : Error}
    (member : .error failure ∈ feed) : .error failure ∈ map f feed :=
  List.mem_map.mpr ⟨_, member, rfl⟩

theorem map_append (f : α → β) (feed rest : Feed α) :
    map f (feed ++ rest) = map f feed ++ map f rest :=
  List.map_append

theorem map_ofList (f : α → β) (pieces : List α) : map f (ofList pieces) = ofList (pieces.map f) := by
  simp only [map, ofList, List.map_map]
  rfl

theorem length_ofList (pieces : List α) : (ofList pieces).length = pieces.length :=
  List.length_map _

theorem getElem?_ofList (pieces : List α) (n : Nat) :
    (ofList pieces)[n]? = pieces[n]?.map .ok :=
  List.getElem?_map

theorem ofList_append (pieces more : List α) :
    ofList (pieces ++ more) = ofList pieces ++ ofList more :=
  List.map_append

theorem map_ofList_append (f : α → β) (pieces : List α) (rest : Feed α) :
    pieces.map (fun piece => .ok (f piece)) ++ map f rest = map f (ofList pieces ++ rest) := by
  rw [map_append, map_ofList, ofList, List.map_map]
  rfl

end Feed

namespace ReadOptions

variable {α : Type} {options : ReadOptions} {rows : List α}

theorem mem_of_mem_liveRows {row : α} (member : row ∈ options.liveRows rows) : row ∈ rows := by
  rw [liveRows] at member
  split at member
  · cases member
  · exact member

end ReadOptions

end Tabular
