import Tabular.Compression
import Tabular.Proofs.Column
import Tabular.Proofs.Text.Blank

/-!
# The format of a compressed file

The ending of a compressed file is looked up in two places: to choose a compression, and to leave it
out where the format is told from a name. The second knows only one of the endings of the first, and
leaves it out once.
-/

set_option autoImplicit false

namespace Tabular

/-! ## Endings and parts of a name -/

namespace Text

theorem splitAt_eq_singleton {separator : Char} {text : List Char} (absent : separator ∉ text) :
    splitAt separator text = [text] := by
  have whole : splitAt separator (List.intercalate [separator] [text]) = [text] :=
    List.splitOn_intercalate separator (by simpa using absent) (by simp)
  rwa [List.intercalate_singleton] at whole

/-- What is put behind a text without a separator belongs to its last part. -/
theorem exists_splitAt_append {separator : Char} {more : List Char} (absent : separator ∉ more)
    (text : List Char) :
    ∃ parts last, splitAt separator text = parts ++ [last] ∧
      splitAt separator (text ++ more) = parts ++ [last ++ more] := by
  induction text with
  | nil => exact ⟨[], [], rfl, splitAt_eq_singleton absent⟩
  | cons c text ih =>
      obtain ⟨parts, last, front, whole⟩ := ih
      have step (rest : List Char) : splitAt separator (c :: rest) =
          if c == separator then [] :: splitAt separator rest
          else (splitAt separator rest).modifyHead (List.cons c) :=
        List.splitOnP_cons_eq_if_modifyHead (p := (· == separator)) c rest
      by_cases mark : (c == separator) = true
      · refine ⟨[] :: parts, last, ?_, ?_⟩
        · rw [step, if_pos mark, front, List.cons_append]
        · rw [List.cons_append, step, if_pos mark, whole, List.cons_append]
      · rw [List.cons_append, step, if_neg mark, front, step, if_neg mark, whole]
        cases parts with
        | nil => exact ⟨[], c :: last, rfl, rfl⟩
        | cons part parts => exact ⟨(c :: part) :: parts, last, rfl, rfl⟩

end Text

namespace Format

theorem splitLast?_append {separator : Char} {after : List Char} (absent : separator ∉ after)
    (before : List Char) :
    splitLast? separator (before ++ separator :: after) = some (before, after) := by
  have reversed : (before ++ separator :: after).reverse =
      after.reverse ++ separator :: before.reverse := by
    simp
  rw [splitLast?, reversed, Text.splitOnce?_append (by simpa using absent)]
  simp

/-- Whether a name has the ending that is left out, in any case of letters. -/
def Packed (name : List Char) : Prop :=
  ['.', 'g', 'z'] <:+ name.map Char.toLower

instance (name : List Char) : Decidable (Packed name) :=
  inferInstanceAs (Decidable (_ <:+ _))

private theorem withoutEnding_of_suffix {ending name : List Char}
    (ends : ending <:+ name.map Char.toLower) :
    withoutEnding ending name = name.take (name.length - ending.length) := by
  have last := List.suffix_iff_eq_drop.mp ends
  rw [List.length_map, ← List.map_drop] at last
  rw [withoutEnding, ← last]
  simp

private theorem withoutEnding_of_not_suffix {ending name : List Char}
    (other : ¬ending <:+ name.map Char.toLower) : withoutEnding ending name = name := by
  rw [withoutEnding, if_neg]
  intro same
  refine other (List.suffix_iff_eq_drop.mpr ?_)
  rw [List.length_map, ← List.map_drop]
  exact (eq_of_beq same).symm

/-- The format by the extension behind the last dot. -/
def ofBare (bare : List Char) : Format :=
  match splitLast? '.' bare with
  | some (_ :: _, extension) => ofExtension (Ascii.lower (String.ofList extension))
  | _ => csv

private theorem ofFileName_eq {name : String} (unquoted : ∀ c ∈ name.toList, isQuote c = false) :
    ofFileName name = ofBare (withoutEnding ['.', 'g', 'z'] name.toList) := by
  have bare : Text.trimBy isQuote name.toList = name.toList := by
    refine Text.trimBy_of_kept (fun c first => ?_) (fun c last => ?_)
    · exact unquoted c (List.mem_of_mem_head? first)
    · exact unquoted c (List.mem_of_mem_getLast? last)
  rw [ofFileName, bare]
  rfl

end Format

/-! ## Endings of compressed files -/

namespace Compression

/-- The ending of files of a kind. -/
def ending : Compression → String
  | gzip => "gz"
  | bzip2 => "bz2"
  | zstd => "zst"
  | lz4 => "lz4"
  | xz => "xz"

theorem ofExtension?_eq_some_iff {word : String} {kind : Compression} :
    ofExtension? word = some kind ↔ word = kind.ending := by
  constructor
  · intro found
    unfold ofExtension? at found
    split at found
    all_goals cases found
    all_goals rfl
  · rintro rfl
    cases kind <;> rfl

private theorem ending_plain (kind : Compression) :
    kind.ending.toList ≠ [] ∧ ∀ c ∈ kind.ending.toList, c ∉ ['.', '/', '"', '\'', '\x60'] := by
  cases kind <;> simp [ending]

private theorem csv_of_ending (kind : Compression) : Format.ofExtension kind.ending = .csv := by
  cases kind <;> rfl

variable {kind : Compression} {extension : List Char}

/-- Of the endings of compressed files only one is left out of a name. -/
theorem packed_append_iff (ending : extension.map Char.toLower = kind.ending.toList)
    (name : List Char) : Format.Packed (name ++ '.' :: extension) ↔ kind = .gzip := by
  have lower : (name ++ '.' :: extension).map Char.toLower =
      name.map Char.toLower ++ '.' :: kind.ending.toList := by
    rw [List.map_append, List.map_cons, ending]
    rfl
  rw [Format.Packed, lower]
  constructor
  · intro ends
    have short : kind.ending.toList.length ≤ 3 := by
      cases kind <;> decide
    have also : kind.ending.toList <:+ name.map Char.toLower ++ '.' :: kind.ending.toList :=
      (List.suffix_cons _ _).trans (List.suffix_append _ _)
    have inner := List.suffix_of_suffix_length_le also ends short
    cases kind with
    | gzip => rfl
    | bzip2 | zstd | lz4 | xz => exact absurd inner (by decide)
  · rintro rfl
    exact List.suffix_append _ _

theorem not_mem_extension (ending : extension.map Char.toLower = kind.ending.toList) {c : Char}
    (mark : c ∈ ['.', '/', '"', '\'', '\x60']) : c ∉ extension := by
  intro member
  have kept : ∀ c ∈ ['.', '/', '"', '\'', '\x60'], c.toLower = c := by
    simp only [List.forall_mem_cons]
    exact ⟨rfl, rfl, rfl, rfl, rfl, nofun⟩
  have inside := List.mem_map_of_mem (f := Char.toLower) member
  rw [ending, kept c mark] at inside
  exact (ending_plain kind).2 c inside mark

private theorem lastPart?_eq {path last : List Char} {parts : List (List Char)}
    (split : Text.splitAt '/' path = parts ++ [last]) {c : Char} (member : c ∈ last)
    (other : c ≠ '.') : lastPart? path = some last := by
  have named (dots : List Char) (only : ∀ d ∈ dots, d = '.') : last ≠ dots := by
    rintro rfl
    exact other (only c member)
  have kept : (last != [] && last != ['.']) = true := by
    rw [bne_iff_ne.mpr (named [] (by simp)), bne_iff_ne.mpr (named ['.'] (by simp))]
    rfl
  have single : [last].filter (fun part => part != [] && part != ['.']) = [last] :=
    List.filter_cons_of_pos kept
  rw [lastPart?, split, List.filter_append, single, List.getLast?_concat]
  split
  · rename_i upwards
    exact absurd (Option.some.inj upwards) (named ['.', '.'] (by simp))
  · rfl

private theorem lower_ofList (ending : extension.map Char.toLower = kind.ending.toList) :
    Ascii.lower (String.ofList extension) = kind.ending := by
  rw [Ascii.lower, String.toList_ofList, ending, String.ofList_toList]

theorem toList_withEnding (name extension : String) :
    (name ++ "." ++ extension).toList = name.toList ++ '.' :: extension.toList := by
  simp

/-- A path with the ending of a kind is taken for a file of that kind, unless there is nothing in
front of the ending. -/
theorem ofPath?_append {name extension : String}
    (ending : extension.toList.map Char.toLower = kind.ending.toList) :
    ofPath? (name ++ "." ++ extension) =
      if (Text.splitAt '/' name.toList).getLast? = some [] then none else some kind := by
  have dot : '.' ∉ extension.toList := not_mem_extension ending (by decide)
  have separator : '/' ∉ '.' :: extension.toList := by
    intro member
    cases member with
    | tail _ member => exact not_mem_extension ending (by decide) member
  have filled : extension.toList ≠ [] := by
    intro empty
    rw [empty] at ending
    exact (ending_plain kind).1 ending.symm
  have lower : Ascii.lower (String.ofList extension.toList) = kind.ending := lower_ofList ending
  obtain ⟨parts, last, front, whole⟩ := Text.exists_splitAt_append separator name.toList
  obtain ⟨c, rest, letters⟩ := List.exists_cons_of_ne_nil filled
  have letter : c ∈ extension.toList := letters ▸ List.mem_cons_self
  have part : lastPart? (name ++ "." ++ extension).toList =
      some (last ++ '.' :: extension.toList) := by
    rw [← toList_withEnding] at whole
    exact lastPart?_eq whole (List.mem_append_right _ (List.mem_cons_of_mem _ letter))
      fun same => dot (same ▸ letter)
  rw [ofPath?, part, Option.bind_some, Format.splitLast?_append dot, front, List.getLast?_concat]
  cases last with
  | nil => rfl
  | cons first last =>
      rw [if_neg (by simp)]
      exact ofExtension?_eq_some_iff.mpr lower

end Compression

namespace Format

variable {name extension : String} {kind : Compression}

theorem ofBare_append {extension : List Char}
    (ending : extension.map Char.toLower = kind.ending.toList) (name : List Char) :
    ofBare (name ++ '.' :: extension) = .csv := by
  rw [ofBare, splitLast?_append (Compression.not_mem_extension ending (by decide))]
  cases name with
  | nil => rfl
  | cons c name =>
      change ofExtension (Ascii.lower (String.ofList extension)) = .csv
      rw [Compression.lower_ofList ending, Compression.csv_of_ending]

private theorem eq_dot_of_toLower {c : Char} (lower : c.toLower = '.') : c = '.' := by
  unfold Char.toLower at lower
  split at lower
  · rename_i upper
    have low : 65 ≤ c.val.toNat := UInt32.le_iff_toNat_le.mp upper.1
    have high : c.val.toNat ≤ 90 := UInt32.le_iff_toNat_le.mp upper.2
    have value : (c.val.toNat + 32) % 2 ^ 32 = 46 :=
      (UInt32.toNat_add c.val 32).symm.trans (congrArg Char.toNat lower)
    omega
  · exact lower

private theorem exists_of_packed {name : List Char} (packed : Packed name) :
    ∃ front extension, name = front ++ '.' :: extension ∧
      extension.map Char.toLower = Compression.gzip.ending.toList := by
  obtain ⟨lower, whole⟩ := packed
  obtain ⟨front, ending, rfl, -, ends⟩ := List.map_eq_append_iff.mp whole.symm
  obtain ⟨c, extension, rfl, dot, ends⟩ := List.map_eq_cons_iff.mp ends
  rw [eq_dot_of_toLower dot]
  exact ⟨front, extension, rfl, ends⟩

theorem withoutEnding_append {extension : List Char}
    (ending : extension.map Char.toLower = Compression.gzip.ending.toList) (name : List Char) :
    withoutEnding ['.', 'g', 'z'] (name ++ '.' :: extension) = name := by
  have size : extension.length = 2 := by
    rw [← List.length_map Char.toLower, ending]
    rfl
  rw [withoutEnding_of_suffix ((Compression.packed_append_iff ending name).mpr rfl)]
  exact List.take_left' (by simp [size])

theorem unquoted_append (ending : extension.toList.map Char.toLower = kind.ending.toList)
    (unquoted : ∀ c ∈ name.toList, isQuote c = false) :
    ∀ c ∈ (name ++ "." ++ extension).toList, isQuote c = false := by
  intro c member
  rw [Compression.toList_withEnding, List.mem_append, List.mem_cons] at member
  rcases member with front | rfl | back
  · exact unquoted c front
  · rfl
  · rw [← Bool.not_eq_true]
    intro quote
    simp only [isQuote, Bool.or_eq_true, beq_iff_eq] at quote
    exact Compression.not_mem_extension ending (by simp; tauto) back

/-- The ending is left out if it is that of one kind, and then no other one is. -/
theorem ofFileName_append (ending : extension.toList.map Char.toLower = kind.ending.toList)
    (unquoted : ∀ c ∈ name.toList, isQuote c = false) :
    ofFileName (name ++ "." ++ extension) =
      if kind = .gzip ∧ ¬Packed name.toList then ofFileName name else .csv := by
  rw [ofFileName_eq (unquoted_append ending unquoted), ofFileName_eq unquoted,
    Compression.toList_withEnding]
  by_cases gzip : kind = .gzip
  · subst gzip
    rw [withoutEnding_append ending]
    by_cases again : Packed name.toList
    · obtain ⟨front, before, whole, ends⟩ := exists_of_packed again
      rw [if_neg fun both => both.2 again, whole, ofBare_append ends]
    · rw [if_pos ⟨rfl, again⟩, withoutEnding_of_not_suffix again]
  · have other := mt (Compression.packed_append_iff ending name.toList).mp gzip
    rw [if_neg fun both => gzip both.1, withoutEnding_of_not_suffix other, ofBare_append ending]

/-- The ending of a compressed file is left out of its name if it is that of one kind and the name
before it does not have it too. Otherwise the file is taken for CSV, whatever its name is. -/
theorem ofFileName_of_ending (unquoted : ∀ c ∈ name.toList, isQuote c = false)
    (packs : Compression.ofExtension? (Ascii.lower extension) = some kind) :
    Compression.ofPath? (name ++ "." ++ extension) =
        (if (Text.splitAt '/' name.toList).getLast? = some [] then none else some kind) ∧
      ofFileName (name ++ "." ++ extension) =
        (if kind = .gzip ∧ ¬Packed name.toList then ofFileName name else .csv) ∧
      (ofFileName (name ++ "." ++ extension) = ofFileName name ↔
        (kind = .gzip ∧ ¬Packed name.toList) ∨ ofFileName name = .csv) := by
  have ending : extension.toList.map Char.toLower = kind.ending.toList := by
    have word := congrArg String.toList (Compression.ofExtension?_eq_some_iff.mp packs)
    rwa [Ascii.lower, String.toList_ofList] at word
  have told := ofFileName_append ending unquoted
  refine ⟨Compression.ofPath?_append ending, told, ?_⟩
  rw [told]
  split
  · rename_i left
    exact ⟨fun _ => .inl left, fun _ => rfl⟩
  · rename_i other
    constructor
    · intro same
      exact .inr same.symm
    · rintro (left | same)
      · exact absurd left other
      · exact same.symm

/-- Capitals in both endings. -/
theorem ofFileName_of_ending_capitals :
    let name := "logs/a.LTSV"
    (∀ c ∈ name.toList, isQuote c = false) ∧
      Compression.ofExtension? (Ascii.lower "Gz") = some .gzip ∧
      Compression.ofPath? (name ++ "." ++ "Gz") =
        (if (Text.splitAt '/' name.toList).getLast? = some [] then none else some .gzip) ∧
      ofFileName (name ++ "." ++ "Gz") =
        (if Compression.gzip = .gzip ∧ ¬Packed name.toList then ofFileName name else .csv) ∧
      (ofFileName (name ++ "." ++ "Gz") = ofFileName name ↔
        (Compression.gzip = .gzip ∧ ¬Packed name.toList) ∨ ofFileName name = .csv) := by
  intro name
  have unquoted : ∀ c ∈ name.toList, isQuote c = false := by simp [name, isQuote]
  have packs : Compression.ofExtension? (Ascii.lower "Gz") = some .gzip := by decide +kernel
  exact ⟨unquoted, packs, ofFileName_of_ending unquoted packs⟩

/-- The ending of one kind hides the format of the name before it, as a second ending does. -/
theorem ofFileName_hidden :
    Compression.ofPath? ("a.json" ++ "." ++ "bz2") = some .bzip2 ∧
      ofFileName ("a.json" ++ "." ++ "bz2") ≠ ofFileName "a.json" ∧
      Compression.ofPath? ("a.json.gz" ++ "." ++ "gz") = some .gzip ∧
      ofFileName ("a.json.gz" ++ "." ++ "gz") ≠ ofFileName "a.json.gz" := by
  decide +kernel

end Format

end Tabular
