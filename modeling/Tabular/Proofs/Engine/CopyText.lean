import Tabular.Engine.CopyText
import Tabular.Proofs.Text.Blank
import Tabular.Proofs.Text.Plain
import Tabular.Proofs.Text.Utf8

/-!
# Reading copy text back

A decoder of copy text: a stream is split at line feeds, a line at tabs, a field that is the mark
for null is null, and any other has its escapes undone. It gives back every row that was written,
cell by cell, so no content of a cell adds a field or a line, and no text is mistaken for null.
-/

set_option autoImplicit false

namespace Tabular.CopyText

/-! ## The decoder -/

/-- The byte that a backslash and another byte stand for. -/
def escaped (mark : UInt8) : UInt8 :=
  if mark = 0x74 then 0x09
  else if mark = 0x6E then 0x0A
  else if mark = 0x72 then 0x0D
  else mark

def unescape : List UInt8 → List UInt8
  | [] => []
  | [b] => [b]
  | b :: mark :: rest =>
    if b = 0x5C then escaped mark :: unescape rest else b :: unescape (mark :: rest)

def field? (text : List UInt8) : Option (List UInt8) :=
  if text = nullMark then none else some (unescape text)

/-- The lines of a stream. A line feed ends a line, so none follows the last one. -/
def lines (stream : List UInt8) : List (List UInt8) :=
  let pieces := stream.splitOn 0x0A
  if pieces.getLast? = some [] then pieces.dropLast else pieces

def decode (stream : List UInt8) : List (List (Option (List UInt8))) :=
  (lines stream).map fun line => (line.splitOn 0x09).map field?

/-- The bytes that a cell stands for, none for null. Bytes stand for themselves where they encode a
text, and otherwise for their hexadecimal digits. -/
def content? : Cell → Option (List UInt8)
  | .null => none
  | .bool value => some [if value then 0x74 else 0x66]
  | .int value => some (Utf8.bytes (toString value))
  | .float value => some (Utf8.bytes (NumberStyle.copy.text value))
  | .text value => some (Utf8.bytes value)
  | .bytes value =>
    some (if Utf8.IsText value then value else Utf8.bytes (hexEscape value))
  | .timestamp value => some (Utf8.bytes value.text)

/-! ## Escapes -/

/-- The two-byte form of each byte that is escaped, and the byte itself otherwise. -/
theorem escapeByte_cases (b : UInt8) :
    (∃ mark, escapeByte b = [0x5C, mark] ∧ escaped mark = b ∧ mark ≠ 0x09 ∧ mark ≠ 0x0A ∧
      mark ≠ 0x4E) ∨
      (escapeByte b = [b] ∧ b ≠ 0x5C ∧ b ≠ 0x09 ∧ b ≠ 0x0A) := by
  unfold escapeByte
  simp only [beq_iff_eq]
  split
  · rename_i same
    subst same
    exact .inl ⟨0x5C, rfl, by decide⟩
  · split
    · rename_i same
      subst same
      exact .inl ⟨0x74, rfl, by decide⟩
    · split
      · rename_i same
        subst same
        exact .inl ⟨0x6E, rfl, by decide⟩
      · split
        · rename_i same
          subst same
          exact .inl ⟨0x72, rfl, by decide⟩
        · exact .inr ⟨rfl, by assumption, by assumption, by assumption⟩

theorem escape_cons (b : UInt8) (content : List UInt8) :
    escape (b :: content) = escapeByte b ++ escape content := by
  simp [escape]

theorem unescape_cons {b : UInt8} (plain : b ≠ 0x5C) (rest : List UInt8) :
    unescape (b :: rest) = b :: unescape rest := by
  cases rest with
  | nil => rfl
  | cons mark rest => rw [unescape, if_neg plain]

private theorem unescape_escape (content : List UInt8) : unescape (escape content) = content := by
  induction content with
  | nil => rfl
  | cons b content ih =>
      rw [escape_cons]
      rcases escapeByte_cases b with ⟨mark, form, same, _⟩ | ⟨form, plain, _⟩
      · rw [form, List.cons_append, List.singleton_append, unescape, if_pos rfl, same, ih]
      · rw [form, List.singleton_append, unescape_cons plain, ih]

/-- No content is written like null: the mark for null has an escape of its own. -/
theorem escape_ne_nullMark (content : List UInt8) : escape content ≠ nullMark := by
  cases content with
  | nil => decide
  | cons b content =>
      intro same
      rw [escape_cons, nullMark] at same
      rcases escapeByte_cases b with ⟨mark, form, _, _, _, other⟩ | ⟨form, plain, _⟩
      · rw [form] at same
        simp only [List.cons_append, List.nil_append, List.cons.injEq] at same
        exact other same.2.1
      · rw [form] at same
        simp only [List.cons_append, List.nil_append, List.cons.injEq] at same
        exact plain same.1

private theorem field?_escape (content : List UInt8) : field? (escape content) = some content := by
  rw [field?, if_neg (escape_ne_nullMark content), unescape_escape]

theorem separator_not_mem_escape (content : List UInt8) :
    0x09 ∉ escape content ∧ 0x0A ∉ escape content := by
  simp only [escape, List.mem_flatMap, not_exists, not_and, ← forall_and]
  intro b _
  rcases escapeByte_cases b with ⟨mark, form, _, tab, feed, _⟩ | ⟨form, _, tab, feed⟩
  · rw [form]
    simp [tab.symm, feed.symm]
  · rw [form]
    simp [tab.symm, feed.symm]

/-! ## Cells -/

private theorem encodeChar_of_plain {c : Char} (plain : Plain c) :
    Utf8.encodeChar c = [UInt8.ofNat c.toNat] := by
  have one := Utf8.encodeChar_one plain.toNat.1
  rwa [Char.ofNat_toNat] at one

private theorem escapeByte_of_plain {c : Char} (plain : Plain c) :
    escapeByte (UInt8.ofNat c.toNat) = [UInt8.ofNat c.toNat] := by
  obtain ⟨small, tab, feed, carriage, backslash⟩ := plain.toNat
  have value : (UInt8.ofNat c.toNat).toNat = c.toNat := by
    rw [UInt8.toNat_ofNat']
    exact Nat.mod_eq_of_lt (by omega)
  simp only [escapeByte, beq_iff_eq, ← UInt8.toNat_inj, value, UInt8.reduceToNat]
  rw [if_neg backslash, if_neg tab, if_neg feed, if_neg carriage]

private theorem escape_bytes_of_plain {text : String} (plain : PlainText text) :
    escape (Utf8.bytes text) = Utf8.bytes text := by
  suffices every : ∀ characters, PlainList characters →
      escape (Utf8.encode characters) = Utf8.encode characters from every _ plain
  intro characters plain
  induction characters with
  | nil => rfl
  | cons c rest ih =>
      obtain ⟨first, others⟩ := plainList_cons.mp plain
      simp only [Utf8.encode, List.flatMap_cons] at ih ⊢
      rw [encodeChar_of_plain first, List.singleton_append, escape_cons, escapeByte_of_plain first,
        ih others, List.singleton_append]

private theorem plain_copyNumber (x : Binary64) : PlainText (NumberStyle.copy.text x) :=
  NumberStyle.plain_text (by decide) (by decide) (by decide) x

private theorem encodeChar_hexChar {n : Nat} (small : n < 16) :
    Utf8.encodeChar (Ascii.hexChar n) = [hexDigit (UInt8.ofNat n)] ∧
      escapeByte (hexDigit (UInt8.ofNat n)) = [hexDigit (UInt8.ofNat n)] := by
  revert n
  decide

private theorem halves_eq (b : UInt8) :
    b >>> 4 = UInt8.ofNat (b.toNat / 16) ∧ b &&& 0x0F = UInt8.ofNat (b.toNat % 16) := by
  have bound := b.toNat_lt
  constructor
  · rw [← UInt8.toNat_inj, UInt8.toNat_shiftRight, UInt8.toNat_ofNat']
    simp only [UInt8.reduceToNat, Nat.reduceMod, Nat.shiftRight_eq_div_pow, Nat.reducePow]
    omega
  · rw [← UInt8.toNat_inj, UInt8.toNat_and, UInt8.toNat_ofNat']
    have low := Nat.and_two_pow_sub_one_eq_mod b.toNat 4
    simp only [Nat.reducePow, Nat.add_one_sub_one] at low
    simp only [UInt8.reduceToNat, Nat.reducePow]
    omega

theorem escape_append (left right : List UInt8) :
    escape (left ++ right) = escape left ++ escape right := by
  simp [escape]

private theorem hexPair_eq (b : UInt8) :
    hexPair b =
      escape (Utf8.encode [Ascii.hexChar (b.toNat / 16), Ascii.hexChar (b.toNat % 16)]) := by
  have bound := b.toNat_lt
  obtain ⟨high, highPlain⟩ := encodeChar_hexChar (n := b.toNat / 16) (by omega)
  obtain ⟨low, lowPlain⟩ := encodeChar_hexChar (n := b.toNat % 16) (by omega)
  simp only [Utf8.encode, List.flatMap_cons, List.flatMap_nil, high, low, List.append_nil]
  rw [escape_append, escape_cons, escape_cons, highPlain, lowPlain, hexPair, (halves_eq b).1,
    (halves_eq b).2]
  rfl

/-- The digits written for bytes are those that cells show, behind an escaped backslash. -/
theorem hexText_eq (value : List UInt8) :
    hexText value = escape (Utf8.bytes (hexEscape value)) := by
  have digits : value.flatMap hexPair = escape (Utf8.encode (value.flatMap fun b =>
      [Ascii.hexChar (b.toNat / 16), Ascii.hexChar (b.toNat % 16)])) := by
    induction value with
    | nil => rfl
    | cons b value ih =>
        rw [List.flatMap_cons, List.flatMap_cons, Utf8.encode, List.flatMap_append, escape_append,
          hexPair_eq, ih]
        rfl
  rw [hexText, digits, hexEscape, Utf8.bytes, String.toList_ofList]
  rfl

/-- A cell is written as its escaped content, or as the mark for null. -/
theorem cell_eq (c : Cell) : cell c = (content? c).elim nullMark escape := by
  cases c with
  | null => rfl
  | bool value => cases value <;> rfl
  | int value => exact (escape_bytes_of_plain (plain_integer value)).symm
  | float value => exact (escape_bytes_of_plain (plain_copyNumber value)).symm
  | text value => rfl
  | bytes value =>
      simp only [cell, content?, Option.elim_some]
      cases read : Utf8.string? value with
      | some text =>
          have same := Utf8.string?_eq_some_iff.mp read
          rw [if_pos ⟨text, same⟩, ← same]
      | none =>
          rw [if_neg (by simp [Utf8.isText_iff, read]), hexText_eq]
  | timestamp value =>
      simp only [cell, content?, Option.elim_some]
      rw [escape_bytes_of_plain value.plain_text]

private theorem field?_cell (c : Cell) : field? (cell c) = content? c := by
  rw [cell_eq]
  cases content? c with
  | none => rfl
  | some content => exact field?_escape content

theorem separator_not_mem_cell (c : Cell) : 0x09 ∉ cell c ∧ 0x0A ∉ cell c := by
  rw [cell_eq]
  cases content? c with
  | none => decide
  | some content => exact separator_not_mem_escape content

/-! ## Rows -/

private theorem flatMap_terminated (texts : List (List UInt8)) :
    texts.flatMap (· ++ [0x0A]) = [0x0A].intercalate (texts ++ [[]]) := by
  induction texts with
  | nil => rfl
  | cons text texts ih =>
      rw [List.flatMap_cons, ih, List.cons_append, List.intercalate_cons_of_ne_nil (by simp),
        List.append_assoc]

private theorem lines_terminated {texts : List (List UInt8)} (whole : ∀ text ∈ texts, 0x0A ∉ text) :
    lines (texts.flatMap (· ++ [0x0A])) = texts := by
  have pieces : (texts.flatMap (· ++ [0x0A])).splitOn 0x0A = texts ++ [[]] := by
    rw [flatMap_terminated]
    refine List.splitOn_intercalate 0x0A ?_ (by simp)
    intro text member
    rcases List.mem_append.mp member with line | last
    · exact whole text line
    · rw [List.mem_singleton.mp last]
      exact List.not_mem_nil
  simp [lines, pieces]

def fields (width : Nat) (row : Row) : List (List UInt8) :=
  (List.range width).map fun i => cell (row.getD i .null)

theorem separator_not_mem_fields {width : Nat} {r : Row} {field : List UInt8}
    (member : field ∈ fields width r) : 0x09 ∉ field ∧ 0x0A ∉ field := by
  obtain ⟨i, _, rfl⟩ := List.mem_map.mp member
  exact separator_not_mem_cell _

theorem feed_not_mem_intercalate {texts : List (List UInt8)} (whole : ∀ text ∈ texts, 0x0A ∉ text) :
    0x0A ∉ [0x09].intercalate texts := by
  intro feed
  obtain tab | ⟨text, member, inside⟩ := Text.mem_of_mem_intercalate feed
  · exact absurd tab (by decide)
  · exact whole text member inside

private theorem splitOn_fields {width : Nat} (wide : 1 ≤ width) (r : Row) :
    ([0x09].intercalate (fields width r)).splitOn 0x09 = fields width r := by
  refine List.splitOn_intercalate 0x09 (fun field member => (separator_not_mem_fields member).1) ?_
  intro empty
  have length := congrArg List.length empty
  simp only [fields, List.length_map, List.length_range, List.length_nil] at length
  omega

private theorem field?_fields (width : Nat) (r : Row) :
    (fields width r).map field? = (List.range width).map fun i => r[i]?.bind content? := by
  rw [fields, List.map_map]
  refine List.map_congr_left fun i _ => ?_
  rw [Function.comp_apply, field?_cell, List.getD_eq_getElem?_getD]
  cases r[i]? with
  | none => rfl
  | some c => rfl

/-- Decoding what is written for rows gives a record for each row and a field for each column: the
content of the cell at that position, and null where the row has none or a null. -/
theorem decode_flatMap_row {width : Nat} (wide : 1 ≤ width) (rows : List Row) :
    decode (rows.flatMap (row width)) =
      rows.map fun r => (List.range width).map fun i => r[i]?.bind content? := by
  have written : rows.flatMap (row width) =
      (rows.map fun r => [0x09].intercalate (fields width r)).flatMap (· ++ [0x0A]) := by
    rw [List.flatMap_map]
    rfl
  have whole : ∀ line ∈ rows.map fun r => [0x09].intercalate (fields width r), 0x0A ∉ line := by
    intro line member
    obtain ⟨r, _, rfl⟩ := List.mem_map.mp member
    exact feed_not_mem_intercalate fun field inRow => (separator_not_mem_fields inRow).2
  rw [decode, written, lines_terminated whole, List.map_map]
  refine List.map_congr_left fun r _ => ?_
  rw [Function.comp_apply, splitOn_fields wide, field?_fields]

/-- A text that spells the mark for null next to a null, and content full of separators. -/
theorem decode_flatMap_row_separators :
    decode ([[Cell.text "\\N", .null], [.text "a\tb\n", .bytes [0xFF], .int 3]].flatMap (row 2)) =
      [[some [0x5C, 0x4E], none],
        [some [0x61, 0x09, 0x62, 0x0A], some [0x5C, 0x78, 0x66, 0x66]]] := by
  rw [decode_flatMap_row (by decide)]
  decide +kernel

end Tabular.CopyText
