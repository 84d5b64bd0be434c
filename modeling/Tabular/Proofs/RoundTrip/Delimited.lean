import Tabular.Proofs.Sink.Lines
import Tabular.Proofs.Source.Window

/-!
# Delimited records that are written and read back

A field is quoted when something in it would end it, and a quote inside it is doubled. So the bytes
of a written field leave the reader inside that field, whatever the field holds, and the delimiter
or line end behind it is the first one that is taken for one.
-/

set_option autoImplicit false

namespace Tabular.Delimited

/-- A dialect that is read back: it quotes where it has to, with a double quote, and its delimiter
is an ASCII character that cannot be taken for a quote or a line end. -/
structure Dialect.Reversible (dialect : Dialect) : Prop where
  ascii : dialect.delimiter.toNat < 0x80
  apart : dialect.delimiter ∉ ['"', '\r', '\n']
  quote : dialect.quote = '"'
  quoting : dialect.quoting ≠ .never
  lineEnd : dialect.lineEnd = ['\n'] ∨ dialect.lineEnd = ['\r', '\n']

/-- The byte of the delimiter. -/
def Dialect.mark (dialect : Dialect) : UInt8 :=
  UInt8.ofNat dialect.delimiter.toNat

variable {dialect : Dialect}

namespace Dialect.Reversible

private theorem toNat_mark (reversible : dialect.Reversible) :
    dialect.mark.toNat = dialect.delimiter.toNat := by
  have ascii := reversible.ascii
  rw [mark, UInt8.toNat_ofNat', Nat.mod_eq_of_lt (by omega)]

private theorem encodeChar_delimiter (reversible : dialect.Reversible) :
    Utf8.encodeChar dialect.delimiter = [dialect.mark] := by
  have one := Utf8.encodeChar_one reversible.ascii
  rwa [Char.ofNat_toNat] at one

private theorem mark_ne (reversible : dialect.Reversible) {b : UInt8}
    (special : Char.ofNat b.toNat ∈ ['"', '\r', '\n']) : dialect.mark ≠ b := by
  rintro rfl
  rw [reversible.toNat_mark, Char.ofNat_toNat] at special
  exact reversible.apart special

private theorem mark_ne_quote (reversible : dialect.Reversible) :
    (dialect.mark == Delimited.quote) = false :=
  beq_eq_false_iff_ne.mpr (reversible.mark_ne (by decide))

private theorem isLineEnd_mark (reversible : dialect.Reversible) :
    isLineEnd dialect.mark = false := by
  have carriage := beq_eq_false_iff_ne.mpr (reversible.mark_ne (b := 0x0D) (by decide))
  have feed := beq_eq_false_iff_ne.mpr (reversible.mark_ne (b := 0x0A) (by decide))
  rw [isLineEnd, carriage, feed]
  rfl

end Dialect.Reversible

/-! ## The bytes of a field -/

variable {delimiter : UInt8} {place : Place} {field : List UInt8} {fields : Fields}
  {records : List Fields}

private theorem foldl_step_quoted {bytes : List UInt8} (absent : quote ∉ bytes)
    (field : List UInt8) :
    bytes.foldl (Scan.step delimiter) ⟨.quoted, field, fields, records⟩ =
      ⟨.quoted, bytes.reverse ++ field, fields, records⟩ := by
  induction bytes generalizing field with
  | nil => rfl
  | cons b bytes ih =>
      obtain ⟨other, absent⟩ := not_or.mp (mt List.mem_cons.mpr absent)
      have kept : Scan.step delimiter ⟨.quoted, field, fields, records⟩ b =
          ⟨.quoted, b :: field, fields, records⟩ :=
        if_neg fun same => other (eq_of_beq same).symm
      rw [List.foldl_cons, kept, ih absent, List.reverse_cons, List.append_assoc]
      rfl

private theorem foldl_step_plain {bytes : List UInt8}
    (plain : ∀ b ∈ bytes, b ≠ delimiter ∧ isLineEnd b = false) (field : List UInt8) :
    bytes.foldl (Scan.step delimiter) ⟨.plain, field, fields, records⟩ =
      ⟨.plain, bytes.reverse ++ field, fields, records⟩ := by
  induction bytes generalizing field with
  | nil => rfl
  | cons b bytes ih =>
      obtain ⟨⟨other, inline⟩, plain⟩ := List.forall_mem_cons.mp plain
      have kept : Scan.step delimiter ⟨.plain, field, fields, records⟩ b =
          ⟨.plain, b :: field, fields, records⟩ := by
        change Scan.stepPlain delimiter _ b = _
        rw [Scan.stepPlain, if_neg (mt eq_of_beq other), if_neg (by rw [inline]; decide)]
        rfl
      rw [List.foldl_cons, kept, ih plain, List.reverse_cons, List.append_assoc]
      rfl

def doubled (text : List Char) : List Char :=
  text.flatMap fun c => if c == '"' then [c, c] else [c]

/-- Inside quotes a doubled quote is one of the field, and nothing else ends the field. -/
theorem foldl_step_doubled (text : List Char) (field : List UInt8) :
    (Utf8.encode (doubled text)).foldl (Scan.step delimiter) ⟨.quoted, field, fields, records⟩ =
      ⟨.quoted, (Utf8.encode text).reverse ++ field, fields, records⟩ := by
  induction text generalizing field with
  | nil => rfl
  | cons c text ih =>
      have front : Utf8.encode (doubled (c :: text)) =
          Utf8.encode (if c == '"' then [c, c] else [c]) ++ Utf8.encode (doubled text) :=
        Utf8.encode_append _ _
      have first : (Utf8.encode (if c == '"' then [c, c] else [c])).foldl (Scan.step delimiter)
          ⟨.quoted, field, fields, records⟩ =
          ⟨.quoted, (Utf8.encodeChar c).reverse ++ field, fields, records⟩ := by
        by_cases mark : c = '"'
        · subst mark
          rfl
        · have absent : quote ∉ Utf8.encodeChar c := by
            intro member
            refine mark ?_
            rw [← Char.ofNat_toNat c, Utf8.toNat_of_mem_encodeChar (by decide) member]
            rfl
          have single : Utf8.encode [c] = Utf8.encodeChar c := List.flatMap_singleton _ _
          rw [if_neg (by rwa [beq_iff_eq]), single, foldl_step_quoted absent]
      have whole : Utf8.encode (c :: text) = Utf8.encodeChar c ++ Utf8.encode text := rfl
      rw [front, List.foldl_append, first, ih, whole, List.reverse_append, List.append_assoc]

theorem not_mem_encode_of_plain (reversible : dialect.Reversible) {text : List Char}
    (plain : ∀ c ∈ text, dialect.isSpecial c = false) :
    ∀ b ∈ Utf8.encode text, b ≠ quote ∧ b ≠ dialect.mark ∧ isLineEnd b = false := by
  have absent {c : Char} (special : dialect.isSpecial c = true) : c ∉ text := by
    intro member
    rw [plain c member] at special
    cases special
  have delimiter : dialect.mark ∉ Utf8.encode text := by
    refine Utf8.not_mem_encode (reversible.toNat_mark ▸ reversible.ascii) ?_
    rw [reversible.toNat_mark, Char.ofNat_toNat]
    exact absent (by simp [Dialect.isSpecial])
  have mark : quote ∉ Utf8.encode text :=
    Utf8.not_mem_encode (by decide) (absent (by simp [Dialect.isSpecial, reversible.quote, quote]))
  have feed : 0x0A ∉ Utf8.encode text :=
    Utf8.not_mem_encode (by decide) (absent (by simp [Dialect.isSpecial]))
  have carriage : 0x0D ∉ Utf8.encode text :=
    Utf8.not_mem_encode (by decide) (absent (by simp [Dialect.isSpecial]))
  intro b member
  refine ⟨fun same => mark (same ▸ member), fun same => delimiter (same ▸ member), ?_⟩
  rw [isLineEnd, Bool.or_eq_false_iff, beq_eq_false_iff_ne, beq_eq_false_iff_ne]
  exact ⟨fun same => carriage (same ▸ member), fun same => feed (same ▸ member)⟩

private theorem foldl_step_quotedField (reversible : dialect.Reversible) {text : List Char}
    (quotes : dialect.quotes text = true) {start : Place}
    (fresh : start = .recordStart ∨ start = .fieldStart) :
    (Utf8.encode (dialect.field text)).foldl (Scan.step dialect.mark) ⟨start, [], fields, records⟩ =
      ⟨.afterQuote, (Utf8.encode text).reverse, fields, records⟩ := by
  have written : dialect.field text = '"' :: (doubled text ++ ['"']) := by
    rw [Dialect.field, if_pos quotes, Dialect.quoted, reversible.quote]
    rfl
  have bytes : Utf8.encode (dialect.field text) =
      quote :: (Utf8.encode (doubled text) ++ [quote]) := by
    rw [written]
    exact congrArg (List.cons quote) (Utf8.encode_append _ _)
  have opened : Scan.step dialect.mark ⟨start, [], fields, records⟩ quote =
      ⟨.quoted, [], fields, records⟩ := by
    rcases fresh with rfl | rfl <;> rfl
  rw [bytes, List.foldl_cons, opened, List.foldl_append, foldl_step_doubled, List.append_nil]
  rfl

/-- What is written without quotes has nothing in it that would end a field. -/
theorem isSpecial_of_not_quotes (reversible : dialect.Reversible) {text : List Char}
    (bare : ¬dialect.quotes text = true) : ∀ c ∈ text, dialect.isSpecial c = false := by
  have quoting := reversible.quoting
  rw [Dialect.quotes] at bare
  cases chosen : dialect.quoting with
  | never => exact absurd chosen quoting
  | always => exact absurd (by rw [chosen]) bare
  | necessary =>
      rw [chosen, Bool.not_eq_true] at bare
      exact fun c member => Bool.eq_false_iff.mpr (List.any_eq_false.mp bare c member)

private theorem step_bare {b : UInt8} (bare : b ≠ quote) (other : b ≠ delimiter)
    (inline : isLineEnd b = false) {start : Place}
    (fresh : start = .recordStart ∨ start = .fieldStart) :
    Scan.step delimiter ⟨start, [], fields, records⟩ b = ⟨.plain, [b], fields, records⟩ := by
  have kept : Scan.stepFieldStart delimiter ⟨start, [], fields, records⟩ b =
      ⟨.plain, [b], fields, records⟩ := by
    rw [Scan.stepFieldStart, if_neg (mt eq_of_beq bare), Scan.stepPlain,
      if_neg (mt eq_of_beq other), if_neg (by rw [inline]; decide)]
    rfl
  rcases fresh with rfl | rfl
  · exact (if_neg (by rw [inline]; decide)).trans kept
  · exact kept

/-- A written field is read as its bytes. The reader is then where a delimiter ends the field, and
where a line end ends the record, unless nothing was written. -/
theorem foldl_step_field (reversible : dialect.Reversible) (text : List Char) {start : Place}
    (fresh : start = .recordStart ∨ start = .fieldStart) (fields : Fields)
    (records : List Fields) :
    ∃ place, (Utf8.encode (dialect.field text)).foldl (Scan.step dialect.mark)
        ⟨start, [], fields, records⟩ = ⟨place, (Utf8.encode text).reverse, fields, records⟩ ∧
      place ≠ .quoted ∧ (place = .recordStart → start = .recordStart ∧ dialect.field text = []) := by
  by_cases quotes : dialect.quotes text = true
  · exact ⟨.afterQuote, foldl_step_quotedField reversible quotes fresh, by decide, nofun⟩
  · have bytes := not_mem_encode_of_plain reversible (isSpecial_of_not_quotes reversible quotes)
    rw [Dialect.field, if_neg quotes]
    cases first : Utf8.encode text with
    | nil =>
        refine ⟨start, rfl, ?_, fun same => ⟨same, ?_⟩⟩
        · rcases fresh with rfl | rfl <;> decide
        · by_contra filled
          exact Utf8.encode_ne_nil filled first
    | cons b rest =>
        rw [first] at bytes
        obtain ⟨⟨bare, other, inline⟩, later⟩ := List.forall_mem_cons.mp bytes
        refine ⟨.plain, ?_, by decide, nofun⟩
        rw [List.foldl_cons, step_bare bare other inline fresh,
          foldl_step_plain (fun c member => (later c member).2), List.reverse_cons]

/-! ## The bytes of a record -/

private theorem step_delimiter (reversible : dialect.Reversible) (other : place ≠ .quoted) :
    Scan.step dialect.mark ⟨place, field, fields, records⟩ dialect.mark =
      ⟨.fieldStart, [], field.reverse :: fields, records⟩ := by
  have ended : Scan.stepPlain dialect.mark ⟨place, field, fields, records⟩ dialect.mark =
      ⟨.fieldStart, [], field.reverse :: fields, records⟩ :=
    if_pos (beq_self_eq_true _)
  have quote := reversible.mark_ne_quote
  have inline := reversible.isLineEnd_mark
  cases place with
  | quoted => exact absurd rfl other
  | plain => exact ended
  | recordStart => simpa [Scan.step, Scan.stepFieldStart, quote, inline] using ended
  | fieldStart => simpa [Scan.step, Scan.stepFieldStart, quote] using ended
  | afterQuote => simpa [Scan.step, quote] using ended

private theorem step_lineEnd (reversible : dialect.Reversible) {b : UInt8}
    (ends : isLineEnd b = true) (outside : place ≠ .quoted) (begun : place ≠ .recordStart) :
    Scan.step dialect.mark ⟨place, field, fields, records⟩ b =
      Scan.endRecord ⟨place, field, fields, records⟩ := by
  have other : (b == dialect.mark) = false := by
    rw [beq_eq_false_iff_ne]
    rintro rfl
    rw [reversible.isLineEnd_mark] at ends
    cases ends
  have quote : (b == quote) = false := by
    rw [beq_eq_false_iff_ne]
    rintro rfl
    cases ends
  cases place with
  | quoted => exact absurd rfl outside
  | recordStart => exact absurd rfl begun
  | plain => simp [Scan.step, Scan.stepPlain, other, ends]
  | fieldStart => simp [Scan.step, Scan.stepFieldStart, Scan.stepPlain, quote, other, ends]
  | afterQuote => simp [Scan.step, Scan.stepPlain, quote, other, ends]

/-- The reader behind the fields of a record, where a line end ends the record. -/
theorem foldl_step_fields (reversible : dialect.Reversible) {record : List (List Char)}
    (filled : record ≠ []) {start : Place} (fresh : start = .recordStart ∨ start = .fieldStart)
    (fields : Fields) (records : List Fields) :
    ∃ scan, (Utf8.encode (dialect.fields record)).foldl (Scan.step dialect.mark)
        ⟨start, [], fields, records⟩ = scan ∧
      (scan.field.reverse :: scan.fields).reverse = fields.reverse ++ record.map Utf8.encode ∧
      scan.records = records ∧ scan.place ≠ .quoted ∧
      (scan.place = .recordStart → start = .recordStart ∧ dialect.fields record = []) := by
  induction record generalizing fields start with
  | nil => exact absurd rfl filled
  | cons text record ih =>
      obtain ⟨place, read, outside, begun⟩ :=
        foldl_step_field reversible text fresh fields records
      cases record with
      | nil =>
          have alone : dialect.fields [text] = dialect.field text := List.intercalate_singleton
          refine ⟨_, rfl, ?_⟩
          rw [alone, read]
          simpa using ⟨outside, begun⟩
      | cons next record =>
          obtain ⟨scan, later, held, kept, apart, started⟩ :=
            ih (List.cons_ne_nil next record) (.inr rfl) (Utf8.encode text :: fields)
          have whole : Utf8.encode (dialect.fields (text :: next :: record)) =
              Utf8.encode (dialect.field text) ++
                dialect.mark :: Utf8.encode (dialect.fields (next :: record)) := by
            have single : Utf8.encode [dialect.delimiter] = [dialect.mark] := by
              rw [Utf8.encode, List.flatMap_singleton, reversible.encodeChar_delimiter]
            rw [Dialect.fields, List.map_cons, List.map_cons, List.intercalate_cons_cons,
              Utf8.encode_append, Utf8.encode_append, single, List.append_assoc]
            rfl
          refine ⟨scan, ?_, ?_, kept, apart, fun same => ?_⟩
          · rw [whole, List.foldl_append, read, List.foldl_cons, step_delimiter reversible outside,
              List.reverse_reverse, later]
          · rw [held]
            simp
          · cases (started same).1

private theorem foldl_step_lineEnd (reversible : dialect.Reversible) (outside : place ≠ .quoted)
    (begun : place ≠ .recordStart) :
    (Utf8.encode dialect.lineEnd).foldl (Scan.step dialect.mark) ⟨place, field, fields, records⟩ =
      Scan.endRecord ⟨place, field, fields, records⟩ := by
  rcases reversible.lineEnd with ends | ends
  · rw [ends]
    exact step_lineEnd reversible rfl outside begun
  · -- The second character of a line end stands where the next record would begin.
    have carriage : Scan.step dialect.mark ⟨place, field, fields, records⟩ 0x0D =
        Scan.endRecord ⟨place, field, fields, records⟩ :=
      step_lineEnd reversible rfl outside begun
    rw [ends]
    exact congrArg (Scan.step dialect.mark · 0x0A) carriage

/-- Without a character, the fields of a record are one empty field. -/
theorem eq_singleton_of_fields {record : List (List Char)} (filled : record ≠ [])
    (empty : dialect.fields record = []) : record = [[]] := by
  cases record with
  | nil => exact absurd rfl filled
  | cons text record =>
      cases record with
      | nil =>
          have alone : dialect.field text = [] := by
            rwa [Dialect.fields, List.map_cons, List.map_nil, List.intercalate_singleton] at empty
          rw [Dialect.field] at alone
          split at alone
          · cases alone
          · rw [alone]
      | cons next record =>
          rw [Dialect.fields, List.map_cons, List.map_cons, List.intercalate_cons_cons] at empty
          simp at empty

private theorem foldl_step_record (reversible : dialect.Reversible) {record : List (List Char)}
    (filled : record ≠ []) :
    (Utf8.encode (dialect.record record)).foldl (Scan.step dialect.mark)
        ⟨.recordStart, [], [], records⟩ =
      ⟨.recordStart, [], [], record.map Utf8.encode :: records⟩ := by
  by_cases empty : dialect.fields record = []
  · -- A lone empty field is written as two quotes, as there would be no record otherwise.
    have written : dialect.record record = '"' :: '"' :: dialect.lineEnd := by
      rw [Dialect.record, empty, reversible.quote]
      rfl
    have quotes : Utf8.encode ('"' :: '"' :: dialect.lineEnd) =
        quote :: quote :: Utf8.encode dialect.lineEnd := rfl
    rw [written, quotes, eq_singleton_of_fields filled empty]
    exact foldl_step_lineEnd reversible (by decide : Place.afterQuote ≠ .quoted) (by decide)
  · have written : dialect.record record = dialect.fields record ++ dialect.lineEnd := by
      rw [Dialect.record]
      exact congrArg (· ++ dialect.lineEnd) (if_neg fun none => empty (List.isEmpty_iff.mp none))
    obtain ⟨⟨place, field, fields, given⟩, read, held, kept, outside, begun⟩ :=
      foldl_step_fields reversible filled (.inl rfl) [] records
    rw [written, Utf8.encode_append, List.foldl_append, read,
      foldl_step_lineEnd reversible outside fun same => empty (begun same).2, Scan.endRecord, held,
      kept]
    rfl

private theorem foldl_step_records (reversible : dialect.Reversible)
    {texts : List (List (List Char))} (filled : ∀ record ∈ texts, record ≠ []) :
    (Utf8.encode (texts.flatMap dialect.record)).foldl (Scan.step dialect.mark)
        ⟨.recordStart, [], [], records⟩ =
      ⟨.recordStart, [], [], (texts.map (List.map Utf8.encode)).reverse ++ records⟩ := by
  induction texts generalizing records with
  | nil => rfl
  | cons record texts ih =>
      obtain ⟨first, others⟩ := List.forall_mem_cons.mp filled
      rw [List.flatMap_cons, Utf8.encode_append, List.foldl_append,
        foldl_step_record reversible first, ih others, List.map_cons, List.reverse_cons,
        List.append_assoc]
      rfl

/-! ## The start of a text -/

/-- A byte order mark that is left out is a character of its own. -/
theorem withoutMark_encode {text : List Char} (unmarked : text.head? ≠ some '\ufeff') :
    withoutMark (Utf8.encode text) = Utf8.encode text := by
  unfold withoutMark
  split
  · rename_i rest marked
    have byMark : Utf8.next 0xEF (0xBB :: 0xBF :: rest) = (some '\ufeff', rest) :=
      Utf8.next_of_encodeChar_append rfl
    cases text with
    | nil => cases marked
    | cons c text =>
        have byText : Utf8.next 0xEF (0xBB :: 0xBF :: rest) = (some c, Utf8.encode text) :=
          Utf8.next_of_encodeChar_append marked
        rw [byMark] at byText
        obtain rfl := Option.some.inj (Prod.mk.inj byText).1
        exact absurd rfl unmarked
  · rfl

/-- A field begins with a quote or as its text does. -/
theorem head?_field {text : List Char} {c : Char} (first : c ∈ (dialect.field text).head?) :
    c = dialect.quote ∨ c ∈ text.head? := by
  rw [Dialect.field] at first
  split at first
  · left
    exact (Option.some.inj first).symm
  · exact .inr first

private theorem head?_fields {text : List Char} {record : List (List Char)} {c : Char}
    (first : c ∈ (dialect.fields (text :: record)).head?) :
    c = dialect.quote ∨ c = dialect.delimiter ∨ c ∈ text.head? := by
  have field (inside : c ∈ (dialect.field text).head?) :
      c = dialect.quote ∨ c = dialect.delimiter ∨ c ∈ text.head? :=
    (head?_field inside).imp id .inr
  cases record with
  | nil =>
      rw [Dialect.fields, List.map_cons, List.map_nil, List.intercalate_singleton] at first
      exact field first
  | cons next record =>
      rw [Dialect.fields, List.map_cons, List.map_cons, List.intercalate_cons_cons,
        List.append_assoc, List.head?_append] at first
      cases begun : (dialect.field text).head? with
      | none =>
          rw [begun] at first
          exact .inr (.inl (Option.some.inj first).symm)
      | some d =>
          rw [begun] at first
          exact field (begun ▸ first)

private theorem head?_record {text : List Char} {record : List (List Char)} {c : Char}
    (first : c ∈ (dialect.record (text :: record)).head?) :
    c = dialect.quote ∨ c = dialect.delimiter ∨ c ∈ text.head? := by
  rw [Dialect.record] at first
  cases written : dialect.fields (text :: record) with
  | nil =>
      rw [written] at first
      exact .inl (Option.some.inj first).symm
  | cons d fields =>
      rw [written] at first
      have inside : c ∈ (dialect.fields (text :: record)).head? := by
        rw [written]
        exact first
      exact head?_fields inside

theorem record_ne_nil (record : List (List Char)) : dialect.record record ≠ [] := by
  intro empty
  obtain ⟨front, -⟩ := List.append_eq_nil_iff.mp empty
  split at front
  · cases front
  · rename_i filled
    exact filled (List.isEmpty_iff.mpr front)

/-! ## Written records -/

/-- Records of one width, of which the first one does not begin with a byte order mark. -/
structure Table (width : Nat) (records : List (List String)) : Prop where
  wide : 1 ≤ width
  width : ∀ record ∈ records, record.length = width
  unmarked : ∀ record ∈ records.head?, ∀ cell ∈ record.head?, cell.toList.head? ≠ some '\ufeff'

/-- The text of records. -/
def written (dialect : Dialect) (records : List (List String)) : List Char :=
  (records.map (List.map String.toList)).flatMap dialect.record

variable {width : Nat} {rows : List (List String)}

private theorem Table.filled (table : Table width rows) :
    ∀ record ∈ rows.map (List.map String.toList), record ≠ [] := by
  intro record member
  obtain ⟨row, given, rfl⟩ := List.mem_map.mp member
  rw [← List.length_pos_iff, List.length_map, table.width row given]
  exact table.wide

private theorem Table.head?_written (table : Table width rows) (reversible : dialect.Reversible) :
    (written dialect rows).head? ≠ some '\ufeff' := by
  intro marked
  cases rows with
  | nil => cases marked
  | cons row rows =>
      have filled := table.filled _ List.mem_cons_self
      cases row with
      | nil => exact absurd rfl filled
      | cons cell cells =>
          have first : '\ufeff' ∈ (dialect.record ((cell :: cells).map String.toList)).head? := by
            have front : written dialect ((cell :: cells) :: rows) =
                dialect.record ((cell :: cells).map String.toList) ++ written dialect rows := rfl
            rw [front, List.head?_append] at marked
            cases begun : (dialect.record ((cell :: cells).map String.toList)).head? with
            | none => exact absurd (List.head?_eq_none_iff.mp begun) (record_ne_nil _)
            | some c =>
                rw [begun] at marked
                exact marked
          rcases head?_record first with quote | delimiter | text
          · rw [reversible.quote] at quote
            cases quote
          · have ascii := reversible.ascii
            rw [← delimiter] at ascii
            exact absurd ascii (by decide)
          · exact table.unmarked _ rfl cell rfl text

/-- The records of a written text are those that were written. -/
theorem Table.recordFeed (table : Table width rows) (reversible : dialect.Reversible) :
    recordFeed dialect.mark ⟨Utf8.encode (written dialect rows), true⟩ =
      Feed.ofList (rows.map (List.map Utf8.bytes)) := by
  have fields : (rows.map (List.map String.toList)).map (List.map Utf8.encode) =
      rows.map (List.map Utf8.bytes) := by
    rw [List.map_map]
    refine List.map_congr_left fun row _ => ?_
    exact List.map_map
  have scanned : scan dialect.mark (Utf8.encode (written dialect rows)) =
      ⟨.recordStart, [], [], (rows.map (List.map Utf8.bytes)).reverse⟩ := by
    rw [scan, withoutMark_encode (table.head?_written reversible), written, ← fields]
    exact (foldl_step_records reversible table.filled).trans (by rw [List.append_nil])
  rw [Delimited.recordFeed, scanned, Input.feed]
  simp [Scan.finish, Feed.ofList]

/-! ## Written results -/

/-- The records of a result: the columns, if they are wanted, and the rows. -/
def recordsOf (header : Bool) (columns : List String) (rows : List (List String)) :
    List (List String) :=
  (if header then [columns] else []) ++ rows

def lineOf (dialect : Dialect) (record : List String) : List Char :=
  (dialect.record (record.map String.toList)).dropLast

theorem lineOf_append (reversible : dialect.Reversible) (record : List String) :
    lineOf dialect record ++ ['\n'] = dialect.record (record.map String.toList) := by
  have ends : ∃ front, dialect.record (record.map String.toList) = front ++ ['\n'] := by
    rw [Dialect.record]
    rcases reversible.lineEnd with ends | ends
    · exact ⟨_, by rw [ends]⟩
    · exact ⟨_, by rw [ends, List.append_cons]⟩
  obtain ⟨front, ends⟩ := ends
  rw [lineOf, ends, List.dropLast_concat]

private theorem terminated_lineOf (reversible : dialect.Reversible) (records : List (List String)) :
    terminated (records.map (lineOf dialect)) = written dialect records := by
  rw [terminated, written, List.flatMap_map, List.flatMap_map]
  congr 1
  funext record
  exact lineOf_append reversible record

private theorem linewise (reversible : dialect.Reversible) (null : Option String) (header : Bool)
    {columns : List String} (named : header = true → columns ≠ []) (types : List String) :
    Sink.Linewise ⟨.delimited dialect header, null⟩ columns types
      ((recordsOf header columns []).map (lineOf dialect))
      (fun row => lineOf dialect (row.map (Cell.toTextOr null))) where
  start := by
    rw [terminated_lineOf reversible]
    cases header with
    | false => rfl
    | true =>
        have some : columns.isEmpty = false := List.isEmpty_eq_false_iff.mpr (named rfl)
        have line : written dialect (recordsOf true columns []) =
            dialect.record (columns.map String.toList) :=
          List.append_nil _
        simp only [Sink.start, some, line, Bool.not_false, Bool.and_self, if_true]
  row := by
    intro row
    simp only [Sink.row, lineOf_append reversible]
  finish := rfl

/-- A result is written as its records, one after the other. -/
theorem writeResult_delimited (reversible : dialect.Reversible) (null : Option String)
    (header : Bool) {columns : List String} (named : header = true → columns ≠ [])
    (types : List String) (rows : List (List String)) :
    ∃ output, Run.writeResult TextOutput.writer
        ⟨columns, types, Feed.ofList (rows.map (List.map Cell.text))⟩
        { sink := ⟨.delimited dialect header, null⟩ } = (.ok (), output) ∧
      output.text.toList = written dialect (recordsOf header columns rows) := by
  obtain ⟨output, done, text⟩ :=
    (linewise reversible null header named types).writeResult (rows.map (List.map Cell.text))
  have lines : (rows.map (List.map Cell.text)).map
      (fun row => lineOf dialect (row.map (Cell.toTextOr null))) = rows.map (lineOf dialect) := by
    rw [List.map_map]
    refine List.map_congr_left fun row _ => ?_
    have texts : (row.map Cell.text).map (Cell.toTextOr null) = row := by
      rw [List.map_map]
      exact List.map_id' row
    exact congrArg (lineOf dialect) texts
  refine ⟨output, done, ?_⟩
  rw [text, lines, ← List.map_append, terminated_lineOf reversible, recordsOf, List.append_nil]
  rfl

/-! ## Read results -/

private theorem foldl_max_of_same {lengths : List Nat} {width start : Nat}
    (same : ∀ length ∈ lengths, length = width) (below : start ≤ width)
    (reached : start = width ∨ lengths ≠ []) : lengths.foldl Nat.max start = width := by
  induction lengths generalizing start with
  | nil => exact reached.elim id fun none => absurd rfl none
  | cons length lengths ih =>
      obtain ⟨rfl, same⟩ := List.forall_mem_cons.mp same
      have next : Nat.max start length = length := Nat.max_eq_right below
      rw [List.foldl_cons, next]
      exact ih same (Nat.le_refl length) (.inl rfl)

variable {options : ReadOptions} {records : List (List String)}

/-- As many columns as every record has fields, if there is a record. -/
theorem Table.length_names (table : Table width records) (inhabited : records ≠ [])
    (fromStart : options.skip = 0) (window : 1 ≤ options.ahead) :
    (names options (records.map (List.map Utf8.bytes))).length = width := by
  have seen : header options (records.map (List.map Utf8.bytes)) ++
      Delimited.window options (records.map (List.map Utf8.bytes)) =
      (records.take (headers options + (options.ahead - headers options))).map
        (List.map Utf8.bytes) := by
    rw [header, Delimited.window, body, fromStart, List.drop_zero, ← List.take_add, List.map_take]
  rw [Delimited.length_names, seen]
  refine foldl_max_of_same (fun length member => ?_) (Nat.zero_le width) (.inr ?_)
  · obtain ⟨fields, known, rfl⟩ := List.mem_map.mp member
    obtain ⟨record, taken, rfl⟩ := List.mem_map.mp known
    rw [List.length_map]
    exact table.width record (List.mem_of_mem_take taken)
  · obtain ⟨record, rest, rfl⟩ := List.exists_cons_of_ne_nil inhabited
    have count : headers options + (options.ahead - headers options) =
        (headers options + (options.ahead - headers options) - 1) + 1 := by omega
    rw [count]
    exact List.cons_ne_nil _ _

/-- A written row is laid out as it was. -/
theorem shown_bytes {row names : List String} (width : row.length = names.length)
    (plain : options.null = none) :
    shown options names (row.map Utf8.bytes) = row.map Cell.text := by
  have cells : cells options.null (row.map Utf8.bytes) = row.map Cell.text := by
    rw [plain, Delimited.cells, List.map_map]
    refine List.map_congr_left fun text _ => ?_
    change (Cell.ofBytes (Utf8.bytes text)).nullIf none = _
    rw [Cell.ofBytes, Utf8.string?_bytes]
    rfl
  rw [shown, cells, Row.fit_of_length (by rw [List.length_map, width])]

private theorem body_recordsOf {columns : List String} (fromStart : options.skip = 0) :
    body options ((recordsOf options.header columns rows).map (List.map Utf8.bytes)) =
      rows.map (List.map Utf8.bytes) := by
  rw [body, fromStart, headers, recordsOf]
  cases options.header with
  | false => rfl
  | true => rfl

private theorem Table.map_shown {columns : List String}
    (table : Table width (recordsOf options.header columns rows)) (fromStart : options.skip = 0)
    (window : 1 ≤ options.ahead) (plain : options.null = none) {some : List (List String)}
    (inside : some ⊆ rows) :
    (some.map (List.map Utf8.bytes)).map (shown options (names options
        ((recordsOf options.header columns rows).map (List.map Utf8.bytes)))) =
      some.map (List.map Cell.text) := by
  rw [List.map_map]
  refine List.map_congr_left fun row member => ?_
  have known : row ∈ recordsOf options.header columns rows :=
    List.mem_append_right _ (inside member)
  have same := table.length_names (List.ne_nil_of_mem known) fromStart window
  exact shown_bytes ((table.width row known).trans same.symm) plain

/-- The columns of a header that can be used as they are. -/
theorem Table.names_header {columns : List String}
    (table : Table width (recordsOf true columns rows)) (header : options.header = true)
    (fromStart : options.skip = 0) (window : 1 ≤ options.ahead) (distinct : Distinct columns)
    (filled : "" ∉ columns) :
    names options ((recordsOf true columns rows).map (List.map Utf8.bytes)) = columns := by
  have read : headerOf (columns.map Utf8.bytes) = columns := by
    have texts : (columns.map Utf8.bytes).map Utf8.stringLossy = columns := by
      rw [List.map_map]
      exact (List.map_congr_left fun text _ => Utf8.stringLossy_bytes text).trans (List.map_id _)
    rw [headerOf, texts]
    exact headerNames_of_distinct distinct fun column known empty => filled (empty ▸ known)
  have first : ((Delimited.header options
      ((recordsOf true columns rows).map (List.map Utf8.bytes))).map headerOf).flatten = columns := by
    rw [Delimited.header, headers, header, fromStart]
    change [headerOf (columns.map Utf8.bytes)].flatten = columns
    rw [read, List.flatten_singleton]
  have front := prefix_grown columns
    (Delimited.window options ((recordsOf true columns rows).map (List.map Utf8.bytes)))
  have size := table.length_names (List.cons_ne_nil columns rows) fromStart window
  rw [names, first] at size ⊢
  refine (front.eq_of_length ?_).symm
  exact (table.width columns List.mem_cons_self).trans size.symm

/-- A written text is read as the table of its records. -/
theorem Table.source_written (table : Table width records) (reversible : dialect.Reversible)
    {text : String} (made : text.toList = written dialect records)
    (solid : dialect.delimiter ≠ ' ') :
    Delimited.source options dialect.delimiter ⟨Utf8.bytes text, true⟩ =
      .ok (Delimited.table options (records.map (List.map Utf8.bytes))) := by
  have byte : UInt8.ofNat dialect.delimiter.toNat = dialect.mark := rfl
  rw [Delimited.source, if_neg (Nat.not_le.mpr reversible.ascii), byte, Utf8.bytes, made,
    table.recordFeed reversible, beq_eq_false_iff_ne.mpr solid]
  exact sourceOf_ofList options _

/-! ## Tables -/

/-- How a table is written and read: with the same delimiter, from the first record on, and with all
its rows. -/
structure Matching (write : WriteOptions) (read : ReadOptions) : Prop where
  written : write.format = .csv
  quote : write.quote = "\""
  format : read.format = .csv ∨ read.format = .guess
  delimiter : read.delimiter = write.delimiter
  header : read.header = write.header
  fromStart : read.skip = 0
  window : 1 ≤ read.ahead
  whole : read.onlyAhead = false
  plain : read.null = none
  unnumbered : read.rowNumber = false

private theorem Matching.exists_dialect {write : WriteOptions} {read : ReadOptions}
    {delimiter : Char} (matching : Matching write read)
    (literal : Delimiter.parse write.delimiter = .ok delimiter) (ascii : delimiter.toNat < 0x80)
    (apart : delimiter ∉ ['"', '\r', '\n', ' ']) :
    ∃ dialect : Dialect, dialect.Reversible ∧ dialect.delimiter = delimiter ∧
      Sink.ofOptions write = .ok ⟨.delimited dialect write.header, write.null⟩ := by
  refine ⟨⟨delimiter, '"', if write.allQuotes then .always else .necessary,
    if write.crlf then ['\r', '\n'] else ['\n']⟩, ⟨ascii, ?_, rfl, ?_, ?_⟩, rfl, ?_⟩
  · intro member
    have listed : ['"', '\r', '\n'] ⊆ ['"', '\r', '\n', ' '] := by decide
    exact apart (listed member)
  · cases write.allQuotes with
    | false => exact nofun
    | true => exact nofun
  · cases write.crlf with
    | false => exact .inl rfl
    | true => exact .inr rfl
  · have dialect : Dialect.ofOptions write = .ok ⟨delimiter, '"',
        if write.allQuotes then .always else .necessary,
        if write.crlf then ['\r', '\n'] else ['\n']⟩ := by
      rw [Dialect.ofOptions, literal, matching.quote]
      exact if_neg (Nat.not_le.mpr ascii)
    rw [Sink.ofOptions, matching.written]
    simp only [dialect]
    rfl

private theorem Matching.read_eq {write : WriteOptions} {read : ReadOptions} {delimiter : Char}
    (matching : Matching write read) (literal : Delimiter.parse write.delimiter = .ok delimiter)
    (input : Input) : Source.read read input = Delimited.source read delimiter input := by
  have opened : Source.readPlain read input = Delimited.source read delimiter input := by
    rw [Source.readPlain, matching.delimiter, literal]
    rcases matching.format with format | format
    · rw [format]
      rfl
    · rw [format]
      rfl
  rw [Source.read, opened, matching.unnumbered]
  cases Delimited.source read delimiter input with
  | error failure => rfl
  | ok source => rfl

/-- What is written of texts is read as it was, whatever is in them: the rows in order, first those
of the window, and the columns if they are written and can be used as names. -/
theorem delimited_round_trip {write : WriteOptions} {read : ReadOptions} {delimiter : Char}
    {columns : List String} (matching : Matching write read)
    (literal : Delimiter.parse write.delimiter = .ok delimiter) (ascii : delimiter.toNat < 0x80)
    (apart : delimiter ∉ ['"', '\r', '\n', ' '])
    (table : Table width (recordsOf write.header columns rows)) (types : List String) :
    ∃ sink output source, Sink.ofOptions write = .ok sink ∧
      Run.writeResult TextOutput.writer
          ⟨columns, types, Feed.ofList (rows.map (List.map Cell.text))⟩ { sink } =
        (.ok (), output) ∧
      Source.read read ⟨Utf8.bytes output.text, true⟩ = .ok source ∧
      source.takeAhead.1 = (rows.take (read.ahead - headers read)).map (List.map Cell.text) ∧
      source.rows = Feed.ofList (rows.map (List.map Cell.text)) ∧
      (write.header = true ∧ Distinct columns ∧ "" ∉ columns → source.names = .ok columns) := by
  obtain ⟨dialect, reversible, rfl, made⟩ := matching.exists_dialect literal ascii apart
  have named : write.header = true → columns ≠ [] := by
    rintro header rfl
    rw [header] at table
    have none := table.width [] List.mem_cons_self
    have wide := table.wide
    rw [← none] at wide
    cases wide
  obtain ⟨output, done, text⟩ :=
    writeResult_delimited reversible write.null write.header named types rows
  have found : Source.read read ⟨Utf8.bytes output.text, true⟩ =
      .ok (Delimited.table read
        ((recordsOf write.header columns rows).map (List.map Utf8.bytes))) := by
    rw [matching.read_eq literal]
    exact table.source_written reversible text fun space => apart (by rw [space]; decide)
  rw [← matching.header] at table found ⊢
  refine ⟨_, output, _, made, done, found, ?ahead, ?rows, ?names⟩
  case ahead =>
    change (Delimited.window read _).map _ = _
    rw [Delimited.window, body_recordsOf matching.fromStart, ← List.map_take]
    exact table.map_shown matching.fromStart matching.window matching.plain (List.take_subset _ _)
  case rows =>
    rw [rows_table _ _ matching.whole, body_recordsOf matching.fromStart,
      table.map_shown matching.fromStart matching.window matching.plain (List.Subset.refl rows)]
  case names =>
    rintro ⟨header, distinct, filled⟩
    have some : columns.isEmpty = false :=
      List.isEmpty_eq_false_iff.mpr (named (matching.header ▸ header))
    rw [header] at table ⊢
    have read := table.names_header header matching.fromStart matching.window distinct filled
    simp only [Source.names, Source.schema, Source.schema?, Delimited.table, read, some]
    rfl

/-- A single column, with lone empty fields and one that holds quotes, the delimiter and a line end;
the second row is behind the window. -/
theorem delimited_round_trip_lone :
    let write : WriteOptions :=
      { format := .csv, delimiter := "\\x3b", header := true, crlf := true }
    let read : ReadOptions := { format := .csv, delimiter := "\\x3b", header := true, ahead := 2 }
    let columns := ["Note"]
    let rows := [[""], ["say \"hi\";\r\n"], [""]]
    Matching write read ∧ Delimiter.parse write.delimiter = .ok ';' ∧ (';').toNat < 0x80 ∧
      ';' ∉ ['"', '\r', '\n', ' '] ∧ Table 1 (recordsOf write.header columns rows) ∧
      ∃ sink output source, Sink.ofOptions write = .ok sink ∧
        Run.writeResult TextOutput.writer
            ⟨columns, ["text"], Feed.ofList (rows.map (List.map Cell.text))⟩ { sink } =
          (.ok (), output) ∧
        Source.read read ⟨Utf8.bytes output.text, true⟩ = .ok source ∧
        source.takeAhead.1 = (rows.take (read.ahead - headers read)).map (List.map Cell.text) ∧
        source.rows = Feed.ofList (rows.map (List.map Cell.text)) ∧
        (write.header = true ∧ Distinct columns ∧ "" ∉ columns → source.names = .ok columns) := by
  intro write read columns rows
  have matching : Matching write read :=
    ⟨rfl, rfl, .inl rfl, rfl, rfl, rfl, by decide, rfl, rfl, rfl⟩
  have literal : Delimiter.parse write.delimiter = .ok ';' := by decide +kernel
  have ascii : (';').toNat < 0x80 := by decide
  have apart : ';' ∉ ['"', '\r', '\n', ' '] := by decide
  have table : Table 1 (recordsOf write.header columns rows) := by
    refine ⟨by decide, by decide, ?_⟩
    rintro record ⟨⟩ cell ⟨⟩
    decide +kernel
  exact ⟨matching, literal, ascii, apart, table,
    delimited_round_trip matching literal ascii apart table ["text"]⟩

end Tabular.Delimited
