import Mathlib.Control.Monad.Basic
import Tabular.Document.Path
import Tabular.Files.Reference

/-!
# Files and paths in a reference

A reference is looked up as a whole before it is cut at its first two colons. So what is in front of
the colons is opened, with the path behind them, unless the whole is the name of a file or has a
character of a pattern: a pattern is never opened with a path, and a path with a position in
brackets makes a pattern of any name.
-/

set_option autoImplicit false

namespace Tabular.Reference

/-! ## The first two colons -/

theorem append_of_splitPath? {text file path : List Char}
    (split : splitPath? text = some (file, path)) :
    file ++ ':' :: ':' :: path = text := by
  fun_induction splitPath? text generalizing file path with
  | case1 rest =>
      cases split
      rfl
  | case2 c rest _ ih =>
      obtain ⟨⟨front, back⟩, found, same⟩ := Option.map_eq_some_iff.mp split
      cases same
      rw [List.cons_append, ih found]
  | case3 => cases split

/-- A text is cut at its first two colons, which begin earlier where a colon is in front of them. -/
theorem splitPath?_append {file : List Char} (whole : ¬ [':', ':'] <:+: file ++ [':'])
    (path : List Char) : splitPath? (file ++ ':' :: ':' :: path) = some (file, path) := by
  induction file with
  | nil => rfl
  | cons c file ih =>
      have rest : ¬ [':', ':'] <:+: file ++ [':'] := fun inside =>
        whole (inside.trans (List.suffix_cons c (file ++ [':'])).isInfix)
      have later : ∀ more, c = ':' → file ++ ':' :: ':' :: path ≠ ':' :: more := by
        rintro more rfl tail
        refine whole (List.IsPrefix.isInfix ?_)
        cases file with
        | nil => exact List.prefix_rfl
        | cons d file =>
            obtain ⟨rfl, -⟩ := List.cons.inj tail
            exact ⟨file ++ [':'], rfl⟩
      rw [List.cons_append, splitPath?, ih rest]
      · rfl
      · exact later

/-- The text in front of the cut has no two colons, not even with the first of them behind it. -/
theorem apart_of_splitPath? {text file path : List Char}
    (split : splitPath? text = some (file, path)) : ¬ [':', ':'] <:+: file ++ [':'] := by
  fun_induction splitPath? text generalizing file path with
  | case1 rest =>
      cases split
      decide
  | case2 c rest first ih =>
      obtain ⟨⟨front, back⟩, found, same⟩ := Option.map_eq_some_iff.mp split
      cases same
      have whole := append_of_splitPath? found
      intro inside
      rcases List.infix_cons_iff.mp inside with start | later
      · obtain ⟨more, same⟩ := start
        obtain ⟨colon, following⟩ := List.cons.inj same
        cases front with
        | nil => exact first _ colon.symm whole.symm
        | cons d front =>
            obtain ⟨rfl, -⟩ := List.cons.inj following
            exact first _ colon.symm whole.symm
      · exact ih found later
  | case3 => cases split

/-! ## Names without quotes -/

private theorem unquotedBy_within (quote : Char) (text : List Char) :
    unquotedBy quote text <:+: text := by
  cases text with
  | nil => exact List.infix_rfl
  | cons first rest =>
      rw [unquotedBy]
      split
      · exact (List.dropLast_prefix rest).isInfix.trans (List.suffix_cons first rest).isInfix
      · exact List.infix_rfl

theorem unquoted_within (name : String) : (unquoted name).toList <:+: name.toList := by
  rw [unquoted, String.toList_ofList]
  exact (unquotedBy_within _ _).trans (unquotedBy_within _ _)

private theorem any_unquotedBy {quote : Char} {special : Char → Bool}
    (plain : special quote = false) (text : List Char) :
    (unquotedBy quote text).any special = text.any special := by
  cases text with
  | nil => rfl
  | cons first rest =>
      rw [unquotedBy]
      split
      · rename_i quoted
        obtain ⟨start, finish⟩ := Bool.and_eq_true_iff.mp quoted
        obtain ⟨inside, rfl⟩ := List.getLast?_eq_some_iff.mp (eq_of_beq finish)
        rw [eq_of_beq start, List.dropLast_concat]
        simp [plain]
      · rfl

theorem isPattern_unquoted (name : String) : isPattern (unquoted name) = isPattern name := by
  rw [isPattern, unquoted, String.toList_ofList, any_unquotedBy (by decide),
    any_unquotedBy (by decide), isPattern]

private theorem isStandardInput_of_colon {name : String} (colon : ':' ∈ name.toList) :
    isStandardInput name = false := by
  have apart : ∀ other : String, ':' ∉ (Ascii.lower other).toList →
      Ascii.lower name ≠ Ascii.lower other := by
    intro other absent same
    refine absent (same ▸ ?_)
    rw [Ascii.lower, String.toList_ofList]
    exact List.mem_map.mpr ⟨':', colon, by decide⟩
  have whole : name ≠ "" ∧ name ≠ "-" := by
    constructor
    · rintro rfl
      exact absurd colon (by decide)
    · rintro rfl
      exact absurd colon (by decide)
  have other : Ascii.sameName name "stdin" = false :=
    beq_false_of_ne (apart "stdin" (by decide +kernel))
  simp [isStandardInput, whole.1, whole.2, other]

/-! ## Looking up a reference -/

/-- The content of the plain file that a name stands for. -/
def fileContent? (around : Surroundings) (name : String) : Option (List UInt8) :=
  around.tree.content? (expandHome around.home (unquoted name))

variable {around after : Surroundings} {file path : String} {input : Input}

/-- What a name stands for is told by what it is without its quotes, but for the standard input. -/
theorem open?_congr {name other : String} (sameInput : isStandardInput name = isStandardInput other)
    (bare : unquoted name = unquoted other) : open? name = open? other := by
  funext around
  rw [open?, open?, sameInput, bare]

theorem open?_of_none {name : String} (none_found : open? name around = (.ok none, after)) :
    isPattern name = false ∧ after = around := by
  simp only [open?, isPattern_unquoted] at none_found
  split at none_found
  · cases none_found
  · split at none_found
    · cases found : readPattern (expandHome around.home (unquoted name)) around.tree with
      | error error => simp [found, Except.map] at none_found
      | ok input => simp [found, Except.map] at none_found
    · rename_i plain
      exact ⟨Bool.eq_false_iff.mpr plain, (congrArg Prod.snd none_found).symm⟩

theorem colon_mem (file path : String) : ':' ∈ (file ++ "::" ++ path).toList := by
  rw [String.toList_append, String.toList_append]
  exact List.mem_append_left _ (List.mem_append_right _ (by decide))

/-- What is in front of the first two colons is opened where the whole is no pattern and no file. -/
theorem resolve_eq_open? (apart : ¬ [':', ':'] <:+: file.toList ++ [':'])
    (plain : isPattern (file ++ "::" ++ path) = false)
    (absent : fileContent? around (file ++ "::" ++ path) = none) :
    resolve (file ++ "::" ++ path) around =
      ((open? file around).1.map fun found => found.map fun input => ⟨input, file, some path⟩,
        (open? file around).2) := by
  have whole : open? (file ++ "::" ++ path) around = (.ok none, around) := by
    rw [fileContent?] at absent
    simp only [open?, isStandardInput_of_colon (colon_mem file path), isPattern_unquoted, plain,
      absent, Bool.false_eq_true, if_false, Option.map_none]
  have split : splitPath? (file ++ "::" ++ path).toList = some (file.toList, path.toList) := by
    rw [String.toList_append, String.toList_append, List.append_assoc]
    exact splitPath?_append apart path.toList
  simp only [resolve, whole, split, String.ofList_toList]

/-- A pattern is looked up with all that stands behind it. -/
theorem resolve_of_isPattern (pattern : isPattern (file ++ "::" ++ path) = true) :
    resolve (file ++ "::" ++ path) around =
      ((readPattern (expandHome around.home (unquoted (file ++ "::" ++ path))) around.tree).map
        fun input => some ⟨input, file ++ "::" ++ path, none⟩, around) := by
  have whole : open? (file ++ "::" ++ path) around =
      ((readPattern (expandHome around.home (unquoted (file ++ "::" ++ path))) around.tree).map some,
        around) := by
    simp only [open?, isStandardInput_of_colon (colon_mem file path), isPattern_unquoted, pattern,
      Bool.false_eq_true, if_false, if_true]
  rw [resolve, whole]
  cases readPattern (expandHome around.home (unquoted (file ++ "::" ++ path))) around.tree with
  | error error => rfl
  | ok input => rfl

theorem isPattern_append (first second : String) :
    isPattern (first ++ second) = (isPattern first || isPattern second) := by
  rw [isPattern, String.toList_append, List.any_append, isPattern, isPattern]

theorem isPattern_path (file path : String) :
    isPattern (file ++ "::" ++ path) = (isPattern file || isPattern path) := by
  have colons : isPattern "::" = false := by decide
  rw [isPattern_append, isPattern_append, colons, Bool.or_false]

theorem colons_apart {file : List Char} (whole : ¬ [':', ':'] <:+: file)
    (noColon : file.getLast? ≠ some ':') : ¬ [':', ':'] <:+: file ++ [':'] := by
  intro inside
  rcases List.infix_concat_iff.mp inside with last | before
  · obtain ⟨front, same⟩ := last
    have ends : front ++ [':'] ++ [':'] = file ++ [':'] := by
      rw [List.append_assoc]
      exact same
    refine noColon ?_
    rw [← List.append_cancel_right ends]
    exact List.getLast?_concat
  · exact whole before

/-- A path opens the same input as its file alone, when neither of them has a character of a pattern
and the whole is not the name of a file. Where the file ends with a colon the cut is before that
colon. With a character of a pattern in one of them, the whole is a pattern and has no path. -/
theorem resolve_path (whole : ¬ [':', ':'] <:+: file.toList)
    (opened : open? file around = (.ok (some input), after))
    (absent : fileContent? around (file ++ "::" ++ path) = none) :
    let reference := file ++ "::" ++ path
    (isPattern file = false → isPattern path = false →
      (file.toList.getLast? ≠ some ':' →
        resolve reference around = (.ok (some ⟨input, file, some path⟩), after)) ∧
      ∀ shorter, file = shorter ++ ":" → resolve reference around =
        ((open? shorter around).1.map fun found => found.map fun input =>
          ⟨input, shorter, some (":" ++ path)⟩, (open? shorter around).2)) ∧
      (isPattern file = true ∨ isPattern path = true → resolve reference around =
        ((readPattern (expandHome around.home (unquoted reference)) around.tree).map fun input =>
          some ⟨input, reference, none⟩, around)) := by
  intro reference
  constructor
  · intro plainFile plainPath
    have plain : isPattern (file ++ "::" ++ path) = false := by
      rw [isPattern_path, plainFile, plainPath]
      rfl
    constructor
    · intro noColon
      have cut := resolve_eq_open? (colons_apart whole noColon) plain absent
      rw [opened] at cut
      exact cut
    · rintro shorter rfl
      have moved : shorter ++ ":" ++ "::" ++ path = shorter ++ "::" ++ (":" ++ path) := by
        refine String.toList_inj.mp ?_
        simp
      have apart : ¬ [':', ':'] <:+: shorter.toList ++ [':'] := by
        rw [String.toList_append] at whole
        exact whole
      rw [moved] at plain absent
      have cut := resolve_eq_open? apart plain absent
      rw [← moved] at cut
      exact cut
  · intro pattern
    refine resolve_of_isPattern ?_
    rw [isPattern_path]
    exact Bool.or_eq_true_iff.mpr pattern

/-- One file, `a`. -/
def lone : Surroundings := { tree := .folder [("a", .file [0x31, 0x0A])] }

private theorem open?_lone : open? "\x60a\x60" lone =
    (.ok (some { bytes := [0x31, 0x0A] }), lone) := rfl

theorem resolve_path_quoted :
    open? "\x60a\x60" lone = (.ok (some { bytes := [0x31, 0x0A] }), lone) ∧
      fileContent? lone ("\x60a\x60" ++ "::" ++ "b.c") = none ∧
      resolve ("\x60a\x60" ++ "::" ++ "b.c") lone =
        (.ok (some ⟨{ bytes := [0x31, 0x0A] }, "\x60a\x60", some "b.c"⟩), lone) := by
  have absent : fileContent? lone ("\x60a\x60" ++ "::" ++ "b.c") = none := rfl
  have both := resolve_path (by decide +kernel) open?_lone absent
  refine ⟨open?_lone, absent, ?_⟩
  exact (both.1 (by decide) (by decide)).1 (by decide +kernel)

/-- With a position in brackets the whole is a pattern that matches no file, though its file can be
opened and its path can be read. -/
theorem resolve_path_position :
    open? "a" lone = (.ok (some { bytes := [0x31, 0x0A] }), lone) ∧
      fileContent? lone ("a" ++ "::" ++ "b[0]") = none ∧
      Path.parse "b[0]" = ⟨["b", "0"]⟩ ∧
      resolve ("a" ++ "::" ++ "b[0]") lone = (.error (.noMatchFound "a::b[0]"), lone) := by
  have pattern : Pattern.parts "a::b[0]".toList =
      .ok [[.literal 'a', .literal ':', .literal ':', .literal 'b', .listed [.one '0']]] := by
    decide +kernel
  have missing : Pattern.files "a::b[0]".toList lone.tree = .ok [] := by
    have start : lone.tree.start? (String.ofList "a::b[0]".toList) = some lone.tree := rfl
    simp only [Pattern.files, pattern, bind, Except.bind, start]
    simp [lone, Pattern.below, Pattern.literalName?, Pattern.among, Pattern.named,
      Pattern.matchesName, Pattern.isFolders, Pattern.Token.matchesOne]
  have alone : expandHome lone.home (unquoted ("a" ++ "::" ++ "b[0]")) = "a::b[0]" := rfl
  refine ⟨rfl, rfl, by decide +kernel, ?_⟩
  rw [resolve_of_isPattern (by decide), alone, readPattern, missing]
  rfl

end Tabular.Reference
