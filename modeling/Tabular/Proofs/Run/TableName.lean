import Tabular.Proofs.Files.Reference
import Tabular.Run.Gather

/-!
# The name of a table as a reference

A table is named after its file without the quotes, and after the path if there is one. Such a name is
a reference itself. It leads to the same input where the quotes that it lacks are not needed.
-/

set_option autoImplicit false

namespace Tabular.Run

open Reference

variable {around after : Surroundings} {reference : String} {opened : Opened}

/-- What makes the name of a table a reference to its input. The quotes that the name lacks are not
needed: without them the file is not the standard input and has no more quotes around it. And where
there is a path the name is cut where the reference is, and is not a file of its own. All of this
holds of a file that has no quotes. -/
structure FoundAgain (around : Surroundings) (opened : Opened) : Prop where
  sameInput : isStandardInput (unquoted opened.file) = isStandardInput opened.file
  settled : unquoted (unquoted opened.file) = unquoted opened.file
  cut : ∀ path, opened.path = some path → unquoted opened.file = opened.file ∨
    (unquoted opened.file).toList.getLast? ≠ some ':' ∧
      fileContent? around (unquoted opened.file ++ "::" ++ path) = none

theorem resolve_tableName (resolved : resolve reference around = (.ok (some opened), after))
    (again : FoundAgain around opened) :
    resolve (tableName opened) around =
      (.ok (some { opened with file := unquoted opened.file }), after) := by
  have input := resolved
  rw [resolve] at resolved
  split at resolved
  · cases resolved
  · rename_i found
    cases resolved
    have same := open?_congr again.sameInput again.settled
    rw [tableName, resolve, same, found]
  · rename_i later absent
    obtain ⟨plain, rfl⟩ := open?_of_none absent
    split at resolved
    · cases resolved
    · rename_i file path split
      have whole : reference = String.ofList file ++ "::" ++ String.ofList path := by
        refine String.toList_inj.mp ?_
        rw [← append_of_splitPath? split]
        simp
      cases found : open? (String.ofList file) later with
      | mk outcome last =>
          rw [found] at resolved
          rcases outcome with error | content?
          · cases resolved
          rcases content? with none_found | content
          · cases resolved
          cases resolved
          rcases again.cut _ rfl with bare | ⟨noColon, nowhere⟩
          · rw [tableName]
            simp only [bare, ← whole]
            exact input
          · have apart : ¬ [':', ':'] <:+: (unquoted (String.ofList file)).toList := by
              intro inside
              have before := inside.trans (unquoted_within (String.ofList file))
              rw [String.toList_ofList] at before
              exact apart_of_splitPath? split (before.trans (List.prefix_append file [':']).isInfix)
            have noPattern : isPattern (unquoted (String.ofList file) ++ "::" ++
                String.ofList path) = false := by
              rw [isPattern_path, isPattern_unquoted, ← isPattern_path, ← whole]
              exact plain
            have same := open?_congr again.sameInput again.settled
            have cut := resolve_eq_open? (colons_apart apart noColon) noPattern nowhere
            rw [same, found] at cut
            exact cut

/-- The table that is made for the name of a table is the one that is made for the reference. -/
theorem gatherOne_tableName {engineState : Type} (engine : Engine engineState) (options : ReadOptions)
    (resolved : resolve reference around = (.ok (some opened), after))
    (again : FoundAgain around opened) (now : engineState) :
    gatherOne engine options (tableName opened) (around, now) =
      gatherOne engine options reference (around, now) := by
  have name : tableName { opened with file := unquoted opened.file } = tableName opened := by
    rw [tableName, tableName, again.settled]
  have read : optionsFor options { opened with file := unquoted opened.file } =
      optionsFor options opened := by
    rw [optionsFor, optionsFor, again.settled]
  simp only [gatherOne, resolve_tableName resolved again, resolved, name, read]

end Tabular.Run
