import CatalogDelta.Proofs.Act.Gives
import CatalogDelta.Proofs.Text.Pieces
import CatalogDelta.Selector

/-!
# Selectors that can be read

A selector is read from texts exactly if its patterns can be read, and each half of each of its
exclusions. A glob can always be read, an expression only if it can be compiled.
-/

namespace CatalogDelta

open Act (exists_of_bind_eq_ok exists_mapM_iff)

namespace NamePattern

/-- The pattern is no expression, or it is one that can be compiled. -/
def IsReadable (pattern : String) : Prop :=
  regexMark.toList.isPrefixOf (normalized (some pattern)).toList = true →
    ∃ compiled, Regex.Expression.compile
      ((normalized (some pattern)).toList.drop regexMark.length) true = .ok compiled

theorem exists_parse_iff (pattern : String) :
    (∃ parsed, parse (some pattern) = .ok parsed) ↔ IsReadable pattern := by
  unfold parse ruleOf IsReadable
  by_cases marked : regexMark.toList.isPrefixOf (normalized (some pattern)).toList
  · simp only [marked, ↓reduceIte, true_implies, decide_true]
    cases Regex.Expression.compile _ true with
    | ok compiled => exact iff_of_true ⟨_, rfl⟩ ⟨compiled, rfl⟩
    | error problem =>
      exact iff_of_false (fun ⟨_, same⟩ => nomatch same) fun ⟨_, same⟩ => nomatch same
  · simp only [marked, Bool.false_eq_true, ↓reduceIte, false_implies, iff_true]
    exact ⟨_, rfl⟩

end NamePattern

namespace Exclusion

/-- What stands before and after the first point of an exclusion. -/
def halves (entry : String) : List String :=
  match Text.cutFirst '.' entry.toList with
  | none => []
  | some (database, table) => [String.ofList database, String.ofList table]

theorem exists_parse_iff {entry : String} (point : '.' ∈ entry.toList) :
    (∃ parsed, parse entry = .ok parsed) ↔ ∀ half ∈ halves entry, NamePattern.IsReadable half := by
  obtain ⟨before, after, whole, free⟩ := List.eq_append_cons_of_mem point
  have cut : Text.cutFirst '.' entry.toList = some (before, after) :=
    Text.cutFirst_eq_some_iff.mpr ⟨free, whole⟩
  unfold parse halves
  simp only [cut, List.forall_mem_cons, List.not_mem_nil, false_implies, implies_true, and_true,
    ← NamePattern.exists_parse_iff]
  constructor
  · rintro ⟨parsed, read⟩
    obtain ⟨database, databaseRead, read⟩ := exists_of_bind_eq_ok read
    obtain ⟨table, tableRead, -⟩ := exists_of_bind_eq_ok read
    exact ⟨⟨database, databaseRead⟩, ⟨table, tableRead⟩⟩
  · rintro ⟨⟨database, databaseRead⟩, ⟨table, tableRead⟩⟩
    rw [databaseRead, tableRead]
    exact ⟨_, rfl⟩

end Exclusion

/-- A selector with patterns that can be read needs its exclusions to be read. -/
theorem Selector.exists_parse_iff {databases tables : String} {exclude : List String}
    (database : NamePattern.IsReadable databases) (table : NamePattern.IsReadable tables) :
    (∃ parsed, parse (some databases) (some tables) exclude = .ok parsed) ↔
      ∀ entry ∈ exclude, ∃ parsed, Exclusion.parse entry = .ok parsed := by
  obtain ⟨databasePattern, databaseRead⟩ := (NamePattern.exists_parse_iff databases).mpr database
  obtain ⟨tablePattern, tableRead⟩ := (NamePattern.exists_parse_iff tables).mpr table
  rw [← exists_mapM_iff, parse, databaseRead, tableRead]
  constructor
  · rintro ⟨parsed, read⟩
    obtain ⟨_, same, read⟩ := exists_of_bind_eq_ok read
    cases same
    obtain ⟨_, same, read⟩ := exists_of_bind_eq_ok read
    cases same
    obtain ⟨exclusions, exclusionsRead, -⟩ := exists_of_bind_eq_ok read
    exact ⟨exclusions, exclusionsRead⟩
  · rintro ⟨exclusions, exclusionsRead⟩
    rw [exclusionsRead]
    exact ⟨_, rfl⟩

end CatalogDelta
