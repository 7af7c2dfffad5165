import CatalogDelta.Pattern.Name
import CatalogDelta.Proofs.Text.Pieces

/-!
# Names that fit the text of a pattern

A name fits a text if the text can be read as a pattern and the pattern covers the name. Every name
fits a text of blanks.
-/

namespace CatalogDelta

/-- A test that holds of the empty text holds of some tail of every text. -/
theorem Glob.someTail_of_nil {test : List Char → Bool} (holds : test [] = true)
    (text : List Char) : someTail test text = true := by
  induction text with
  | nil => exact holds
  | cons c rest ih => rw [someTail, ih, Bool.or_true]

/-- A single star covers every text. -/
theorem Glob.covers_star (rule : CaseRule) (text : List Char) :
    covers rule [.star] text = true := by
  rw [covers]
  exact someTail_of_nil rfl text

namespace NamePattern

variable {pattern : Option String} {parsed : NamePattern}

/-- The text can be read as a pattern that covers the name; letter case does not count. -/
def Fits (pattern : Option String) (name : String) : Prop :=
  ∃ parsed, parse pattern = .ok parsed ∧ parsed.covers name = true

theorem fits_iff_covers (read : parse pattern = .ok parsed) (name : String) :
    Fits pattern name ↔ parsed.covers name = true := by
  constructor
  · rintro ⟨other, same, covers⟩
    rw [read] at same
    obtain rfl := Except.ok.inj same
    exact covers
  · exact fun covers => ⟨parsed, read, covers⟩

instance (pattern : Option String) (name : String) : Decidable (Fits pattern name) :=
  match read : parse pattern with
  | .ok parsed => decidable_of_iff (parsed.covers name = true) (fits_iff_covers read name).symm
  | .error _ => .isFalse fun ⟨_, same, _⟩ => nomatch read.symm.trans same

/-- Blanks are read as the pattern that covers every name. -/
theorem parse_of_blank {text : String} (blank : ∀ c ∈ text.toList, Text.isBlank c = true)
    (rule : CaseRule) :
    parse (some text) rule = .ok ⟨everything, rule, .globs [[.star]]⟩ := by
  have everything : normalized (some text) = everything := by
    rw [normalized, Option.getD_some, Text.trimmed, Text.trim_eq_nil_iff.mpr blank]
    rfl
  have star : (globTexts NamePattern.everything.toList).map Glob.tokens = [[.star]] := by
    decide +kernel
  have unmarked : regexMark.toList.isPrefixOf NamePattern.everything.toList = false := by decide
  rw [parse, everything, ruleOf, unmarked, star]
  rfl

theorem fits_of_blank {text : String} (blank : ∀ c ∈ text.toList, Text.isBlank c = true)
    (name : String) : Fits (some text) name := by
  refine (fits_iff_covers (parse_of_blank blank .ignored) name).mpr ?_
  simp only [covers, List.any_cons, Glob.covers_star, Bool.true_or]

end NamePattern
end CatalogDelta
