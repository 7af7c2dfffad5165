import CatalogDelta.Proofs.Pattern.Fits
import CatalogDelta.Proofs.Pattern.Matching

/-!
# The meaning of a pattern of globs

A pattern that is no regular expression covers a name if one of its pieces matches the name. The
pieces stand between commas and bars, without the blanks around them; pieces of blanks do not count,
but a pattern of blanks covers every name.
-/

namespace CatalogDelta

namespace NamePattern

/-- The pieces of a pattern between commas and bars, without the blanks around them; those of blanks
are left out. -/
def globPieces (text : String) : List (List Char) :=
  (((Text.trim text.toList).splitOnP fun c => c = ',' || c = '|').map Text.trim).filter (· ≠ [])

/-- The text, without the blanks around it, is not marked as a regular expression. -/
def Unmarked (text : String) : Prop := ¬ regexMark.toList <+: Text.trim text.toList

variable {text : String} {rule : CaseRule}

theorem globTexts_trim (text : String) :
    globTexts (Text.trim text.toList) = globPieces text := by
  unfold globTexts globPieces
  rw [Text.piecesAt_eq_splitOnP]
  refine List.filter_congr fun piece _ => ?_
  cases piece <;> rfl

theorem globPieces_plain (plain : Text.IsPlain text.toList) :
    ∀ piece ∈ globPieces text, Text.IsPlain piece := by
  intro piece member c inside
  obtain ⟨whole, cut, rfl⟩ := List.mem_map.mp (List.mem_filter.mp member).1
  exact plain c (Text.mem_of_mem_trim (Text.mem_of_mem_splitOnP cut (Text.mem_of_mem_trim inside)))

/-- A pattern that is not blank is the list of its pieces. -/
theorem parse_of_unmarked (unmarked : Unmarked text) (inked : ¬ Text.IsBlank text.toList)
    (rule : CaseRule) :
    parse (some text) rule =
      .ok ⟨Text.trimmed text, rule, .globs ((globPieces text).map Glob.tokens)⟩ := by
  have trimmed : (Text.trimmed text).toList = Text.trim text.toList := String.toList_ofList
  have some_left : (Text.trimmed text).isEmpty = false := by
    rw [Bool.eq_false_iff, ne_eq, String.isEmpty_iff, ← String.toList_eq_nil_iff, trimmed]
    exact mt Text.trim_eq_nil_iff.mp inked
  have normal : normalized (some text) = Text.trimmed text := by
    rw [normalized, Option.getD_some, some_left]
    rfl
  have apart : regexMark.toList.isPrefixOf (Text.trimmed text).toList = false := by
    rw [Bool.eq_false_iff, ne_eq, List.isPrefixOf_iff_prefix, trimmed]
    exact unmarked
  rw [parse, normal, ruleOf, apart, trimmed, globTexts_trim]
  rfl

theorem covers_globs (read : String) (rule : CaseRule) (pieces : List (List Char)) (name : String) :
    covers ⟨read, rule, .globs (pieces.map Glob.tokens)⟩ name = true ↔
      ∃ piece ∈ pieces, Glob.covers rule (Glob.tokens piece) name.toList = true := by
  simp only [covers, List.any_map, List.any_eq_true, Function.comp_apply]

/-- A pattern of globs can always be read. -/
theorem exists_parse (unmarked : Unmarked text) (rule : CaseRule) :
    ∃ pattern, parse (some text) rule = .ok pattern := by
  by_cases blank : Text.IsBlank text.toList
  · exact ⟨_, parse_of_blank blank rule⟩
  · exact ⟨_, parse_of_unmarked unmarked blank rule⟩

theorem covers_parsed_iff {pattern : NamePattern} (plain : Text.IsPlain text.toList)
    (unmarked : Unmarked text) (read : parse (some text) rule = .ok pattern) {name : String}
    (plainToo : Text.IsPlain name.toList) :
    pattern.covers name = true ↔ Text.IsBlank text.toList ∨
      ∃ piece ∈ globPieces text, Glob.Matches rule piece name.toList := by
  by_cases blank : Text.IsBlank text.toList
  · obtain rfl := Except.ok.inj ((parse_of_blank blank rule).symm.trans read)
    refine iff_of_true ?_ (.inl blank)
    simp only [covers, List.any_cons, Glob.covers_star, Bool.true_or]
  · obtain rfl := Except.ok.inj ((parse_of_unmarked unmarked blank rule).symm.trans read)
    rw [covers_globs, or_iff_right blank]
    exact exists_congr fun piece => and_congr_right fun member =>
      Glob.covers_tokens_iff (globPieces_plain plain piece member) plainToo

/-- Neither the order of the pieces counts nor how often each one stands. -/
theorem covers_eq_of_same_pieces {other : String} {pattern another : NamePattern}
    (unmarked : Unmarked text) (unmarkedToo : Unmarked other)
    (inked : ¬ Text.IsBlank text.toList) (inkedToo : ¬ Text.IsBlank other.toList)
    (read : parse (some text) rule = .ok pattern) (readToo : parse (some other) rule = .ok another)
    (same : ∀ piece, piece ∈ globPieces other ↔ piece ∈ globPieces text) (name : String) :
    another.covers name = pattern.covers name := by
  obtain rfl := Except.ok.inj ((parse_of_unmarked unmarked inked rule).symm.trans read)
  obtain rfl := Except.ok.inj ((parse_of_unmarked unmarkedToo inkedToo rule).symm.trans readToo)
  rw [Bool.eq_iff_iff, covers_globs, covers_globs]
  exact exists_congr fun piece => and_congr_left fun _ => same piece

/-- **A pattern of globs covers the names that one of its pieces matches.** A pattern of blanks
covers every name. Neither the order nor the repetition of pieces counts, nor does the letter case of
the name unless it was asked to. -/
theorem covers_iff_piece_matches (plain : Text.IsPlain text.toList) (unmarked : Unmarked text)
    (rule : CaseRule) :
    ∃ pattern, parse (some text) rule = .ok pattern ∧
      (∀ name : String, Text.IsPlain name.toList →
        (pattern.covers name = true ↔ Text.IsBlank text.toList ∨
          ∃ piece ∈ globPieces text, Glob.Matches rule piece name.toList)) ∧
      (∀ (other : String) (another : NamePattern), Unmarked other →
        parse (some other) rule = .ok another → ¬ Text.IsBlank text.toList →
        ¬ Text.IsBlank other.toList →
        (∀ piece, piece ∈ globPieces other ↔ piece ∈ globPieces text) →
        ∀ name, another.covers name = pattern.covers name) ∧
      (rule = .ignored → ∀ name other : String, Text.IsPlain name.toList →
        Text.IsPlain other.toList →
        name.toList.map Char.toLower = other.toList.map Char.toLower →
        pattern.covers name = pattern.covers other) := by
  obtain ⟨pattern, read⟩ := exists_parse unmarked rule
  have meaning {name : String} (plainToo : Text.IsPlain name.toList) :=
    covers_parsed_iff plain unmarked read plainToo
  refine ⟨pattern, read, fun _ => meaning, ?_, ?_⟩
  · intro other another unmarkedToo readToo inked inkedToo same
    exact covers_eq_of_same_pieces unmarked unmarkedToo inked inkedToo read readToo same
  · rintro rfl name other name_plain other_plain lower
    rw [Bool.eq_iff_iff, meaning name_plain, meaning other_plain]
    refine or_congr_right (exists_congr fun piece => and_congr_right fun _ => ?_)
    exact ⟨fun matched => matched.change_case lower, fun matched => matched.change_case lower.symm⟩

/-- The piece of blanks before the comma covers nothing, the piece behind it covers its names in
either letter case. -/
theorem digit_piece_covers :
    Text.IsPlain " , a[0-9]*|q? ".toList ∧ Unmarked " , a[0-9]*|q? " ∧
      ∃ pattern, parse (some " , a[0-9]*|q? ") = .ok pattern ∧
        pattern.covers "a7-x" = true ∧ pattern.covers "A7-X" = true := by
  have plain : Text.IsPlain " , a[0-9]*|q? ".toList := Text.isPlain_of_all rfl
  have unmarked : Unmarked " , a[0-9]*|q? " := by unfold Unmarked; decide +kernel
  obtain ⟨pattern, read, meaning, -, cased⟩ := covers_iff_piece_matches plain unmarked .ignored
  have name_plain : Text.IsPlain "a7-x".toList := Text.isPlain_of_all rfl
  have other_plain : Text.IsPlain "A7-X".toList := Text.isPlain_of_all rfl
  have piece : "a[0-9]*".toList ∈ globPieces " , a[0-9]*|q? " := by decide +kernel
  have digit : Glob.Closes "0-9]*".toList "0-9".toList "*".toList :=
    ⟨[], '0', "-9".toList, by decide, by decide, by decide, .inr ⟨rfl, by decide⟩⟩
  have seven : Glob.Belongs .ignored "0-9".toList '7' := by
    have inside : ∃ item ∈ (Glob.readSet "0-9".toList).2, item.Has .ignored '7' :=
      ⟨.range '0' '9', by decide, '7', by decide, by decide, .inl rfl⟩
    exact iff_of_true inside (by decide)
  have matched : Glob.Matches .ignored "a[0-9]*".toList "a7-x".toList :=
    .exact (by decide) (.inl rfl) (.bracket digit seven (.star "-x".toList .nil))
  have covered := (meaning "a7-x" name_plain).mpr (.inr ⟨_, piece, matched⟩)
  have same := cased rfl "a7-x" "A7-X" name_plain other_plain (by decide)
  exact ⟨plain, unmarked, pattern, read, covered, same ▸ covered⟩

end NamePattern
end CatalogDelta
