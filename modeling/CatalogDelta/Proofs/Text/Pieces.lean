import CatalogDelta.Text.Classes
import CatalogDelta.Text.Pieces
import Mathlib.Data.List.DropRight

/-!
# Cutting, joining and trimming text

Cutting text at a separator undoes joining pieces that are free of it, and cutting once is known by
what stands before and after the separator. Neither cutting nor trimming brings in a character, and
nothing is left of a text after trimming just if it is blank.
-/

namespace CatalogDelta.Text

variable {separator : Char} {text before after : List Char} {parts : List (List Char)}

theorem piecesAt_eq_splitOnP (isSeparator : Char → Bool) (text : List Char) :
    piecesAt isSeparator text = text.splitOnP isSeparator := by
  induction text with
  | nil => rfl
  | cons c rest ih =>
    rw [List.splitOnP_cons_eq_if_modifyHead, ← ih, piecesAt]
    split
    · rfl
    · obtain ⟨piece, others, first⟩ :=
        List.exists_cons_of_ne_nil (ih ▸ List.splitOnP_ne_nil isSeparator rest)
      rw [first]
      rfl

theorem pieces_eq_splitOn (separator : Char) (text : List Char) :
    pieces separator text = text.splitOn separator := by
  unfold pieces
  rw [piecesAt_eq_splitOnP]
  rfl

/-- Cutting what has been joined gives the parts back if they are free of the separator. -/
theorem pieces_intercalate (free : ∀ part ∈ parts, separator ∉ part) (some : parts ≠ []) :
    pieces separator ([separator].intercalate parts) = parts := by
  rw [pieces_eq_splitOn]
  exact List.splitOn_intercalate separator free some

theorem pieces_append_cons (separator : Char) (before after : List Char) :
    pieces separator (before ++ separator :: after) =
      pieces separator before ++ pieces separator after := by
  simp only [pieces_eq_splitOn]
  exact List.splitOnP_append_cons before after (beq_self_eq_true separator)

/-- The pieces of what has been joined are the pieces of the parts. -/
theorem pieces_intercalate_flatMap (separator : Char) (some : parts ≠ []) :
    pieces separator ([separator].intercalate parts) = parts.flatMap (pieces separator) := by
  induction parts with
  | nil => exact absurd rfl some
  | cons part others ih =>
    cases others with
    | nil => rw [List.intercalate_singleton, List.flatMap_singleton]
    | cons next others =>
      rw [List.intercalate_cons_cons, List.append_assoc, List.singleton_append,
        pieces_append_cons, ih (List.cons_ne_nil _ _)]
      rfl

theorem pieces_cons_self (separator : Char) (text : List Char) :
    pieces separator (separator :: text) = [] :: pieces separator text :=
  pieces_append_cons separator [] text

theorem pieces_cons_of_ne {c : Char} (other : c ≠ separator) (text : List Char) :
    ∃ piece others, pieces separator text = piece :: others ∧
      pieces separator (c :: text) = (c :: piece) :: others := by
  obtain ⟨piece, others, first⟩ := List.exists_cons_of_ne_nil (pieces_ne_nil separator text)
  refine ⟨piece, others, first, ?_⟩
  unfold pieces at first ⊢
  simp only [piecesAt, other, decide_false, Bool.false_eq_true, ↓reduceIte, first]

/-- What is free of the separator belongs to the first piece. -/
theorem pieces_append_of_not_mem (free : separator ∉ before) (after : List Char) :
    ∃ piece others, pieces separator after = piece :: others ∧
      pieces separator (before ++ after) = (before ++ piece) :: others := by
  induction before with
  | nil =>
    obtain ⟨piece, others, first⟩ := List.exists_cons_of_ne_nil (pieces_ne_nil separator after)
    exact ⟨piece, others, first, first⟩
  | cons c rest ih =>
    rw [List.mem_cons, not_or] at free
    obtain ⟨piece, others, first, whole⟩ := ih free.2
    obtain ⟨longer, later, cut, still⟩ := pieces_cons_of_ne (Ne.symm free.1) (rest ++ after)
    obtain ⟨rfl, rfl⟩ := List.cons.inj (cut.symm.trans whole)
    exact ⟨piece, later, first, still⟩

/-- There is one piece more than there are separators. -/
theorem length_pieces (separator : Char) (text : List Char) :
    (pieces separator text).length = text.count separator + 1 := by
  induction text with
  | nil => rfl
  | cons c rest ih =>
    by_cases same : c = separator
    · subst same
      rw [pieces_cons_self, List.length_cons, ih, List.count_cons_self]
    · obtain ⟨piece, others, first, longer⟩ := pieces_cons_of_ne same rest
      rw [longer, List.count_cons_of_ne same, ← ih, first]
      rfl

theorem not_mem_of_mem_pieces {piece : List Char} (member : piece ∈ pieces separator text) :
    separator ∉ piece := by
  induction text generalizing piece with
  | nil =>
    rw [List.mem_singleton.mp member]
    exact List.not_mem_nil
  | cons c rest ih =>
    by_cases same : c = separator
    · subst same
      rw [pieces_cons_self] at member
      rcases List.mem_cons.mp member with rfl | later
      · exact List.not_mem_nil
      · exact ih later
    · obtain ⟨first, others, cut, longer⟩ := pieces_cons_of_ne same rest
      rw [longer] at member
      rw [cut] at ih
      rcases List.mem_cons.mp member with rfl | later
      · rw [List.mem_cons, not_or]
        exact ⟨Ne.symm same, ih List.mem_cons_self⟩
      · exact ih (List.mem_cons_of_mem _ later)

/-- Every character but the separators is in some piece. -/
theorem exists_piece_of_mem {c : Char} (other : c ≠ separator) (member : c ∈ text) :
    ∃ piece ∈ pieces separator text, c ∈ piece := by
  induction text with
  | nil => exact absurd member List.not_mem_nil
  | cons first rest ih =>
    by_cases same : first = separator
    · subst same
      obtain ⟨piece, known, inside⟩ := ih ((List.mem_cons.mp member).resolve_left other)
      rw [pieces_cons_self]
      exact ⟨piece, List.mem_cons_of_mem _ known, inside⟩
    · obtain ⟨piece, others, cut, longer⟩ := pieces_cons_of_ne same rest
      rw [longer]
      rw [cut] at ih
      rcases List.mem_cons.mp member with rfl | later
      · exact ⟨_, List.mem_cons_self, List.mem_cons_self⟩
      · obtain ⟨found, known, inside⟩ := ih later
        rcases List.mem_cons.mp known with rfl | further
        · exact ⟨_, List.mem_cons_self, List.mem_cons_of_mem _ inside⟩
        · exact ⟨found, List.mem_cons_of_mem _ further, inside⟩

section Cutting

variable {α : Type} [DecidableEq α] {separator : α} {text before after : List α}

theorem cutFirst_append_cons (free : separator ∉ before) (after : List α) :
    cutFirst separator (before ++ separator :: after) = some (before, after) := by
  induction before with
  | nil => simp only [List.nil_append, cutFirst, ↓reduceIte]
  | cons c rest ih =>
    rw [List.mem_cons, not_or] at free
    simp only [List.cons_append, cutFirst, Ne.symm free.1, ↓reduceIte, ih free.2, Option.map_some]

/-- A text is cut before and after its first separator. -/
theorem cutFirst_eq_some_iff :
    cutFirst separator text = some (before, after) ↔
      separator ∉ before ∧ text = before ++ separator :: after := by
  constructor
  · intro cut
    induction text generalizing before with
    | nil => contradiction
    | cons c rest ih =>
      by_cases same : c = separator
      · subst same
        simp only [cutFirst, ↓reduceIte, Option.some.injEq, Prod.mk.injEq] at cut
        obtain ⟨rfl, rfl⟩ := cut
        exact ⟨List.not_mem_nil, rfl⟩
      · simp only [cutFirst, same, ↓reduceIte, Option.map_eq_some_iff] at cut
        obtain ⟨⟨others, _⟩, inner, together⟩ := cut
        cases together
        obtain ⟨free, rfl⟩ := ih inner
        rw [List.mem_cons, not_or]
        exact ⟨⟨Ne.symm same, free⟩, rfl⟩
  · rintro ⟨free, rfl⟩
    exact cutFirst_append_cons free after

/-- Two parts of a text: neither is empty nor holds the separator. -/
def AreHalves (separator : α) (before after : List α) : Prop :=
  before ≠ [] ∧ after ≠ [] ∧ separator ∉ before ∧ separator ∉ after

theorem halves?_eq_some_iff :
    halves? separator text = some (before, after) ↔
      AreHalves separator before after ∧ text = before ++ separator :: after := by
  unfold halves? AreHalves
  rw [Option.filter_eq_some_iff, cutFirst_eq_some_iff]
  simp only [Bool.not_eq_true', Bool.or_eq_false_iff, List.isEmpty_eq_false_iff,
    List.contains_eq_mem, decide_eq_false_iff_not]
  tauto

/-- **A text is divided into its parts exactly if they are halves.** Otherwise it is not divided at
all, not even elsewhere. -/
theorem halves?_append_cons_eq_some_iff {parts : List α × List α} :
    halves? separator (before ++ separator :: after) = some parts ↔
      AreHalves separator before after ∧ parts = (before, after) := by
  refine ⟨fun divided => ?_, fun ⟨halves, same⟩ => ?_⟩
  · obtain ⟨first, second⟩ := parts
    obtain ⟨halves, whole⟩ := halves?_eq_some_iff.mp divided
    -- There is one separator in all, so that both are cut at the same place.
    have once := congrArg (List.count separator) whole
    rw [List.count_append, List.count_append, List.count_cons_self, List.count_cons_self,
      List.count_eq_zero.mpr halves.2.2.1, List.count_eq_zero.mpr halves.2.2.2] at once
    have free : separator ∉ before := List.count_eq_zero.mp (by omega)
    have cut := cutFirst_append_cons free after
    rw [whole, cutFirst_append_cons halves.2.2.1] at cut
    obtain ⟨rfl, rfl⟩ := Prod.mk.inj (Option.some.inj cut)
    exact ⟨halves, rfl⟩
  · rw [same]
    exact halves?_eq_some_iff.mpr ⟨halves, rfl⟩

end Cutting

theorem mem_of_mem_splitOnP {isSeparator : Char → Bool} {c : Char}
    {text piece : List Char} (member : piece ∈ text.splitOnP isSeparator) (inside : c ∈ piece) :
    c ∈ text := by
  rw [← piecesAt_eq_splitOnP] at member
  induction text generalizing piece with
  | nil =>
    obtain rfl := List.mem_singleton.mp member
    exact inside
  | cons d rest ih =>
    rw [piecesAt] at member
    split at member
    · rcases List.mem_cons.mp member with rfl | later
      · exact absurd inside List.not_mem_nil
      · exact List.mem_cons_of_mem d (ih later inside)
    · split at member
      · obtain rfl := List.mem_singleton.mp member
        exact List.mem_cons.mpr (.inl (List.mem_singleton.mp inside))
      · rename_i first others cut
        rcases List.mem_cons.mp member with rfl | later
        · rcases List.mem_cons.mp inside with rfl | further
          · exact List.mem_cons_self
          · exact List.mem_cons_of_mem d (ih (by rw [cut]; exact List.mem_cons_self) further)
        · exact List.mem_cons_of_mem d (ih (by rw [cut]; exact List.mem_cons_of_mem _ later) inside)

/-! ## Trimming -/

/-- The text has nothing but blanks. -/
def IsBlank (text : List Char) : Prop := ∀ c ∈ text, isBlank c = true

theorem mem_of_mem_trim {c : Char} (member : c ∈ trim text) : c ∈ text := by
  unfold trim trimFront at member
  rw [List.mem_reverse] at member
  have front := List.mem_reverse.mp ((List.dropWhile_sublist _).mem member)
  exact (List.dropWhile_sublist _).mem front

theorem trim_eq_nil_iff : trim text = [] ↔ IsBlank text := by
  have front : trimFront text = [] ↔ IsBlank text := List.dropWhile_eq_nil_iff
  rw [trim, List.reverse_eq_nil_iff, ← front]
  constructor
  · intro none
    have blank : ∀ c ∈ trimFront text, isBlank c = true := fun c member =>
      List.dropWhile_eq_nil_iff.mp none c (List.mem_reverse.mpr member)
    have again : trimFront (trimFront text) = trimFront text := List.dropWhile_idempotent _ _
    rw [← again]
    exact List.dropWhile_eq_nil_iff.mpr blank
  · intro none
    rw [none]
    rfl

/-- Nothing is left of a text just if all of it is blank. -/
theorem trimmed_eq_empty_iff {text : String} : trimmed text = "" ↔ IsBlank text.toList := by
  rw [trimmed, String.ofList_eq_empty_iff, trim_eq_nil_iff]

end CatalogDelta.Text
