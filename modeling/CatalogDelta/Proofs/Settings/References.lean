import CatalogDelta.Settings.Environment

/-!
# References in a text

A text is divided from left to right. Wherever a reference may begin, one is taken, in braces up to
the first that closes or plain and as long as it goes on; any other character stands for itself. So
there is one division of each text, and it is the one that is found. Main statement: `divides_iff`.
-/

namespace CatalogDelta.Environment

variable {text name rest : List Char} {pieces : List Piece}

/-- A text begins with a reference, which is written in some way and gives a name. -/
inductive Begins : (text written name rest : List Char) → Prop
  | braced {name rest : List Char} (named : name ≠ []) (unclosed : closing ∉ name) :
    Begins ('$' :: opening :: (name ++ closing :: rest)) ('$' :: opening :: (name ++ [closing])) name
      rest
  | plain {first : Char} {others rest : List Char} (starts : startsName first = true)
    (goesOn : ∀ c ∈ others, continuesName c = true)
    (longest : ∀ c ∈ rest.head?, continuesName c = false) :
    Begins ('$' :: first :: (others ++ rest)) ('$' :: first :: others) (first :: others) rest

/-- The division of a text: a reference wherever one begins, and elsewhere the next character. -/
inductive Divides : List Char → List Piece → Prop
  | nil : Divides [] []
  | reference {text written name rest : List Char} {pieces : List Piece}
    (begins : Begins text written name rest) (others : Divides rest pieces) :
    Divides text (.reference written name :: pieces)
  | plain {c : Char} {rest : List Char} {pieces : List Piece}
    (none : ∀ written name after, ¬ Begins (c :: rest) written name after)
    (others : Divides rest pieces) : Divides (c :: rest) (.plain c :: pieces)

/-- What a piece looks like in the text. -/
def Piece.written : Piece → List Char
  | .plain c => [c]
  | .reference written _ => written

theorem Begins.text_eq {written : List Char} (begins : Begins text written name rest) :
    text = written ++ rest := by
  cases begins with
  | braced named unclosed => simp only [List.cons_append, List.append_assoc, List.nil_append]
  | plain starts goesOn longest => rfl

/-- A division leaves nothing out. -/
theorem Divides.flatMap_written (divides : Divides text pieces) :
    pieces.flatMap Piece.written = text := by
  induction divides with
  | nil => rfl
  | reference begins others ih =>
    rw [List.flatMap_cons, ih, begins.text_eq]
    rfl
  | plain none others ih =>
    rw [List.flatMap_cons, ih]
    rfl

/-! ## Reading a name -/

/-- What is taken from the front of a text, and what is left. -/
theorem takeWhile_dropWhile_iff {p : Char → Bool} {front : List Char} :
    text.takeWhile p = front ∧ text.dropWhile p = rest ↔
      text = front ++ rest ∧ (∀ c ∈ front, p c = true) ∧ ∀ c ∈ rest.head?, p c = false := by
  constructor
  · rintro ⟨rfl, rfl⟩
    refine ⟨(List.takeWhile_append_dropWhile).symm, fun c member => ?_, ?_⟩
    · exact List.all_eq_true.mp List.all_takeWhile c member
    · intro c first
      have stops := List.head?_dropWhile_not p text
      rw [Option.mem_def.mp first] at stops
      exact stops
  · rintro ⟨rfl, all, stops⟩
    have none : rest.takeWhile p = [] ∧ rest.dropWhile p = rest := by
      cases rest with
      | nil => exact ⟨rfl, rfl⟩
      | cons c others =>
        have stop : ¬ p c = true := Bool.eq_false_iff.mp (stops c rfl)
        exact ⟨List.takeWhile_cons_of_neg stop, List.dropWhile_cons_of_neg stop⟩
    rw [List.takeWhile_append_of_pos all, List.dropWhile_append_of_pos all, none.1, none.2]
    exact ⟨List.append_nil front, rfl⟩

theorem bracedName?_eq_some_iff :
    bracedName? text = some (name, rest) ↔
      text = name ++ closing :: rest ∧ closing ∉ name ∧ name ≠ [] := by
  have cut : (text.takeWhile (· ≠ closing) = name ∧
        text.dropWhile (· ≠ closing) = closing :: rest) ↔
      text = name ++ closing :: rest ∧ closing ∉ name := by
    rw [takeWhile_dropWhile_iff]
    simp only [decide_eq_true_eq, List.head?_cons, Option.mem_def, Option.some.injEq,
      forall_eq', ne_eq, not_true_eq_false, decide_false, and_true]
    exact and_congr_right fun _ =>
      ⟨fun all member => all _ member rfl, fun absent c member same => absent (same ▸ member)⟩
  rw [← and_assoc, ← cut]
  unfold bracedName?
  constructor
  · intro found
    dsimp only at found
    split at found
    · cases found
    · rename_i c others left
      obtain ⟨-, -, stops⟩ := takeWhile_dropWhile_iff.mp ⟨rfl, left⟩
      have closes : c = closing := by simpa using stops c rfl
      split at found
      · cases found
      · rename_i named
        cases found
        exact ⟨⟨rfl, closes ▸ left⟩, fun empty => named (List.isEmpty_iff.mpr empty)⟩
  · rintro ⟨⟨rfl, left⟩, named⟩
    dsimp only
    rw [left]
    exact if_neg fun empty => named (List.isEmpty_iff.mp empty)

theorem plainName?_eq_some_iff :
    plainName? text = some (name, rest) ↔
      ∃ first others, text = first :: (others ++ rest) ∧ name = first :: others ∧
        startsName first = true ∧ (∀ c ∈ others, continuesName c = true) ∧
        ∀ c ∈ rest.head?, continuesName c = false := by
  cases text with
  | nil =>
    refine iff_of_false (Option.some_ne_none _).symm ?_
    rintro ⟨_, _, same, -⟩
    exact absurd same (List.cons_ne_nil _ _).symm
  | cons first others =>
    rw [plainName?]
    by_cases starts : startsName first = true
    · rw [if_pos starts, Option.some.injEq, Prod.mk.injEq]
      constructor
      · rintro ⟨rfl, left⟩
        obtain ⟨whole, all, stops⟩ := takeWhile_dropWhile_iff.mp ⟨rfl, left⟩
        exact ⟨first, _, congrArg (first :: ·) whole, rfl, starts, all, stops⟩
      · rintro ⟨_, taken, same, rfl, -, all, stops⟩
        obtain ⟨rfl, whole⟩ := List.cons.inj same
        obtain ⟨front, left⟩ := takeWhile_dropWhile_iff.mpr ⟨whole, all, stops⟩
        exact ⟨congrArg (first :: ·) front, left⟩
    · rw [if_neg starts]
      refine iff_of_false (Option.some_ne_none _).symm ?_
      rintro ⟨_, _, same, -, also, -⟩
      exact starts ((List.cons.inj same).1 ▸ also)

/-- A name is read after a sign exactly where a reference begins. -/
theorem nameAfterSign?_eq_some_iff :
    nameAfterSign? text = some (name, rest) ↔ ∃ written, Begins ('$' :: text) written name rest := by
  constructor
  · intro found
    cases text with
    | nil => cases found
    | cons c others =>
      rw [nameAfterSign?] at found
      split at found
      · rename_i opens
        obtain ⟨rfl, unclosed, named⟩ := bracedName?_eq_some_iff.mp found
        subst opens
        exact ⟨_, .braced named unclosed⟩
      · obtain ⟨first, more, whole, rfl, starts, goesOn, longest⟩ :=
          plainName?_eq_some_iff.mp found
        rw [whole]
        exact ⟨_, .plain starts goesOn longest⟩
  · rintro ⟨written, begins⟩
    cases begins with
    | braced named unclosed =>
      rw [nameAfterSign?, if_pos rfl]
      exact bracedName?_eq_some_iff.mpr ⟨rfl, unclosed, named⟩
    | @plain first others _ starts goesOn longest =>
      have apart : first ≠ opening := by
        rintro rfl
        exact absurd starts (by decide)
      rw [nameAfterSign?, if_neg apart]
      exact plainName?_eq_some_iff.mpr ⟨first, others, rfl, rfl, starts, goesOn, longest⟩

/-! ## The division -/

theorem Begins.head_eq {written : List Char} (begins : Begins text written name rest) :
    ∃ tail more, text = '$' :: tail ∧ written = '$' :: more ∧ tail = more ++ rest := by
  cases begins with
  | braced named unclosed =>
    refine ⟨_, _, rfl, rfl, ?_⟩
    simp only [List.cons_append, List.append_assoc, List.nil_append]
  | plain starts goesOn longest => exact ⟨_, _, rfl, rfl, rfl⟩

theorem divide_of_begins {written : List Char} (begins : Begins text written name rest) :
    divide text = .reference written name :: divide rest := by
  obtain ⟨tail, more, rfl, rfl, whole⟩ := begins.head_eq
  have found := nameAfterSign?_eq_some_iff.mpr ⟨_, begins⟩
  have front : tail.take (tail.length - rest.length) = more := by
    rw [whole, List.length_append, Nat.add_sub_cancel, List.take_left]
  rw [divide, if_pos rfl]
  split
  · rename_i own after same
    obtain ⟨rfl, rfl⟩ := Prod.mk.inj (Option.some.inj (same.symm.trans found))
    rw [front]
  · rename_i none
    exact absurd (none.symm.trans found) (Option.some_ne_none _).symm

theorem divide_of_not_begins {c : Char}
    (none : ∀ written name after, ¬ Begins (c :: rest) written name after) :
    divide (c :: rest) = .plain c :: divide rest := by
  rw [divide]
  split
  · rename_i sign
    subst sign
    split
    · rename_i name after found
      obtain ⟨written, begins⟩ := nameAfterSign?_eq_some_iff.mp found
      exact absurd begins (none written name after)
    · rfl
  · rfl

theorem Begins.length_lt {written : List Char} (begins : Begins text written name rest) :
    rest.length < text.length := by
  obtain ⟨tail, more, rfl, -, rfl⟩ := begins.head_eq
  rw [List.length_cons, List.length_append]
  omega

theorem divides_divide (text : List Char) : Divides text (divide text) := by
  induction size : text.length using Nat.strongRecOn generalizing text with
  | _ size ih =>
    subst size
    cases text with
    | nil =>
      rw [divide]
      exact .nil
    | cons c others =>
      by_cases some : ∃ written name after, Begins (c :: others) written name after
      · obtain ⟨written, name, after, begins⟩ := some
        rw [divide_of_begins begins]
        exact .reference begins (ih _ begins.length_lt after rfl)
      · simp only [not_exists] at some
        rw [divide_of_not_begins some]
        exact .plain some (ih _ (Nat.lt_succ_self _) others rfl)

/-- **A text has one division.** It is the one that is found. -/
theorem divides_iff : Divides text pieces ↔ divide text = pieces := by
  constructor
  · intro divides
    induction divides with
    | nil => rw [divide]
    | reference begins others ih => rw [divide_of_begins begins, ih]
    | plain none others ih => rw [divide_of_not_begins none, ih]
  · rintro rfl
    exact divides_divide text

end CatalogDelta.Environment
