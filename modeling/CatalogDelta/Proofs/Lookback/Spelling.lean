import CatalogDelta.Proofs.Lookback.Letter
import Mathlib.Data.List.TakeDrop

/-!
# How durations are spelled

A duration is spelled as amounts with the letters of their units, either in a row or in the
international form, where letters mark the date and the time and each unit occurs at most once. The
reader of the international form finds exactly what is spelled in it. Main statement:
`iso?_eq_some_iff`.
-/

namespace CatalogDelta.Duration

/-- An amount of a unit. -/
abbrev Part := Span.TimeUnit × Amount

/-! ## Spellings -/

/-- An amount as it is written. -/
def Amount.text (amount : Amount) : List Char :=
  amount.whole ++ if amount.fraction = [] then [] else '.' :: amount.fraction

/-- An amount consists of digits, at least one of them before the point. -/
structure Amount.IsWritten (amount : Amount) : Prop where
  present : amount.whole ≠ []
  whole : ∀ c ∈ amount.whole, Text.isDigit c = true
  fraction : ∀ c ∈ amount.fraction, Text.isDigit c = true

/-- The letters of a unit. -/
def mark : Span.TimeUnit → List Char
  | .week => ['w']
  | .day => ['d']
  | .hour => ['h']
  | .minute => ['m']
  | .second => ['s']
  | .millisecond => ['m', 's']

theorem mem_letters_of_mem_mark {unit : Span.TimeUnit} {letter : Char} (member : letter ∈ mark unit) :
    letter ∈ letters := by
  cases unit with
  | millisecond =>
    simp only [mark, List.mem_cons, List.not_mem_nil, or_false] at member
    rcases member with rfl | rfl <;> decide
  | _ =>
    obtain rfl := List.mem_singleton.mp member
    decide

section Spellings

variable {α : Type} (shape : Char → α)

/-- Amounts with their units in a row. The shape is what counts of a letter. -/
inductive Tokens : List Part → List Char → Prop
  | nil : Tokens [] []
  | cons {unit : Span.TimeUnit} {amount : Amount} {spelling : List Char} {parts : List Part}
    {text : List Char} (written : amount.IsWritten)
    (spelled : spelling.map shape = (mark unit).map shape) (more : Tokens parts text) :
    Tokens ((unit, amount) :: parts) (amount.text ++ (spelling ++ text))

/-- Some of the units in their order, each at most once. -/
def InOrder (units : List Span.TimeUnit) (parts : List Part) : Prop :=
  (parts.map Prod.fst).Sublist units

/-- The international form: a mark and parts of a date, then a mark and parts of a time, if any. -/
inductive International : List Part → List Char → Prop
  | date {first : Char} {dates : List Part} {text : List Char} (marked : shape first = shape 'p')
    (inOrder : InOrder [.week, .day] dates) (spelled : Tokens shape dates text) :
    International dates (first :: text)
  | time {first second : Char} {dates times : List Part} {text more : List Char}
    (marked : shape first = shape 'p') (inOrder : InOrder [.week, .day] dates)
    (spelled : Tokens shape dates text) (markedToo : shape second = shape 't')
    (inOrderToo : InOrder [.hour, .minute, .second] times) (spelledToo : Tokens shape times more) :
    International (dates ++ times) (first :: (text ++ second :: more))

variable {shape} {β : Type} {other : Char → β}

theorem map_mark_of_imp {spelling marks : List Char}
    (imp : ∀ c ∈ spelling, ∀ letter ∈ marks, shape c = shape letter → other c = other letter)
    (same : spelling.map shape = marks.map shape) : spelling.map other = marks.map other := by
  induction spelling generalizing marks with
  | nil =>
    rw [List.map_eq_nil_iff.mp same.symm]
  | cons c spelling ih =>
    obtain ⟨letter, others, rfl, alike, rest⟩ := List.map_eq_cons_iff.mp same.symm
    rw [List.map_cons, List.map_cons, imp c List.mem_cons_self letter List.mem_cons_self alike.symm,
      ih (fun c member letter known => imp c (List.mem_cons_of_mem _ member) letter
        (List.mem_cons_of_mem _ known)) rest.symm]

/-- A spelling stays one if more of its letters count as alike. -/
theorem Tokens.imp {parts : List Part} {text : List Char} (spelled : Tokens shape parts text)
    (imp : ∀ c ∈ text, ∀ letter ∈ letters, shape c = shape letter → other c = other letter) :
    Tokens other parts text := by
  induction spelled with
  | nil => exact .nil
  | @cons unit amount spelling parts text written spelled more ih =>
    refine .cons written (map_mark_of_imp ?_ spelled) (ih ?_)
    · intro c member letter known
      exact imp c (by simp [member]) letter (mem_letters_of_mem_mark known)
    · intro c member
      exact imp c (by simp [member])

theorem International.imp {parts : List Part} {text : List Char}
    (spelled : International shape parts text)
    (imp : ∀ c ∈ text, ∀ letter ∈ letters, shape c = shape letter → other c = other letter) :
    International other parts text := by
  have date : 'p' ∈ letters := by decide
  have time : 't' ∈ letters := by decide
  cases spelled with
  | date marked inOrder spelled =>
    refine .date (imp _ List.mem_cons_self _ date marked) inOrder (spelled.imp ?_)
    intro c member
    exact imp c (List.mem_cons_of_mem _ member)
  | time marked inOrder spelled markedToo inOrderToo spelledToo =>
    refine .time (imp _ List.mem_cons_self _ date marked) inOrder (spelled.imp ?_)
      (imp _ (by simp) _ time markedToo) inOrderToo (spelledToo.imp ?_)
    · intro c member
      exact imp c (by simp [member])
    · intro c member
      exact imp c (by simp [member])

end Spellings

/-! ## Amounts -/

/-- The text does not go on with a digit. -/
def Stops (text : List Char) : Prop := ∀ c ∈ text.head?, Text.isDigit c = false

theorem leadingDigits_append {digits rest : List Char}
    (plain : ∀ c ∈ digits, Text.isDigit c = true) (stops : Stops rest) :
    leadingDigits (digits ++ rest) = (digits, rest) := by
  unfold leadingDigits
  rw [List.span_eq_takeWhile_dropWhile, List.takeWhile_append_of_pos plain,
    List.dropWhile_append_of_pos plain]
  cases rest with
  | nil => rw [List.takeWhile_nil, List.dropWhile_nil, List.append_nil]
  | cons c others =>
    have stop : ¬ Text.isDigit c = true := Bool.eq_false_iff.mp (stops c rfl)
    rw [List.takeWhile_cons_of_neg stop, List.dropWhile_cons_of_neg stop, List.append_nil]

theorem leadingDigits_spec (text : List Char) :
    text = (leadingDigits text).1 ++ (leadingDigits text).2 ∧
      (∀ c ∈ (leadingDigits text).1, Text.isDigit c = true) := by
  unfold leadingDigits
  rw [List.span_eq_takeWhile_dropWhile]
  exact ⟨List.takeWhile_append_dropWhile.symm, List.all_eq_true.mp List.all_takeWhile⟩

theorem amount?_of_plain {text whole rest : List Char} (read : leadingDigits text = (whole, rest))
    (present : whole ≠ []) (noPoint : ∀ c ∈ rest.head?, c ≠ '.') :
    amount? text = some (⟨whole, []⟩, rest) := by
  unfold amount?
  rw [read]
  split
  · rename_i none
    exact absurd (Prod.mk.inj none).1 present
  · rename_i point
    obtain ⟨-, rfl⟩ := Prod.mk.inj point
    exact absurd rfl (noPoint '.' rfl)
  · rename_i same
    obtain ⟨rfl, rfl⟩ := Prod.mk.inj same
    rfl

theorem amount?_of_point {text whole fraction after rest : List Char}
    (read : leadingDigits text = (whole, '.' :: after)) (present : whole ≠ [])
    (readToo : leadingDigits after = (fraction, rest)) (presentToo : fraction ≠ []) :
    amount? text = some (⟨whole, fraction⟩, rest) := by
  obtain ⟨first, others, rfl⟩ := List.exists_cons_of_ne_nil present
  obtain ⟨digit, digits, rfl⟩ := List.exists_cons_of_ne_nil presentToo
  unfold amount?
  simp only [read, readToo]

/-- An amount is read up to its end if what follows does not go on with it. -/
theorem amount?_append {amount : Amount} {c : Char} {rest : List Char} (written : amount.IsWritten)
    (stop : Text.isDigit c = false) (noPoint : c ≠ '.') :
    amount? (amount.text ++ c :: rest) = some (amount, c :: rest) := by
  have stops : Stops (c :: rest) := fun other first => Option.some.inj first ▸ stop
  obtain ⟨whole, fraction⟩ := amount
  obtain ⟨present, wholeDigits, fractionDigits⟩ := written
  dsimp only at present wholeDigits fractionDigits
  unfold Amount.text
  by_cases plain : fraction = []
  · subst plain
    rw [if_pos rfl, List.append_nil]
    exact amount?_of_plain (leadingDigits_append wholeDigits stops) present
      fun other first => Option.some.inj first ▸ noPoint
  · rw [if_neg plain, List.append_assoc, List.cons_append]
    have point : Stops ('.' :: (fraction ++ c :: rest)) := fun other first =>
      Option.some.inj first ▸ rfl
    exact amount?_of_point (leadingDigits_append wholeDigits point) present
      (leadingDigits_append fractionDigits stops) plain

theorem amount?_spec {text rest : List Char} {amount : Amount}
    (read : amount? text = some (amount, rest)) : text = amount.text ++ rest ∧ amount.IsWritten := by
  obtain ⟨joined, digits⟩ := leadingDigits_spec text
  unfold amount? at read
  split at read
  · cases read
  · rename_i whole after present found
    obtain ⟨joinedToo, digitsToo⟩ := leadingDigits_spec after
    rw [found] at joined digits
    split at read
    · cases read
      refine ⟨?_, present, digits, by simp⟩
      simp [Amount.text, joined]
    · rename_i fraction rest presentToo foundToo
      rw [foundToo] at joinedToo digitsToo
      cases read
      refine ⟨?_, present, digits, digitsToo⟩
      have point : fraction ≠ [] := presentToo
      simp [Amount.text, joined, joinedToo, point]
  · rename_i whole rest present noPoint found
    rw [found] at joined digits
    cases read
    refine ⟨?_, present, digits, by simp⟩
    simp [Amount.text, joined]

theorem amount?_of_stops {text : List Char} (stops : Stops text) : amount? text = none := by
  have read : leadingDigits ([] ++ text) = ([], text) := leadingDigits_append (by simp) stops
  unfold amount?
  rw [List.nil_append] at read
  rw [read]

/-! ## Components -/

theorem component?_eq_some_iff {letter : Char} {text rest : List Char} {amount : Amount}
    (amountEnds : ∀ c, isLetter letter c = true → Text.isDigit c = false ∧ c ≠ '.') :
    component? letter text = some (amount, rest) ↔
      ∃ c, text = amount.text ++ c :: rest ∧ amount.IsWritten ∧ isLetter letter c = true := by
  unfold component?
  constructor
  · intro read
    split at read
    · rename_i own c others found
      obtain ⟨joined, written⟩ := amount?_spec found
      split at read
      · rename_i alike
        cases read
        exact ⟨c, joined, written, alike⟩
      · cases read
    · cases read
  · rintro ⟨c, rfl, written, alike⟩
    obtain ⟨stop, noPoint⟩ := amountEnds c alike
    rw [amount?_append written stop noPoint]
    exact if_pos alike

theorem component?_of_other {letter c : Char} {amount : Amount} {rest : List Char}
    (written : amount.IsWritten) (stop : Text.isDigit c = false) (noPoint : c ≠ '.')
    (other : ¬ isLetter letter c = true) : component? letter (amount.text ++ c :: rest) = none := by
  unfold component?
  rw [amount?_append written stop noPoint]
  exact if_neg other

theorem component?_of_stops {letter : Char} {text : List Char} (stops : Stops text) :
    component? letter text = none := by
  unfold component?
  rw [amount?_of_stops stops]

/-- Units of one letter each, all different. -/
structure Lettered (units : List (Char × Span.TimeUnit)) : Prop where
  mark : ∀ entry ∈ units, mark entry.2 = [entry.1.toLower]
  known : ∀ entry ∈ units, entry.1.toLower ∈ letters
  fold : ∀ entry ∈ units, Text.fold entry.1 = Text.fold entry.1.toLower
  once : (units.map Prod.snd).Nodup

theorem dateUnits_lettered : Lettered dateUnits := by
  refine ⟨?_, ?_, ?_, ?_⟩ <;> decide +kernel

theorem timeUnits_lettered : Lettered timeUnits := by
  refine ⟨?_, ?_, ?_, ?_⟩ <;> decide +kernel

namespace Lettered

variable {units : List (Char × Span.TimeUnit)} {entry : Char × Span.TimeUnit}

theorem tail (lettered : Lettered (entry :: units)) : Lettered units where
  mark other member := lettered.mark other (List.mem_cons_of_mem _ member)
  known other member := lettered.known other (List.mem_cons_of_mem _ member)
  fold other member := lettered.fold other (List.mem_cons_of_mem _ member)
  once := (List.nodup_cons.mp lettered.once).2

theorem isLetter_iff (lettered : Lettered units) (member : entry ∈ units) {spelling : List Char} :
    (∃ c, spelling = [c] ∧ isLetter entry.1 c = true) ↔
      spelling.map Text.fold = (Duration.mark entry.2).map Text.fold := by
  rw [lettered.mark entry member]
  simp only [Duration.isLetter_iff, lettered.fold entry member, List.map_cons, List.map_nil,
    List.map_eq_singleton_iff]

theorem amountEnds (lettered : Lettered units) (member : entry ∈ units) (c : Char)
    (alike : isLetter entry.1 c = true) : Text.isDigit c = false ∧ c ≠ '.' := by
  rw [Duration.isLetter_iff, lettered.fold entry member] at alike
  exact not_amount_of_fold (lettered.known entry member) alike

end Lettered

/-- What is read as components is spelled as such. -/
theorem components_spec {units : List (Char × Span.TimeUnit)} (lettered : Lettered units)
    {text rest : List Char} {parts : List Part} (read : components units text = (parts, rest)) :
    ∃ front, text = front ++ rest ∧ Tokens Text.fold parts front ∧
      InOrder (units.map Prod.snd) parts := by
  induction units generalizing text parts with
  | nil =>
    obtain ⟨rfl, rfl⟩ := Prod.mk.inj read
    exact ⟨[], rfl, .nil, .slnil⟩
  | cons entry units ih =>
    unfold components at read
    split at read
    · rename_i amount after found
      obtain ⟨c, rfl, written, alike⟩ :=
        (component?_eq_some_iff (lettered.amountEnds List.mem_cons_self)).mp found
      have own := (lettered.isLetter_iff List.mem_cons_self).mp ⟨c, rfl, alike⟩
      cases more : components units after with
      | mk others last =>
        rw [more] at read
        obtain ⟨rfl, rfl⟩ := Prod.mk.inj read
        obtain ⟨front, rfl, spelled, inOrder⟩ := ih lettered.tail more
        refine ⟨amount.text ++ ([c] ++ front), ?_, .cons written own spelled, inOrder.cons_cons _⟩
        simp
    · obtain ⟨front, joined, spelled, inOrder⟩ := ih lettered.tail read
      exact ⟨front, joined, spelled, inOrder.cons _⟩

theorem mark_injective {unit other : Span.TimeUnit} (same : mark unit = mark other) :
    unit = other := by
  cases unit <;> cases other <;> first | rfl | cases same

/-- A component of another unit is not read. -/
theorem component?_of_notMem {entry : Char × Span.TimeUnit}
    {units : List (Char × Span.TimeUnit)} (lettered : Lettered (entry :: units))
    {front rest : List Char} {parts : List Part} (spelled : Tokens Text.fold parts front)
    (others : InOrder (units.map Prod.snd) parts) (stops : Stops rest) :
    component? entry.1 (front ++ rest) = none := by
  cases spelled with
  | nil => exact component?_of_stops stops
  | @cons unit amount spelling parts text written spelled more =>
    obtain ⟨other, member, rfl⟩ :=
      List.mem_map.mp (others.mem (List.mem_map_of_mem List.mem_cons_self))
    have memberToo := List.mem_cons_of_mem entry member
    obtain ⟨c, rfl, alike⟩ := (lettered.isLetter_iff memberToo).mpr spelled
    obtain ⟨stop, noPoint⟩ := lettered.amountEnds memberToo c alike
    have different : ¬ isLetter entry.1 c = true := by
      intro same
      rw [isLetter_iff] at alike same
      have letters := eq_of_fold_eq (lettered.known entry List.mem_cons_self)
        (lettered.known other memberToo) (by
          rw [← lettered.fold entry List.mem_cons_self, ← lettered.fold other memberToo, ← same,
            alike])
      have units : entry.2 = other.2 := mark_injective (by
        rw [lettered.mark entry List.mem_cons_self, lettered.mark other memberToo, letters])
      exact (List.nodup_cons.mp lettered.once).1 (units ▸ List.mem_map_of_mem member)
    rw [List.append_assoc, List.append_assoc]
    exact component?_of_other written stop noPoint different

/-- What is spelled as components is read as such. -/
theorem components_append {units : List (Char × Span.TimeUnit)} (lettered : Lettered units)
    {front rest : List Char} {parts : List Part} (spelled : Tokens Text.fold parts front)
    (inOrder : InOrder (units.map Prod.snd) parts) (stops : Stops rest) :
    components units (front ++ rest) = (parts, rest) := by
  induction units generalizing front parts with
  | nil =>
    obtain rfl := List.map_eq_nil_iff.mp (List.sublist_nil.mp inOrder)
    cases spelled
    rfl
  | cons entry units ih =>
    unfold components
    rcases List.sublist_cons_iff.mp inOrder with skipped | ⟨others, same, inOrder⟩
    · rw [component?_of_notMem lettered spelled skipped stops]
      exact ih lettered.tail spelled skipped
    · cases spelled with
      | nil => cases same
      | @cons unit amount spelling parts text written spelled more =>
        obtain ⟨rfl, rfl⟩ := List.cons.inj same
        obtain ⟨c, rfl, alike⟩ := (lettered.isLetter_iff List.mem_cons_self).mpr spelled
        have read : component? entry.1 (amount.text ++ ([c] ++ text) ++ rest) =
            some (amount, text ++ rest) :=
          (component?_eq_some_iff (lettered.amountEnds List.mem_cons_self)).mpr
            ⟨c, by simp, written, alike⟩
        rw [read]
        dsimp only
        rw [ih lettered.tail more inOrder]

/-! ## The international form -/

theorem isLetter_upper {c : Char} :
    (isLetter 'P' c = true ↔ Text.fold c = Text.fold 'p') ∧
      (isLetter 'T' c = true ↔ Text.fold c = Text.fold 't') := by
  have same : Text.fold 'P' = Text.fold 'p' ∧ Text.fold 'T' = Text.fold 't' := by decide +kernel
  rw [isLetter_iff, isLetter_iff, same.1, same.2]
  exact ⟨Iff.rfl, Iff.rfl⟩

theorem stops_nil : Stops [] := nofun

/-- The reader of the international form finds what is spelled in it, and nothing else. -/
theorem iso?_eq_some_iff {text : List Char} {parts : List Part} :
    iso? text = some parts ↔ International Text.fold parts text := by
  constructor
  · intro read
    unfold iso? at read
    split at read
    · cases read
    · rename_i first rest
      split at read
      · cases read
      · rename_i marked
        rw [Bool.not_eq_true', Bool.not_eq_false, isLetter_upper.1] at marked
        cases ofDate : components dateUnits rest with
        | mk dates after =>
          rw [ofDate] at read
          dsimp only at read
          obtain ⟨front, rfl, spelled, inOrder⟩ := components_spec dateUnits_lettered ofDate
          split at read
          · cases read
            rw [List.append_nil]
            exact .date marked inOrder spelled
          · rename_i second more
            split at read
            · cases read
            · rename_i markedToo
              rw [Bool.not_eq_true', Bool.not_eq_false, isLetter_upper.2] at markedToo
              cases ofTime : components timeUnits more with
              | mk times last =>
                rw [ofTime] at read
                dsimp only at read
                obtain ⟨back, rfl, spelledToo, inOrderToo⟩ :=
                  components_spec timeUnits_lettered ofTime
                split at read
                · rename_i ended
                  cases read
                  rw [List.isEmpty_iff.mp ended, List.append_nil]
                  exact .time marked inOrder spelled markedToo inOrderToo spelledToo
                · cases read
  · intro spelled
    cases spelled with
    | @date first dates text marked inOrder spelled =>
      have read := components_append dateUnits_lettered spelled inOrder stops_nil
      rw [List.append_nil] at read
      unfold iso?
      dsimp only
      rw [isLetter_upper.1.mpr marked, read]
      rfl
    | @time first second dates times text more marked inOrder spelled markedToo inOrderToo
        spelledToo =>
      have stops : Stops (second :: more) := fun c first => by
        obtain rfl := Option.some.inj first
        have member : 't' ∈ letters := by decide
        exact (not_amount_of_fold member markedToo).1
      have read := components_append dateUnits_lettered spelled inOrder stops
      have readToo := components_append timeUnits_lettered spelledToo inOrderToo stops_nil
      rw [List.append_nil] at readToo
      unfold iso?
      dsimp only
      rw [isLetter_upper.1.mpr marked, read]
      dsimp only
      rw [isLetter_upper.2.mpr markedToo, readToo]
      rfl

end CatalogDelta.Duration
