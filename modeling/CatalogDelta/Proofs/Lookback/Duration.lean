import CatalogDelta.Proofs.Lookback.Total
import CatalogDelta.Proofs.Text.Pieces

/-!
# Durations from text

A text without blanks at its ends is read as a duration exactly if it spells one. The span is what
its parts come to; it is not negative.
-/

namespace CatalogDelta.Duration

open CatalogDelta.Span
open Text (mem_of_mem_trim trimmed_eq_empty_iff)

/-! ## Texts without blanks at their ends -/

/-- What begins with a digit has no international form. -/
theorem not_international_of_digit {text : List Char}
    (digit : ∀ first ∈ text.head?, Text.isDigit first = true) (parts : List Part) :
    ¬ International Text.fold parts text := by
  have known : 'p' ∈ letters := by decide
  have unmarked {first : Char} {rest : List Char} (same : text = first :: rest) :
      Text.fold first ≠ Text.fold 'p' := by
    subst same
    intro marked
    have own := digit first rfl
    rw [(not_amount_of_fold known marked).1] at own
    cases own
  intro spelled
  cases spelled with
  | date marked => exact unmarked rfl marked
  | time marked => exact unmarked rfl marked

theorem ofTrimmed_of_international {parts : List Part} {text : String} (present : parts ≠ [])
    (spelled : International Text.fold parts text.toList) :
    ofTrimmed text = liftSpan (sumSpan parts) := by
  obtain ⟨part, parts, rfl⟩ := List.exists_cons_of_ne_nil present
  unfold ofTrimmed
  rw [iso?_eq_some_iff.mpr spelled]
  rfl

/-- What is left to say of a text after its tokens are added up. -/
def conclude (text : String) : Span × Nat × List Char → Except Fault Span
  | (span, count, rest) =>
    if count = 0 ∨ rest ≠ [] then .error (unreadable text) else .ok span

theorem ofTrimmed_of_no_international {text : String}
    (other : ∀ parts, parts ≠ [] → ¬ International Text.fold parts text.toList) :
    ofTrimmed text = (sumTokens text.length ⟨0⟩ 0 text.toList).bind (conclude text) := by
  unfold ofTrimmed
  split
  · rename_i part parts read
    exact absurd (iso?_eq_some_iff.mp read) (other _ (List.cons_ne_nil part parts))
  · cases sumTokens text.length ⟨0⟩ 0 text.toList with
    | error fault => rfl
    | ok found =>
      obtain ⟨span, count, rest⟩ := found
      dsimp only [bind, Except.bind, conclude]
      simp only [Bool.or_eq_true, decide_eq_true_eq, Bool.not_eq_true', List.isEmpty_eq_false_iff]
      split <;> rfl

/-- The tokens at the front of a text are added up before what comes after them is read. -/
theorem ofTrimmed_append {parts : List Part} {front rest : List Char} {text : String}
    (other : ∀ parts, parts ≠ [] → ¬ International Text.fold parts text.toList)
    (joined : text.toList = front ++ rest) (spelled : Tokens Text.lower parts front)
    (apart : ∀ last ∈ parts.getLast?, Apart last.1 rest) :
    ∃ left, rest.length ≤ left ∧ ofTrimmed text = (liftSpan (total ⟨0⟩ parts)).bind fun span =>
      (sumTokens left span parts.length rest).bind (conclude text) := by
  have enough : (front ++ rest).length ≤ text.length := by rw [← joined, String.length_toList]
  obtain ⟨left, leftEnough, added⟩ := sumTokens_append spelled apart enough
  refine ⟨left, leftEnough, ?_⟩
  rw [ofTrimmed_of_no_international other, joined, added, Nat.zero_add]
  cases liftSpan (total ⟨0⟩ parts) <;> rfl

theorem ofTrimmed_of_tokens {parts : List Part} {text : String} (present : parts ≠ [])
    (spelled : Tokens Text.lower parts text.toList) :
    ofTrimmed text = liftSpan (total ⟨0⟩ parts) := by
  have digit : ∀ first ∈ (text.toList ++ []).head?, Text.isDigit first = true :=
    spelled.isDigit_head fun _ => nofun
  rw [List.append_nil] at digit
  have other := not_international_of_digit digit
  have ended : ∀ last ∈ parts.getLast?, Apart last.1 [] := fun _ _ _ _ next => nomatch next
  obtain ⟨left, -, read⟩ :=
    ofTrimmed_append (fun parts _ => other parts) (List.append_nil _).symm spelled ended
  have ends (span : Span) : sumTokens left span parts.length [] = .ok (span, parts.length, []) := by
    cases left <;> rfl
  rw [read]
  cases liftSpan (total ⟨0⟩ parts) with
  | error fault => rfl
  | ok span =>
    change (sumTokens left span parts.length []).bind (conclude text) = .ok span
    rw [ends]
    apply if_neg
    rw [List.length_eq_zero_iff]
    rintro (none | rest)
    · exact present none
    · exact rest rfl

/-- A text that has no international form is read as tokens. -/
theorem ofTrimmed_cases {text : String}
    (other : ∀ parts, parts ≠ [] → ¬ International Text.fold parts text.toList) :
    ∃ parts front rest, text.toList = front ++ rest ∧ Tokens Text.lower parts front ∧
      (∀ last ∈ parts.getLast?, Apart last.1 rest) ∧
      (∀ amount token, token? rest = some (amount, token) → token.unit = none) ∧
      ofTrimmed text = (liftSpan (total ⟨0⟩ parts)).bind fun span =>
        (ending rest span parts.length).bind (conclude text) := by
  obtain ⟨parts, front, rest, joined, spelled, apart, odd⟩ := exists_front text.toList
  obtain ⟨left, enough, read⟩ := ofTrimmed_append other joined spelled apart
  refine ⟨parts, front, rest, joined, spelled, apart, odd, ?_⟩
  simp only [read, sumTokens_of_odd odd enough]

/-! ## Texts -/

theorem readSigned_text {text : String} (present : Text.trimmed text ≠ "") :
    readSigned (.text text) = (ofTrimmed (Text.trimmed text)).map some := by
  have some : (Text.trimmed text).isEmpty = false := by
    rw [← Bool.not_eq_true, String.isEmpty_iff]
    exact present
  unfold readSigned
  change (if (Text.trimmed text).isEmpty then _ else _) = _
  rw [some]
  rfl

theorem readSigned_of_blank {text : String} (blank : Text.trimmed text = "") :
    readSigned (.text text) = .ok none := by
  have none : (Text.trimmed text).isEmpty = true := String.isEmpty_iff.mpr blank
  unfold readSigned
  change (if (Text.trimmed text).isEmpty then _ else _) = _
  rw [none]
  rfl

/-- The span that a value was read as, unless it is negative. -/
def signChecked (value : Data) (span : Span) : Except Fault (Option Span) :=
  if span.isNegative then
    .error (.configuration "Lookback duration cannot be negative" (some fieldName) value)
  else .ok (some span)

theorem parse_eq (value : Data) :
    parse value = (readSigned value).bind fun window =>
      window.elim (.ok none) (signChecked value) := by
  unfold parse
  cases readSigned value with
  | error fault => rfl
  | ok window =>
    cases window with
    | none => rfl
    | some span =>
      dsimp only [bind, Except.bind, Option.elim, signChecked]
      split <;> rfl

theorem parse_text {text : String} (present : Text.trimmed text ≠ "") :
    parse (.text text) = (ofTrimmed (Text.trimmed text)).bind (signChecked (.text text)) := by
  rw [parse_eq, readSigned_text present]
  cases ofTrimmed (Text.trimmed text) <;> rfl

theorem parse_text_of_blank {text : String} (blank : Text.trimmed text = "") :
    parse (.text text) = .ok none := by
  rw [parse_eq, readSigned_of_blank blank]
  rfl

/-- A text whose parts have a sum is that sum. -/
theorem parse_text_of_sum {text : String} {sum : Except Span.Error Span}
    (present : Text.trimmed text ≠ "") (read : ofTrimmed (Text.trimmed text) = liftSpan sum)
    (nonneg : ∀ span, sum = .ok span → 0 ≤ span.micros) :
    parse (.text text) = (liftSpan sum).map some := by
  rw [parse_text present, read]
  cases sum with
  | error problem => rfl
  | ok span =>
    have notNegative : span.isNegative = false := by
      have known := nonneg span rfl
      exact decide_eq_false (by omega)
    change signChecked (.text text) span = _
    unfold signChecked
    rw [notNegative]
    rfl

/-! ## Plain texts -/

/-- No character is beyond the plain ones. -/
def IsPlain (text : List Char) : Prop := ∀ c ∈ text, c.toNat < 0x80

theorem isPlain_of_all {text : List Char} (plain : (text.all fun c => c.toNat < 0x80) = true) :
    IsPlain text := fun c member => of_decide_eq_true (List.all_eq_true.mp plain c member)

theorem IsPlain.trimmed {text : String} (plain : IsPlain text.toList) :
    IsPlain (Text.trimmed text).toList := by
  intro c member
  rw [Text.trimmed, String.toList_ofList] at member
  exact plain c (mem_of_mem_trim member)

/-- The parts that a text spells in letters of either case, and their sum: the parts of the
international form are added up at once, those in a row one after another. -/
inductive Spells (text : List Char) : List Part → Except Span.Error Span → Prop
  | international {parts : List Part} (present : parts ≠ [])
    (spelled : International Char.toLower parts text) : Spells text parts (sumSpan parts)
  | row {parts : List Part} (present : parts ≠ []) (spelled : Tokens Char.toLower parts text) :
    Spells text parts (total ⟨0⟩ parts)

namespace IsPlain

variable {text : List Char} {parts : List Part}

theorem international_iff (plain : IsPlain text) :
    International Text.fold parts text ↔ International Char.toLower parts text :=
  ⟨fun spelled => spelled.imp fun c member _ known =>
      (fold_eq_iff_of_plain (plain c member) known).mp,
    fun spelled => spelled.imp fun c member _ known =>
      (fold_eq_iff_of_plain (plain c member) known).mpr⟩

theorem tokens_iff (plain : IsPlain text) :
    Tokens Text.lower parts text ↔ Tokens Char.toLower parts text :=
  ⟨fun spelled => spelled.imp fun c member _ known =>
      (lower_eq_iff_of_plain (plain c member) known).mp,
    fun spelled => spelled.imp fun c member _ known =>
      (lower_eq_iff_of_plain (plain c member) known).mpr⟩

end IsPlain

theorem Spells.cases {text : List Char} {parts : List Part} {sum : Except Span.Error Span}
    (spells : Spells text parts sum) :
    sum = .error .outOfRange ∨ ∃ span, sum = .ok span ∧ 0 ≤ span.micros := by
  cases spells with
  | international present spelled => exact sumSpan_cases parts
  | row present spelled => exact total_cases le_rfl parts

theorem Spells.whole {text : List Char} {parts : List Part} {sum : Except Span.Error Span}
    (spells : Spells text parts sum) (whole : ∀ part ∈ parts, part.2.IsWhole) :
    sum = Span.ofMicros? (micros parts) := by
  cases spells with
  | international present spelled => exact sumSpan_of_whole whole
  | row present spelled =>
    have limit : (0 : Int) < microsLimit := by decide
    rw [total_of_whole le_rfl limit whole]
    exact congrArg ofMicros? (Int.zero_add _)

theorem Spells.ofTrimmed_eq {text : String} {parts : List Part} {sum : Except Span.Error Span}
    (plain : IsPlain text.toList) (spells : Spells text.toList parts sum) :
    ofTrimmed text = liftSpan sum := by
  cases spells with
  | international present spelled =>
    exact ofTrimmed_of_international present (plain.international_iff.mpr spelled)
  | row present spelled => exact ofTrimmed_of_tokens present (plain.tokens_iff.mpr spelled)

theorem Spells.ne_nil {text : List Char} {parts : List Part} {sum : Except Span.Error Span}
    (spells : Spells text parts sum) : text ≠ [] := by
  cases spells with
  | international present spelled => cases spelled <;> exact List.cons_ne_nil _ _
  | row present spelled => exact spelled.ne_nil present

/-- The last token is not cut short: what comes after a minute is no `s`. -/
def Uncut (parts : List Part) (rest : List Char) : Prop :=
  ∀ amount, parts.getLast? = some (.minute, amount) → ∀ c ∈ rest.head?, c.toLower ≠ 's'

/-- The unit of a token in plain letters is known. -/
theorem token?_of_plain {text : List Char} {amount : Amount} {token : UnitToken}
    (plain : IsPlain text) (read : token? text = some (amount, token)) : token.unit ≠ none := by
  obtain ⟨unit, spelling, rfl, -, spelled, made, -⟩ := token?_spec read
  rw [made, Ne, ofLetters_unit_eq_none_iff spelled]
  intro long
  have low := plain longS (by simp [long])
  exact absurd low (by decide)

/-- A plain text that spells no duration is unreadable, unless the tokens at its front exceed what
a span can be. -/
theorem ofTrimmed_of_unspelled {text : String} (plain : IsPlain text.toList)
    (unspelled : ∀ parts sum, ¬ Spells text.toList parts sum) :
    ofTrimmed text = .error (unreadable text) ∨
      ofTrimmed text = liftSpan (.error .outOfRange) ∧
        ∃ parts front rest, text.toList = front ++ rest ∧ Tokens Char.toLower parts front ∧
          Uncut parts rest ∧ total ⟨0⟩ parts = .error .outOfRange := by
  have other : ∀ parts, parts ≠ [] → ¬ International Text.fold parts text.toList :=
    fun parts present spelled =>
      unspelled parts _ (.international present (plain.international_iff.mp spelled))
  obtain ⟨parts, front, rest, joined, spelled, apart, odd, read⟩ := ofTrimmed_cases other
  have plainFront : IsPlain front := fun c member => plain c (by simp [joined, member])
  have plainRest : IsPlain rest := fun c member => plain c (by simp [joined, member])
  have lowered := plainFront.tokens_iff.mp spelled
  have ended : token? rest = none := by
    cases more : token? rest with
    | none => rfl
    | some found =>
      exact absurd (odd found.1 found.2 more) (token?_of_plain plainRest more)
  rw [read]
  have zero : 0 ≤ (⟨0⟩ : Span).micros := le_rfl
  rcases total_cases zero parts with outside | ⟨span, within, -⟩
  · right
    refine ⟨by rw [outside]; rfl, parts, front, rest, joined, lowered, ?_, outside⟩
    intro amount last c next long
    have low := plainRest c (List.mem_of_mem_head? next)
    have known : 's' ∈ letters := by decide
    exact apart _ last rfl c next ((fold_eq_iff_of_plain low known).mpr long)
  · left
    rw [within]
    change (ending rest span parts.length).bind (conclude text) = _
    unfold ending
    rw [ended]
    apply if_pos
    by_contra whole
    rw [not_or, List.length_eq_zero_iff, not_not] at whole
    obtain ⟨present, rfl⟩ := whole
    rw [List.append_nil] at joined
    exact unspelled parts _ (.row present (joined ▸ lowered))

theorem parse_text_of_spells {text : String} (plain : IsPlain text.toList) {parts : List Part}
    {sum : Except Span.Error Span} (spells : Spells (Text.trimmed text).toList parts sum) :
    parse (.text text) = (liftSpan sum).map some := by
  have present : Text.trimmed text ≠ "" := fun none => spells.ne_nil (none ▸ rfl)
  refine parse_text_of_sum present (spells.ofTrimmed_eq plain.trimmed) fun span made => ?_
  rcases spells.cases with outside | ⟨own, within, nonneg⟩
  · cases outside.symm.trans made
  · obtain rfl := Except.ok.inj (within.symm.trans made)
    exact nonneg

theorem parse_text_ne_none {text : String} (present : Text.trimmed text ≠ "") :
    parse (.text text) ≠ .ok none := by
  rw [parse_text present]
  cases ofTrimmed (Text.trimmed text) with
  | error fault => exact nofun
  | ok span =>
    change signChecked (.text text) span ≠ _
    unfold signChecked
    split <;> exact nofun

/-- What is read from a plain text is spelled there. -/
theorem exists_spells {text : String} (plain : IsPlain text.toList) {span : Span}
    (read : parse (.text text) = .ok (some span)) :
    ∃ parts, Spells (Text.trimmed text).toList parts (.ok span) := by
  have present : Text.trimmed text ≠ "" := fun blank => by
    cases (parse_text_of_blank blank).symm.trans read
  by_cases spelled : ∃ parts sum, Spells (Text.trimmed text).toList parts sum
  · obtain ⟨parts, sum, spells⟩ := spelled
    refine ⟨parts, ?_⟩
    rw [parse_text_of_spells plain spells] at read
    cases sum with
    | error problem => cases read
    | ok own =>
      obtain rfl : own = span := Option.some.inj (Except.ok.inj read)
      exact spells
  · have unspelled : ∀ parts sum, ¬ Spells (Text.trimmed text).toList parts sum :=
      fun parts sum spells => spelled ⟨parts, sum, spells⟩
    rw [parse_text present] at read
    rcases ofTrimmed_of_unspelled plain.trimmed unspelled with unread | ⟨outside, -⟩
    · rw [unread] at read
      cases read
    · rw [outside] at read
      cases read

/-- **What a duration text means.** In a text of plain characters nothing but blanks means no
duration. What spells a duration, in the international form or in a row and in letters of either
case, is read as the sum of its parts, which is not negative or exceeds what a span can be; whole
amounts come to their exact sum in either form, so that neither their order nor the form matters.
Whatever else is read is no duration: the text is unreadable, unless already the tokens at its front
exceed what a span can be. -/
theorem parse_plain_text {text : String} (plain : IsPlain text.toList) :
    (parse (.text text) = .ok none ↔ ∀ c ∈ text.toList, Text.isBlank c = true) ∧
    (∀ span, parse (.text text) = .ok (some span) →
      ∃ parts, Spells (Text.trimmed text).toList parts (.ok span)) ∧
    (∀ parts sum, Spells (Text.trimmed text).toList parts sum →
      parse (.text text) = (liftSpan sum).map some ∧
      (sum = .error .outOfRange ∨ ∃ span, sum = .ok span ∧ 0 ≤ span.micros) ∧
      ((∀ part ∈ parts, part.2.IsWhole) → sum = Span.ofMicros? (micros parts))) ∧
    ((∃ c ∈ text.toList, Text.isBlank c = false) →
      (∀ parts sum, ¬ Spells (Text.trimmed text).toList parts sum) →
      (∀ parts front rest, (Text.trimmed text).toList = front ++ rest →
        Tokens Char.toLower parts front → Uncut parts rest →
        ∃ span, total ⟨0⟩ parts = .ok span) →
      parse (.text text) = .error (unreadable (Text.trimmed text))) := by
  refine ⟨⟨fun read => ?_, fun blank => ?_⟩, fun span read => exists_spells plain read,
    fun parts sum spells => ?_, fun some unspelled within => ?_⟩
  · by_contra notBlank
    exact parse_text_ne_none (mt trimmed_eq_empty_iff.mp notBlank) read
  · exact parse_text_of_blank (trimmed_eq_empty_iff.mpr blank)
  · exact ⟨parse_text_of_spells plain spells, spells.cases, spells.whole⟩
  · obtain ⟨c, member, notBlank⟩ := some
    have present : Text.trimmed text ≠ "" := by
      intro none
      rw [trimmed_eq_empty_iff.mp none c member] at notBlank
      cases notBlank
    rw [parse_text present]
    rcases ofTrimmed_of_unspelled plain.trimmed unspelled with
      unread | ⟨-, parts, front, rest, joined, spelled, uncut, outside⟩
    · rw [unread]
      rfl
    · obtain ⟨span, inside⟩ := within parts front rest joined spelled uncut
      cases outside.symm.trans inside

/-- A day and twelve hours, in a row and in the international form. -/
def dayAndHalf : List Part := [(.day, ⟨['1'], []⟩), (.hour, ⟨['1', '2'], []⟩)]

theorem hours_spelled : Tokens Char.toLower [(.hour, ⟨['1', '2'], []⟩)] ['1', '2', 'h'] :=
  @Tokens.cons Char Char.toLower .hour ⟨['1', '2'], []⟩ ['h'] [] []
    ⟨List.cons_ne_nil _ _, List.all_eq_true.mp rfl, nofun⟩ rfl .nil

theorem day_spelled {parts : List Part} {text : List Char} (more : Tokens Char.toLower parts text) :
    Tokens Char.toLower ((.day, ⟨['1'], []⟩) :: parts) ('1' :: 'D' :: text) :=
  @Tokens.cons Char Char.toLower .day ⟨['1'], []⟩ ['D'] parts text
    ⟨List.cons_ne_nil _ _, List.all_eq_true.mp rfl, nofun⟩ rfl more

theorem dayAndHalf_read :
    parse (.text " 1D12h ") = .ok (some ⟨129600000000⟩) ∧
      parse (.text "P1DT12h") = .ok (some ⟨129600000000⟩) := by
  have whole : ∀ part ∈ dayAndHalf, part.2.IsWhole := by
    simp only [dayAndHalf, List.forall_mem_cons]
    exact ⟨⟨by decide, by decide⟩, ⟨by decide, by decide⟩, nofun⟩
  have plainRow : IsPlain " 1D12h ".toList := isPlain_of_all rfl
  have plainForm : IsPlain "P1DT12h".toList := isPlain_of_all rfl
  have row : Spells (Text.trimmed " 1D12h ").toList dayAndHalf (total ⟨0⟩ dayAndHalf) :=
    .row (List.cons_ne_nil _ _) (day_spelled hours_spelled)
  have form : Spells (Text.trimmed "P1DT12h").toList dayAndHalf (sumSpan dayAndHalf) := by
    refine .international (List.cons_ne_nil _ _) ?_
    exact @International.time Char Char.toLower 'P' 'T' _ _ _ _ rfl
      (by unfold InOrder; decide) (day_spelled .nil) rfl (by unfold InOrder; decide) hours_spelled
  have value : Span.ofMicros? (micros dayAndHalf) = .ok ⟨129600000000⟩ := by
    have counted : micros dayAndHalf = 129600000000 := by decide
    rw [counted]
    exact ofMicros?_eq_ok_iff.mpr (by decide)
  obtain ⟨readRow, -, sumRow⟩ := (parse_plain_text plainRow).2.2.1 _ _ row
  obtain ⟨readForm, -, sumForm⟩ := (parse_plain_text plainForm).2.2.1 _ _ form
  rw [readRow, readForm, sumRow whole, sumForm whole, value]
  exact ⟨rfl, rfl⟩

end CatalogDelta.Duration
