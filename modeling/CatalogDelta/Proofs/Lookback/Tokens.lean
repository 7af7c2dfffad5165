import CatalogDelta.Proofs.Lookback.Spelling
import Mathlib.Tactic.SplitIfs

/-!
# Tokens of durations

A token is an amount with the letters of its unit; two letters are preferred to one. The reader adds
up the tokens at the front of a text before it looks at the rest. Main statements:
`sumTokens_append`, `exists_front`.
-/

namespace CatalogDelta.Duration

/-! ## Units -/

/-- What follows a minute does not make it a millisecond. -/
def Apart (unit : Span.TimeUnit) (rest : List Char) : Prop :=
  unit = .minute → ∀ c ∈ rest.head?, Text.fold c ≠ Text.fold 's'

theorem unitOf?_eq_some_iff {spelling : String} {unit : Span.TimeUnit} :
    unitOf? spelling = some unit ↔ spelling = String.ofList (mark unit) := by
  constructor
  · intro known
    unfold unitOf? at known
    split_ifs at known <;> (cases known; assumption)
  · rintro rfl
    cases unit <;> decide

theorem mem_single_iff {letter : Char} :
    letter ∈ "wdhms".toList ↔ ∃ unit, unit ≠ .millisecond ∧ mark unit = [letter] := by
  constructor
  · intro member
    have cases : letter = 'w' ∨ letter = 'd' ∨ letter = 'h' ∨ letter = 'm' ∨ letter = 's' := by
      simpa using member
    rcases cases with rfl | rfl | rfl | rfl | rfl
    · exact ⟨.week, by decide, rfl⟩
    · exact ⟨.day, by decide, rfl⟩
    · exact ⟨.hour, by decide, rfl⟩
    · exact ⟨.minute, by decide, rfl⟩
    · exact ⟨.second, by decide, rfl⟩
  · rintro ⟨unit, single, same⟩
    cases unit with
    | millisecond => exact absurd rfl single
    | week => cases same; decide
    | day => cases same; decide
    | hour => cases same; decide
    | minute => cases same; decide
    | second => cases same; decide

theorem isLetter_single_iff {first : Char} :
    "wdhms".toList.any (isLetter · first) = true ↔
      ∃ unit, unit ≠ .millisecond ∧ [first].map Text.fold = (mark unit).map Text.fold := by
  rw [List.any_eq_true]
  constructor
  · rintro ⟨letter, member, alike⟩
    obtain ⟨unit, single, same⟩ := mem_single_iff.mp member
    exact ⟨unit, single, by rw [same, List.map_singleton, List.map_singleton, isLetter_iff.mp alike]⟩
  · rintro ⟨unit, single, same⟩
    obtain ⟨letter, own⟩ : ∃ letter, mark unit = [letter] := by
      cases unit with
      | millisecond => exact absurd rfl single
      | _ => exact ⟨_, rfl⟩
    refine ⟨letter, mem_single_iff.mpr ⟨unit, single, own⟩, isLetter_iff.mpr ?_⟩
    rw [own] at same
    exact List.head_eq_of_cons_eq same

/-- The letters of a unit are read as that unit. -/
theorem unit?_append {unit : Span.TimeUnit} {spelling rest : List Char}
    (spelled : spelling.map Text.fold = (mark unit).map Text.fold) (apart : Apart unit rest) :
    unit? (spelling ++ rest) = some (.ofLetters spelling rest) := by
  by_cases double : unit = .millisecond
  · subst double
    obtain ⟨first, tail, rfl, alike, same⟩ := List.map_eq_cons_iff.mp spelled
    obtain ⟨second, rfl, alikeToo⟩ := List.map_eq_singleton_iff.mp same
    have both : (isLetter 'm' first && isLetter 's' second) = true := by
      rw [Bool.and_eq_true]
      exact ⟨isLetter_iff.mpr alike, isLetter_iff.mpr alikeToo⟩
    exact if_pos both
  · obtain ⟨letter, own⟩ : ∃ letter, mark unit = [letter] := by
      cases unit with
      | millisecond => exact absurd rfl double
      | _ => exact ⟨_, rfl⟩
    rw [own] at spelled
    obtain ⟨first, rfl, alike⟩ := List.map_eq_singleton_iff.mp spelled
    have single : "wdhms".toList.any (isLetter · first) = true :=
      isLetter_single_iff.mpr ⟨unit, double, by rw [own]; exact spelled⟩
    unfold unit?
    rw [List.singleton_append]
    dsimp only
    rw [if_pos single]
    split
    · rename_i second after
      apply if_neg
      rw [Bool.and_eq_true, isLetter_iff, isLetter_iff]
      rintro ⟨minute, long⟩
      have known : letter ∈ letters := mem_letters_of_mem_mark (own ▸ List.mem_singleton_self letter)
      obtain rfl : letter = 'm' := eq_of_fold_eq known (by decide) (alike.symm.trans minute)
      exact apart (mark_injective own) second rfl long
    · rfl

/-- What is read as a unit are the letters of one. -/
theorem unit?_spec {text : List Char} {token : UnitToken} (read : unit? text = some token) :
    ∃ unit spelling, text = spelling ++ token.rest ∧
      spelling.map Text.fold = (mark unit).map Text.fold ∧
      token = .ofLetters spelling token.rest ∧ Apart unit token.rest := by
  have one {first : Char} {rest : List Char}
      (single : "wdhms".toList.any (isLetter · first) = true)
      (notBoth : ∀ c ∈ rest.head?, ¬ (isLetter 'm' first && isLetter 's' c) = true) :
      ∃ unit spelling, first :: rest = spelling ++ rest ∧
        spelling.map Text.fold = (mark unit).map Text.fold ∧
        UnitToken.ofLetters [first] rest = .ofLetters spelling rest ∧ Apart unit rest := by
    obtain ⟨unit, -, alike⟩ := isLetter_single_iff.mp single
    refine ⟨unit, [first], rfl, alike, rfl, ?_⟩
    rintro rfl c next long
    apply notBoth c next
    rw [Bool.and_eq_true, isLetter_iff, isLetter_iff]
    exact ⟨List.head_eq_of_cons_eq alike, long⟩
  unfold unit? at read
  split at read
  · cases read
  · rename_i first rest
    dsimp only at read
    split at read
    · rename_i second after
      split at read
      · rename_i both
        obtain rfl := Option.some.inj read
        rw [Bool.and_eq_true, isLetter_iff, isLetter_iff] at both
        refine ⟨.millisecond, [first, second], rfl, ?_, rfl, fun minute => by cases minute⟩
        simp only [List.map_cons, List.map_nil, both.1, both.2, mark]
      · rename_i notBoth
        split at read
        · rename_i single
          obtain rfl := Option.some.inj read
          refine one single fun c next => ?_
          obtain rfl := Option.some.inj next
          exact notBoth
        · cases read
    · split at read
      · rename_i single
        obtain rfl := Option.some.inj read
        exact one single fun c next => by cases next
      · cases read

/-! ## Tokens in a row -/

theorem ofLetters_unit_eq_some_iff {spelling rest : List Char} {unit : Span.TimeUnit} :
    (UnitToken.ofLetters spelling rest).unit = some unit ↔
      spelling.map Text.lower = (mark unit).map Text.lower := by
  have own : (mark unit).map Text.lower = mark unit := by cases unit <;> decide
  change unitOf? (String.ofList (spelling.map Text.lower)) = some unit ↔ _
  rw [unitOf?_eq_some_iff, own, String.ofList_inj]

/-- The letters of a unit are not those of a plain one just if a long `s` is among them. -/
theorem ofLetters_unit_eq_none_iff {unit : Span.TimeUnit} {spelling rest : List Char}
    (alike : spelling.map Text.fold = (mark unit).map Text.fold) :
    (UnitToken.ofLetters spelling rest).unit = none ↔ longS ∈ spelling := by
  rw [Option.eq_none_iff_forall_ne_some]
  constructor
  · intro unknown
    by_contra plain
    refine unknown unit (ofLetters_unit_eq_some_iff.mpr ?_)
    refine map_mark_of_imp (fun c member letter known same => ?_) alike
    have letterKnown := mem_letters_of_mem_mark known
    have plainLetter : c.toNat < 0x80 := by
      rcases (fold_eq_iff letterKnown).mp same with lower | ⟨-, rfl⟩
      · exact lt_of_toLower letterKnown lower
      · exact absurd member plain
    rw [lower_eq_iff_of_plain plainLetter letterKnown, ← fold_eq_iff_of_plain plainLetter letterKnown]
    exact same
  · intro long other spelled
    have member := List.mem_map_of_mem (f := Text.lower) long
    rw [ofLetters_unit_eq_some_iff.mp spelled] at member
    revert member
    cases other <;> decide +kernel

theorem fold_of_lower {spelling : List Char} {unit : Span.TimeUnit}
    (spelled : spelling.map Text.lower = (mark unit).map Text.lower) :
    spelling.map Text.fold = (mark unit).map Text.fold := by
  have folds : Text.fold = (fun c => (Text.kin c.toNat).headD c.toNat) ∘ Text.lower := rfl
  rw [folds, ← List.map_map, spelled, List.map_map]

theorem token?_append {unit : Span.TimeUnit} {amount : Amount} {spelling rest : List Char}
    (written : amount.IsWritten) (spelled : spelling.map Text.fold = (mark unit).map Text.fold)
    (apart : Apart unit rest) :
    token? (amount.text ++ (spelling ++ rest)) = some (amount, .ofLetters spelling rest) := by
  have read := unit?_append spelled apart
  obtain ⟨letter, others, own⟩ : ∃ letter others, mark unit = letter :: others := by
    cases unit <;> exact ⟨_, _, rfl⟩
  have known : letter ∈ letters := mem_letters_of_mem_mark (own ▸ List.mem_cons_self)
  rw [own, List.map_cons] at spelled
  obtain ⟨first, tail, rfl, alike, -⟩ := List.map_eq_cons_iff.mp spelled
  obtain ⟨stop, noPoint⟩ := not_amount_of_fold known alike
  rw [List.cons_append] at read ⊢
  unfold token?
  rw [amount?_append written stop noPoint]
  dsimp only [Option.bind_eq_bind, Option.bind_some]
  rw [read]
  rfl

theorem token?_spec {text : List Char} {amount : Amount} {token : UnitToken}
    (read : token? text = some (amount, token)) :
    ∃ unit spelling, text = amount.text ++ (spelling ++ token.rest) ∧ amount.IsWritten ∧
      spelling.map Text.fold = (mark unit).map Text.fold ∧
      token = .ofLetters spelling token.rest ∧ Apart unit token.rest := by
  unfold token? at read
  cases first : amount? text with
  | none =>
    rw [first] at read
    cases read
  | some found =>
    obtain ⟨own, rest⟩ := found
    obtain ⟨rfl, written⟩ := amount?_spec first
    rw [first] at read
    dsimp only [Option.bind_eq_bind, Option.bind_some] at read
    cases second : unit? rest with
    | none =>
      rw [second] at read
      cases read
    | some last =>
      rw [second] at read
      cases read
      obtain ⟨unit, spelling, joined, spelled, made, apart⟩ := unit?_spec second
      exact ⟨unit, spelling, by rw [← joined], written, spelled, made, apart⟩

/-- The span of one part. -/
def partSpan (part : Part) : Except Span.Error Span :=
  Span.ofAmounts [(part.1, .real part.2.toFloat)]

/-- Add up parts one after another. -/
def total : Span → List Part → Except Span.Error Span
  | start, [] => .ok start
  | start, part :: parts => do
    let span ← partSpan part
    let next ← start.add span
    total next parts

theorem total_cons (start : Span) (part : Part) (parts : List Part) :
    total start (part :: parts) =
      (partSpan part).bind fun span => (start.add span).bind fun next => total next parts := rfl

theorem liftSpan_total_cons (start : Span) (part : Part) (parts : List Part) :
    liftSpan (total start (part :: parts)) =
      (liftSpan (partSpan part)).bind fun span =>
        (liftSpan (start.add span)).bind fun next => liftSpan (total next parts) := by
  rw [total_cons]
  cases partSpan part with
  | error problem => rfl
  | ok span =>
    change liftSpan ((start.add span).bind fun next => total next parts) =
      (liftSpan (start.add span)).bind fun next => liftSpan (total next parts)
    cases start.add span <;> rfl

/-- An amount begins with a digit. -/
theorem Amount.IsWritten.isDigit_head {amount : Amount} (written : amount.IsWritten)
    (rest : List Char) : ∀ first ∈ (amount.text ++ rest).head?, Text.isDigit first = true := by
  intro first next
  apply written.whole
  obtain ⟨own, others, same⟩ := List.exists_cons_of_ne_nil written.present
  unfold Amount.text at next
  rw [same] at next ⊢
  obtain rfl := Option.some.inj next
  exact List.mem_cons_self

/-- A text with tokens at its front begins with a digit. -/
theorem Tokens.isDigit_head {α : Type} {shape : Char → α} {parts : List Part}
    {front rest : List Char} (spelled : Tokens shape parts front)
    (begins : parts = [] → ∀ first ∈ rest.head?, Text.isDigit first = true) :
    ∀ first ∈ (front ++ rest).head?, Text.isDigit first = true := by
  cases spelled with
  | nil => exact begins rfl
  | cons written spelled more =>
    rw [List.append_assoc]
    exact written.isDigit_head _

/-- A text that goes on with a digit does not go on with an `s`. -/
theorem apart_of_digit {rest : List Char}
    (digit : ∀ first ∈ rest.head?, Text.isDigit first = true) (unit : Span.TimeUnit) :
    Apart unit rest := by
  intro minute first next long
  have known : 's' ∈ letters := by decide
  have own := digit first next
  rw [(not_amount_of_fold known long).1] at own
  cases own

theorem Amount.IsWritten.length_pos {amount : Amount} (written : amount.IsWritten) :
    0 < amount.text.length := by
  unfold Amount.text
  rw [List.length_append]
  have present := List.length_pos_iff.mpr written.present
  omega

theorem Tokens.ne_nil {α : Type} {shape : Char → α} {parts : List Part} {text : List Char}
    (spelled : Tokens shape parts text) (present : parts ≠ []) : text ≠ [] := by
  cases spelled with
  | nil => exact absurd rfl present
  | cons written spelled more =>
    have long := written.length_pos
    apply List.ne_nil_of_length_pos
    rw [List.length_append]
    omega

/-- How the reading of tokens ends: at the end of the text, at what is no token, or with the error
that the unit is not spelled in plain letters. -/
def ending (rest : List Char) (span : Span) (count : Nat) :
    Except Fault (Span × Nat × List Char) :=
  match token? rest with
  | none => .ok (span, count, rest)
  | some (_, token) => .error (.missingKey (String.ofList token.spelling))

/-- A token in front is added before what comes after it. -/
theorem sumTokens_cons {fuel : Nat} {text : List Char} {amount : Amount} {token : UnitToken}
    {unit : Span.TimeUnit} {parts : List Part}
    (after : Span → Nat → Except Fault (Span × Nat × List Char))
    (read : token? text = some (amount, token)) (known : token.unit = some unit)
    (added : ∀ start count, sumTokens fuel start count token.rest =
      (liftSpan (total start parts)).bind fun span => after span (count + parts.length))
    (start : Span) (count : Nat) :
    sumTokens (fuel + 1) start count text =
      (liftSpan (total start ((unit, amount) :: parts))).bind fun span =>
        after span (count + ((unit, amount) :: parts).length) := by
  have step : sumTokens (fuel + 1) start count text =
      (liftSpan (partSpan (unit, amount))).bind fun span =>
        (liftSpan (start.add span)).bind fun next =>
          sumTokens fuel next (count + 1) token.rest := by
    rw [sumTokens, read]
    dsimp only
    rw [known]
    rfl
  have counted : count + 1 + parts.length = count + ((unit, amount) :: parts).length := by
    rw [List.length_cons]
    omega
  rw [step, liftSpan_total_cons]
  cases liftSpan (partSpan (unit, amount)) with
  | error fault => rfl
  | ok span =>
    change (liftSpan (start.add span)).bind _ = ((liftSpan (start.add span)).bind _).bind _
    cases liftSpan (start.add span) with
    | error fault => rfl
    | ok next =>
      change sumTokens fuel next (count + 1) token.rest = _
      rw [added, counted]
      rfl

/-- Tokens at the front are added up before what comes after them is read. -/
theorem sumTokens_append {parts : List Part} {front rest : List Char}
    (spelled : Tokens Text.lower parts front) (apart : ∀ last ∈ parts.getLast?, Apart last.1 rest)
    {fuel : Nat} (enough : (front ++ rest).length ≤ fuel) :
    ∃ left, rest.length ≤ left ∧ ∀ start count, sumTokens fuel start count (front ++ rest) =
      (liftSpan (total start parts)).bind fun span =>
        sumTokens left span (count + parts.length) rest := by
  induction spelled generalizing fuel with
  | nil => exact ⟨fuel, enough, fun start count => rfl⟩
  | @cons unit amount spelling parts text written spelled more ih =>
    have long := written.length_pos
    simp only [List.append_assoc] at enough ⊢
    rw [List.length_append, List.length_append] at enough
    obtain ⟨fuel, rfl⟩ := Nat.exists_eq_succ_of_ne_zero (show fuel ≠ 0 by omega)
    have shorter : (text ++ rest).length ≤ fuel := by omega
    have ends : Apart unit (text ++ rest) ∧ ∀ last ∈ parts.getLast?, Apart last.1 rest := by
      cases parts with
      | nil =>
        cases more
        exact ⟨apart _ rfl, nofun⟩
      | cons part parts => exact ⟨apart_of_digit (more.isDigit_head nofun) unit, apart⟩
    obtain ⟨left, enough, added⟩ := ih ends.2 shorter
    have read := token?_append written (fold_of_lower spelled) ends.1
    exact ⟨left, enough, sumTokens_cons (fun span count => sumTokens left span count rest) read
      (ofLetters_unit_eq_some_iff.mpr spelled) added⟩

/-- What is no token in plain letters ends the reading. -/
theorem sumTokens_of_odd {rest : List Char}
    (odd : ∀ amount token, token? rest = some (amount, token) → token.unit = none) {fuel : Nat}
    (enough : rest.length ≤ fuel) (span : Span) (count : Nat) :
    sumTokens fuel span count rest = ending rest span count := by
  cases fuel with
  | zero =>
    obtain rfl := List.eq_nil_of_length_eq_zero (Nat.le_zero.mp enough)
    rfl
  | succ fuel =>
    rw [sumTokens, ending]
    cases read : token? rest with
    | none => rfl
    | some found =>
      dsimp only
      rw [odd found.1 found.2 read]

theorem eq_of_map_fold_mark {unit other : Span.TimeUnit}
    (same : (mark unit).map Text.fold = (mark other).map Text.fold) : unit = other := by
  cases unit <;> cases other <;> first | rfl | exact absurd same (by decide +kernel)

/-- A text has tokens at its front, and what comes after them is no token, or its unit is not
spelled in plain letters. -/
theorem exists_front (text : List Char) :
    ∃ parts front rest, text = front ++ rest ∧ Tokens Text.lower parts front ∧
      (∀ last ∈ parts.getLast?, Apart last.1 rest) ∧
      ∀ amount token, token? rest = some (amount, token) → token.unit = none := by
  induction size : text.length using Nat.strongRecOn generalizing text with
  | ind bound ih =>
    by_cases odd : ∀ amount token, token? text = some (amount, token) → token.unit = none
    · exact ⟨[], [], text, rfl, .nil, nofun, odd⟩
    · simp only [not_forall] at odd
      obtain ⟨amount, token, read, known⟩ := odd
      obtain ⟨unit, known⟩ := Option.ne_none_iff_exists'.mp known
      obtain ⟨own, spelling, rfl, written, alike, made, apart⟩ := token?_spec read
      rw [made, ofLetters_unit_eq_some_iff] at known
      obtain rfl : unit = own := eq_of_map_fold_mark ((fold_of_lower known).symm.trans alike)
      have long := written.length_pos
      have shorter : token.rest.length < bound := by
        rw [← size, List.length_append, List.length_append]
        omega
      obtain ⟨parts, front, rest, joined, more, last, odd⟩ := ih _ shorter token.rest rfl
      refine ⟨(unit, amount) :: parts, amount.text ++ (spelling ++ front), rest, ?_,
        .cons written known more, ?_, odd⟩
      · rw [joined]
        simp only [List.append_assoc]
      · cases parts with
        | nil =>
          cases more
          rw [List.nil_append] at joined
          intro last only
          obtain rfl := Option.some.inj only
          exact joined ▸ apart
        | cons part parts => exact last

end CatalogDelta.Duration
