import CatalogDelta.Json.Reader
import CatalogDelta.Json.Writer
import CatalogDelta.Proofs.Act.Gives
import Mathlib.Data.List.Chain

/-!
# Text literals are read back

Every code point of a text is written as itself or as an escape. It is read back from either, unless
two units stand side by side that make a pair: they come back as one code point. No text that was
read holds such a pair. Main statements: `textBody_escaped`, `readable_of_textBody`.
-/

namespace CatalogDelta.Json

open CodePoint (isHighUnit isLowUnit ofChar)

/-- No two units in a text make a pair. -/
def Readable (text : Points) : Prop :=
  text.IsChain fun (first second : CodePoint) =>
    isHighUnit first.val = true → isLowUnit second.val = false

section Units

theorem hexValue?_hexDigit :
    ∀ digit : Fin 16, hexValue? (Text.hexDigit digit) = some digit.val := by decide

/-- A unit is read back from its four digits. -/
theorem hexQuad?_hexField {unit : Nat} (low : unit < 0x10000) (rest : List Char) :
    hexQuad? (Text.hexField 4 unit ++ rest) = some unit := by
  have digit (value : Nat) : hexValue? (Text.hexDigit (value % 16)) = some (value % 16) :=
    hexValue?_hexDigit ⟨value % 16, Nat.mod_lt _ (by decide)⟩
  simp only [Text.hexField, List.nil_append, List.cons_append, hexQuad?, digit, Option.bind_eq_bind,
    Option.bind_some, Option.pure_def, Option.some.injEq]
  omega

theorem hexValue?_lt {c : Char} {value : Nat} (read : hexValue? c = some value) : value < 16 := by
  have code {first last : Char} (within : first ≤ c ∧ c ≤ last) :
      first.toNat ≤ c.toNat ∧ c.toNat ≤ last.toNat := within
  unfold hexValue? at read
  split at read
  · have bounds := code ‹_›
    simp only [Char.reduceToNat] at bounds
    cases read
    omega
  · split at read
    · have bounds := code ‹_›
      simp only [Char.reduceToNat] at bounds
      cases read
      omega
    · split at read
      · have bounds := code ‹_›
        simp only [Char.reduceToNat] at bounds
        cases read
        omega
      · contradiction

theorem hexQuad?_lt {text : List Char} {unit : Nat} (read : hexQuad? text = some unit) :
    unit < 0x10000 := by
  unfold hexQuad? at read
  split at read
  · simp only [Option.bind_eq_bind, Option.pure_def, Option.bind_eq_some_iff,
      Option.some.injEq] at read
    obtain ⟨_, first, _, second, _, third, _, fourth, rfl⟩ := read
    have := hexValue?_lt first
    have := hexValue?_lt second
    have := hexValue?_lt third
    have := hexValue?_lt fourth
    omega
  · contradiction

theorem drop_hexField (unit : Nat) (rest : List Char) :
    (Text.hexField 4 unit ++ rest).drop 4 = rest := rfl

theorem length_hexField_append (unit : Nat) {rest : List Char} (more : rest ≠ []) :
    4 < (Text.hexField 4 unit ++ rest).length := by
  have some : 0 < rest.length := List.length_pos_iff.mpr more
  rw [List.length_append]
  exact Nat.lt_add_of_pos_right some

theorem unitEscape_append (unit : Nat) (rest : List Char) :
    unitEscape unit ++ rest = '\\' :: 'u' :: (Text.hexField 4 unit ++ rest) := rfl

/-- The text does not begin with the escape of a unit that ends a pair. -/
def Unpaired (text : List Char) : Prop :=
  ∀ second, text = '\\' :: 'u' :: second → 4 < second.length →
    ∃ partner, hexQuad? second = some partner ∧ isLowUnit partner = false

/-- A unit that does not begin a pair is read as a code point of its own. -/
theorem unicodeEscape_of_single {unit : Nat} (low : unit < 0x10000) {rest : List Char}
    (more : rest ≠ []) (single : isHighUnit unit = true → Unpaired rest) :
    unicodeEscape (Text.hexField 4 unit ++ rest) = .ok (Fin.ofNat _ unit, rest) := by
  have enough := length_hexField_append unit more
  unfold unicodeEscape
  rw [if_neg (Nat.not_lt.mpr enough), hexQuad?_hexField low]
  dsimp only
  rw [drop_hexField]
  split
  · rename_i second
    split
    · rename_i goesOn
      rw [Bool.and_eq_true, decide_eq_true_eq] at goesOn
      obtain ⟨partner, read, other⟩ := single goesOn.1 second rfl goesOn.2
      simp only [read, other, Bool.false_eq_true, ↓reduceIte]
    · rfl
  · rfl

/-- The two units of a pair are read as one code point. -/
theorem unicodeEscape_of_pair {high low : Nat} (isHigh : isHighUnit high = true)
    (isLow : isLowUnit low = true) {rest : List Char} (more : rest ≠ []) :
    unicodeEscape (Text.hexField 4 high ++ (unitEscape low ++ rest)) =
      .ok (Fin.ofNat _ (paired high low), rest) := by
  have highBound : high < 0x10000 := by
    simp only [isHighUnit, Bool.and_eq_true, decide_eq_true_eq] at isHigh
    omega
  have lowBound : low < 0x10000 := by
    simp only [isLowUnit, Bool.and_eq_true, decide_eq_true_eq] at isLow
    omega
  have enough := length_hexField_append low more
  rw [unitEscape_append]
  unfold unicodeEscape
  rw [if_neg (Nat.not_lt.mpr (length_hexField_append high (List.cons_ne_nil _ _))),
    hexQuad?_hexField highBound]
  dsimp only
  rw [drop_hexField]
  simp only [isHigh, enough, decide_true, Bool.and_self, ↓reduceIte, hexQuad?_hexField lowBound,
    isLow, drop_hexField]

/-- What a unicode escape is read as: a unit after which no pair goes on, or a pair. -/
theorem unicodeEscape_cases {digits after : List Char} {point : CodePoint}
    (read : unicodeEscape digits = .ok (point, after)) :
    4 < digits.length ∧ ∃ unit, hexQuad? digits = some unit ∧
      (point.val = unit ∧ (isHighUnit unit = true → Unpaired after) ∨ 0x10000 ≤ point.val) := by
  unfold unicodeEscape at read
  split at read
  · contradiction
  · rename_i enough
    split at read
    · contradiction
    · rename_i unit quad
      have single : (Fin.ofNat 0x110000 unit).val = unit :=
        Nat.mod_eq_of_lt (Nat.lt_trans (hexQuad?_lt quad) (by decide))
      refine ⟨Nat.not_lt.mp enough, unit, quad, ?_⟩
      dsimp only at read
      split at read
      · rename_i second ends
        split at read
        · rename_i goesOn
          rw [Bool.and_eq_true, decide_eq_true_eq] at goesOn
          split at read
          · contradiction
          · rename_i partner partner_eq
            split at read
            · rename_i isLow
              have isHigh := goesOn.1
              simp only [isHighUnit, isLowUnit, Bool.and_eq_true, decide_eq_true_eq] at isHigh isLow
              have small : paired unit partner < 0x110000 := by
                unfold paired
                omega
              obtain ⟨rfl, _⟩ := Prod.mk.inj (Except.ok.inj read)
              refine .inr ?_
              rw [Fin.val_ofNat, Nat.mod_eq_of_lt small]
              unfold paired
              omega
            · rename_i other
              obtain ⟨rfl, rfl⟩ := Prod.mk.inj (Except.ok.inj read)
              refine .inl ⟨single, fun _ text begins _ => ?_⟩
              obtain ⟨_, begins⟩ := List.cons.inj (ends.symm.trans begins)
              obtain ⟨_, rfl⟩ := List.cons.inj begins
              exact ⟨partner, partner_eq, Bool.eq_false_iff.mpr other⟩
        · rename_i stops
          obtain ⟨rfl, rfl⟩ := Prod.mk.inj (Except.ok.inj read)
          refine .inl ⟨single, fun isHigh text begins long => ?_⟩
          obtain ⟨_, begins⟩ := List.cons.inj (ends.symm.trans begins)
          obtain ⟨_, rfl⟩ := List.cons.inj begins
          rw [isHigh, Bool.true_and, decide_eq_true_eq] at stops
          exact absurd long stops
      · rename_i other
        obtain ⟨rfl, rfl⟩ := Prod.mk.inj (Except.ok.inj read)
        exact .inl ⟨single, fun _ text begins _ => (other text begins).elim⟩

end Units

section Body

variable (opening fuel : Nat) {c : Char} {point : CodePoint} {rest : List Char}

/-- A code point goes before the rest of what is read. -/
def prepend (point : CodePoint) (read : Except Stop (Points × List Char)) :
    Except Stop (Points × List Char) :=
  read.map fun (points, after) => (point :: points, after)

theorem textBody_of_mark {mark : Char} (target : escapeTarget? mark = some c) :
    textBody opening (fuel + 1) ('\\' :: mark :: rest) =
      prepend (ofChar c) (textBody opening fuel rest) := by
  have other : mark ≠ 'u' := by
    rintro rfl
    contradiction
  rw [textBody.eq_def]
  dsimp only
  rw [if_neg (by decide), if_pos rfl]
  split
  · contradiction
  · rename_i same
    exact absurd (List.cons.inj same).1 other
  · rename_i same
    obtain ⟨rfl, rfl⟩ := List.cons.inj same
    rw [target]
    cases textBody opening fuel rest <;> rfl

theorem textBody_of_plain (unquoted : c ≠ '"') (unescaped : c ≠ '\\') (printed : 0x20 ≤ c.toNat) :
    textBody opening (fuel + 1) (c :: rest) =
      prepend (ofChar c) (textBody opening fuel rest) := by
  rw [textBody.eq_def]
  dsimp only
  rw [if_neg unquoted, if_neg unescaped, if_neg (Nat.not_lt.mpr printed)]
  cases textBody opening fuel rest <;> rfl

theorem textBody_of_unicode {digits : List Char} (read : unicodeEscape digits = .ok (point, rest)) :
    textBody opening (fuel + 1) ('\\' :: 'u' :: digits) =
      prepend point (textBody opening fuel rest) := by
  rw [textBody.eq_def]
  dsimp only
  rw [if_neg (by decide), if_pos rfl]
  split
  · contradiction
  · rename_i same
    obtain ⟨_, rfl⟩ := List.cons.inj same
    rw [read]
    change (textBody opening fuel rest >>= fun found => _) = _
    cases textBody opening fuel rest <;> rfl
  · rename_i other same
    exact (other (List.cons.inj same).1.symm).elim

/-- How a code point is written: with a mark, as itself, as a unit, or as a pair of units. -/
theorem escaped_cases (point : CodePoint) :
    (∃ c mark, point = ofChar c ∧ escapeTarget? mark = some c ∧ escaped point = ['\\', mark]) ∨
    (∃ c, point = ofChar c ∧ c ≠ '"' ∧ c ≠ '\\' ∧ 0x20 ≤ c.toNat ∧ escaped point = [c]) ∨
    (point.val < 0x10000 ∧ escaped point = unitEscape point.val) ∨
    0x10000 ≤ point.val ∧ escaped point =
      unitEscape (0xD800 + (point.val - 0x10000) / 0x400) ++
        unitEscape (0xDC00 + (point.val - 0x10000) % 0x400) := by
  by_cases marked : point = ofChar '"' ∨ point = ofChar '\\' ∨ point = ofChar '\n' ∨
    point = ofChar '\r' ∨ point = ofChar '\t' ∨ point = ofChar '\x08' ∨ point = ofChar '\x0c'
  · left
    rcases marked with rfl | rfl | rfl | rfl | rfl | rfl | rfl
    · exact ⟨'"', '"', rfl, rfl, rfl⟩
    · exact ⟨'\\', '\\', rfl, rfl, rfl⟩
    · exact ⟨'\n', 'n', rfl, rfl, rfl⟩
    · exact ⟨'\r', 'r', rfl, rfl, rfl⟩
    · exact ⟨'\t', 't', rfl, rfl, rfl⟩
    · exact ⟨'\x08', 'b', rfl, rfl, rfl⟩
    · exact ⟨'\x0c', 'f', rfl, rfl, rfl⟩
  · right
    simp only [not_or] at marked
    obtain ⟨quote, slash, line, back, tab, left, page⟩ := marked
    simp only [escaped, quote, slash, line, back, tab, left, page, ↓reduceIte]
    by_cases plain : 0x20 ≤ point.val ∧ point.val < 0x7F
    · have valid : point.val.isValidChar := .inl (Nat.lt_trans plain.2 (by decide))
      have same : point = ofChar (Char.ofNat point.val) := by
        have char_eq : Char.ofNat point.val = .ofNatAux point.val valid := dif_pos valid
        rw [char_eq]
        exact CodePoint.eq_ofChar_of_char? (dif_pos valid)
      have code_eq : (Char.ofNat point.val).toNat = point.val := congrArg Fin.val same.symm
      refine .inl ⟨Char.ofNat point.val, same, fun other => quote (same.trans (by rw [other])),
        fun other => slash (same.trans (by rw [other])), ?_, if_pos plain⟩
      rw [code_eq]
      exact plain.1
    · right
      rw [if_neg plain]
      by_cases low : point.val < 0x10000
      · exact .inl ⟨low, if_pos low⟩
      · exact .inr ⟨Nat.not_lt.mp low, if_neg low⟩

theorem escaped_ne_nil (point : CodePoint) : escaped point ≠ [] := by
  rcases escaped_cases point with ⟨_, _, _, _, written⟩ | ⟨_, _, _, _, _, written⟩ | ⟨_, written⟩ |
    ⟨_, written⟩
  all_goals
    rw [written]
    exact List.cons_ne_nil _ _

/-- **A code point is read back** from what is written for it, if no pair goes on after it. -/
theorem textBody_escaped_append (point : CodePoint) (more : rest ≠ [])
    (single : isHighUnit point.val = true → Unpaired rest) :
    textBody opening (fuel + 1) (escaped point ++ rest) =
      prepend point (textBody opening fuel rest) := by
  rcases escaped_cases point with ⟨c, mark, same, target, written⟩ |
    ⟨c, same, quote, slash, printed, written⟩ | ⟨low, written⟩ | ⟨high, written⟩
  · rw [written, same]
    exact textBody_of_mark opening fuel target
  · rw [written, same]
    exact textBody_of_plain opening fuel quote slash printed
  · have read_eq : Fin.ofNat 0x110000 point.val = point :=
      Fin.ext (Nat.mod_eq_of_lt point.isLt)
    rw [written, unitEscape_append]
    refine textBody_of_unicode opening fuel ?_
    rw [unicodeEscape_of_single low more single, read_eq]
  · rw [written, List.append_assoc, unitEscape_append]
    refine textBody_of_unicode opening fuel ?_
    have most := point.isLt
    have isHigh : isHighUnit (0xD800 + (point.val - 0x10000) / 0x400) = true := by
      simp only [isHighUnit, Bool.and_eq_true, decide_eq_true_eq]
      omega
    have isLow : isLowUnit (0xDC00 + (point.val - 0x10000) % 0x400) = true := by
      simp only [isLowUnit, Bool.and_eq_true, decide_eq_true_eq]
      omega
    have together : paired (0xD800 + (point.val - 0x10000) / 0x400)
        (0xDC00 + (point.val - 0x10000) % 0x400) = point.val := by
      unfold paired
      omega
    have read_eq : Fin.ofNat 0x110000 point.val = point := Fin.ext (Nat.mod_eq_of_lt most)
    rw [unicodeEscape_of_pair isHigh isLow more, together, read_eq]

/-- A written text begins with the escape of its first code point, if it begins with an escape. -/
theorem unpaired_of_escaped {text : Points} {rest : List Char}
    (other : ∀ first ∈ text.head?, isLowUnit first.val = false) :
    Unpaired (text.flatMap escaped ++ '"' :: rest) := by
  intro second begins _
  cases text with
  | nil => exact absurd (List.cons.inj begins).1 (by decide)
  | cons point others =>
    rw [List.flatMap_cons, List.append_assoc] at begins
    rcases escaped_cases point with ⟨c, mark, _, target, written⟩ |
      ⟨c, _, _, slash, _, written⟩ | ⟨low, written⟩ | ⟨high, written⟩
    · rw [written] at begins
      obtain ⟨_, begins⟩ := List.cons.inj begins
      rw [(List.cons.inj begins).1] at target
      contradiction
    · rw [written] at begins
      exact absurd (List.cons.inj begins).1 slash
    · rw [written, unitEscape_append] at begins
      obtain ⟨_, begins⟩ := List.cons.inj begins
      obtain ⟨_, rfl⟩ := List.cons.inj begins
      exact ⟨point.val, hexQuad?_hexField low _, other point rfl⟩
    · rw [written, List.append_assoc, unitEscape_append] at begins
      obtain ⟨_, begins⟩ := List.cons.inj begins
      obtain ⟨_, rfl⟩ := List.cons.inj begins
      have most := point.isLt
      refine ⟨_, hexQuad?_hexField (by omega) _, ?_⟩
      simp only [isLowUnit, Bool.and_eq_false_iff, decide_eq_false_iff_not]
      omega

/-- **A text without pairs is read back** from its literal. -/
theorem textBody_escaped {text : Points} (readable : Readable text)
    (enough : text.length < fuel) (rest : List Char) :
    textBody opening fuel (text.flatMap escaped ++ '"' :: rest) = .ok (text, rest) := by
  induction text generalizing fuel with
  | nil =>
    obtain ⟨fuel, rfl⟩ := Nat.exists_eq_add_one_of_ne_zero (Nat.ne_of_gt enough)
    rw [List.flatMap_nil, List.nil_append, textBody.eq_def]
    dsimp only
    rw [if_pos rfl]
  | cons point others ih =>
    obtain ⟨fuel, rfl⟩ := Nat.exists_eq_add_one_of_ne_zero (Nat.ne_zero_of_lt enough)
    obtain ⟨alone, readable⟩ := List.isChain_cons.mp readable
    have more : others.flatMap escaped ++ '"' :: rest ≠ [] :=
      List.append_ne_nil_of_right_ne_nil _ (List.cons_ne_nil _ _)
    have single (isHigh : isHighUnit point.val = true) :
        Unpaired (others.flatMap escaped ++ '"' :: rest) :=
      unpaired_of_escaped fun first there => alone first there isHigh
    rw [List.flatMap_cons, List.append_assoc, textBody_escaped_append opening fuel point more single,
      ih fuel readable (Nat.lt_of_succ_lt_succ enough)]
    rfl

end Body

section Found

variable {opening fuel : Nat} {text rest : List Char} {points : Points}

/-- What is read at the front of a text literal: nothing, a character, or a unicode escape. -/
theorem textBody_cases (read : textBody opening (fuel + 1) text = .ok (points, rest)) :
    points = [] ∨ ∃ point others after, points = point :: others ∧
      textBody opening fuel after = .ok (others, rest) ∧
      ((∃ c, point = ofChar c) ∨
        ∃ digits, text = '\\' :: 'u' :: digits ∧ unicodeEscape digits = .ok (point, after)) := by
  have goesOn {point : CodePoint} {after : List Char}
      (read : (do
        let (others, rest) ← textBody opening fuel after
        return (point :: others, rest)) = Except.ok (points, rest)) :
      ∃ others, points = point :: others ∧ textBody opening fuel after = .ok (others, rest) := by
    obtain ⟨⟨others, rest⟩, later, read⟩ := Act.exists_of_bind_eq_ok read
    obtain ⟨rfl, rfl⟩ := Prod.mk.inj (Except.ok.inj read)
    exact ⟨others, rfl, later⟩
  rw [textBody.eq_def] at read
  dsimp only at read
  split at read
  · contradiction
  · contradiction
  · rename_i same
    obtain rfl := Nat.succ.inj same
    split at read
    · obtain ⟨rfl, _⟩ := Prod.mk.inj (Except.ok.inj read)
      exact .inl rfl
    · split at read
      · rename_i c rest slash
        split at read
        · contradiction
        · rename_i digits
          obtain ⟨⟨point, after⟩, escape, read⟩ := Act.exists_of_bind_eq_ok read
          obtain ⟨others, begins, later⟩ := goesOn read
          exact .inr ⟨point, others, after, begins, later, .inr ⟨digits, by rw [slash], escape⟩⟩
        · split at read
          · contradiction
          · rename_i char _
            obtain ⟨others, begins, later⟩ := goesOn read
            exact .inr ⟨_, others, _, begins, later, .inl ⟨char, rfl⟩⟩
      · split at read
        · contradiction
        · obtain ⟨others, begins, later⟩ := goesOn read
          exact .inr ⟨_, others, _, begins, later, .inl ⟨_, rfl⟩⟩

/-- A text that is read begins with a unit that ends a pair only if its literal begins with the
escape of this unit. -/
theorem exists_escape_of_low {first : CodePoint} {others : Points}
    (read : textBody opening fuel text = .ok (first :: others, rest))
    (isLow : isLowUnit first.val = true) :
    ∃ digits, text = '\\' :: 'u' :: digits ∧ 4 < digits.length ∧
      hexQuad? digits = some first.val := by
  cases fuel with
  | zero => contradiction
  | succ fuel =>
    rcases textBody_cases read with none | ⟨point, _, after, begins, _, come⟩
    · contradiction
    obtain ⟨rfl, _⟩ := List.cons.inj begins
    rcases come with ⟨c, rfl⟩ | ⟨digits, written, escape⟩
    · have other : isLowUnit (ofChar c).val = false := (CodePoint.not_unit_toNat c).2
      rw [other] at isLow
      contradiction
    · obtain ⟨enough, unit, quad, single | high⟩ := unicodeEscape_cases escape
      · exact ⟨digits, written, enough, single.1 ▸ quad⟩
      · simp only [isLowUnit, Bool.and_eq_true, decide_eq_true_eq] at isLow
        omega

/-- **No text that was read holds a pair of units.** -/
theorem readable_of_textBody (read : textBody opening fuel text = .ok (points, rest)) :
    Readable points := by
  induction fuel generalizing text points with
  | zero => contradiction
  | succ fuel ih =>
    rcases textBody_cases read with rfl | ⟨point, others, after, rfl, later, come⟩
    · exact .nil
    refine List.isChain_cons.mpr ⟨fun second there isHigh => ?_, ih later⟩
    rcases come with ⟨c, rfl⟩ | ⟨digits, _, escape⟩
    · have other : isHighUnit (ofChar c).val = false := (CodePoint.not_unit_toNat c).1
      rw [other] at isHigh
      contradiction
    · obtain ⟨_, unit, _, ⟨single, unpaired⟩ | high⟩ := unicodeEscape_cases escape
      · rw [Bool.eq_false_iff]
        intro isLow
        obtain ⟨remaining, rfl⟩ : ∃ remaining, others = second :: remaining := by
          cases others with
          | nil => contradiction
          | cons first remaining => exact ⟨remaining, by rw [Option.some.inj there]⟩
        obtain ⟨more, written, long, quad⟩ := exists_escape_of_low later isLow
        obtain ⟨partner, read, other⟩ := unpaired (single ▸ isHigh) more written long
        rw [quad] at read
        rw [← Option.some.inj read, isLow] at other
        contradiction
      · simp only [isHighUnit, Bool.and_eq_true, decide_eq_true_eq] at isHigh
        omega

end Found

/-- An ordinary text can be read, since no character is a unit. -/
theorem readable_ofText (text : String) : Readable (.ofText text) := by
  unfold Readable Points.ofText
  induction text.toList with
  | nil => exact .nil
  | cons c others ih =>
    refine List.isChain_cons.mpr ⟨fun _ _ isHigh => ?_, ih⟩
    have single : isHighUnit (ofChar c).val = false := (CodePoint.not_unit_toNat c).1
    rw [single] at isHigh
    contradiction

theorem not_mem_unitEscape (unit : Nat) : '\r' ∉ unitEscape unit := by
  have digits : ∀ digit : Fin 16, Text.hexDigit digit ≠ '\r' := by decide
  have digit (value : Nat) : '\r' ≠ Text.hexDigit (value % 16) :=
    (digits ⟨value % 16, Nat.mod_lt _ (by decide)⟩).symm
  simp only [unitEscape, Text.hexField, List.nil_append, List.cons_append, List.mem_cons,
    List.not_mem_nil, digit, or_false, not_or]
  decide

/-- Literals hold no line ends. -/
theorem not_mem_escaped (point : CodePoint) : '\r' ∉ escaped point := by
  rcases escaped_cases point with ⟨_, mark, _, target, written⟩ | ⟨c, _, _, _, printed, written⟩ |
    ⟨_, written⟩ | ⟨_, written⟩
  · rw [written, List.mem_cons, List.mem_singleton, not_or]
    refine ⟨by decide, ?_⟩
    rintro rfl
    contradiction
  · rw [written, List.mem_singleton]
    rintro rfl
    exact absurd printed (by decide)
  · rw [written]
    exact not_mem_unitEscape _
  · rw [written, List.mem_append, not_or]
    exact ⟨not_mem_unitEscape _, not_mem_unitEscape _⟩

end CatalogDelta.Json
