import CatalogDelta.Proofs.Lookback.Duration

/-!
# Durations that are not reported

What is no duration ought to be reported as a wrong configuration. This does not happen to amounts
that exceed what a span can be, to floats that are no number, and to units that are spelled with a
long `s`. Main statement: `parse_fails_iff`.
-/

namespace CatalogDelta.Duration

open Decimal CatalogDelta.Span

/-! ## Texts without blanks at their ends -/

/-- How the reading of a text fails without a report. -/
inductive TextEscapes (text : List Char) : Fault → Prop
  /-- The parts of an international form exceed what a span can be. -/
  | international {parts : List Part} (present : parts ≠ [])
    (spelled : International Text.fold parts text) (beyond : sumSpan parts = .error .outOfRange) :
    TextEscapes text (spanFault .outOfRange)
  /-- The tokens at the front exceed what a span can be, whatever comes after them. -/
  | row {parts : List Part} {front rest : List Char} (joined : text = front ++ rest)
    (spelled : Tokens Text.lower parts front) (apart : ∀ last ∈ parts.getLast?, Apart last.1 rest)
    (beyond : total ⟨0⟩ parts = .error .outOfRange) :
    TextEscapes text (spanFault .outOfRange)
  /-- After tokens that do not exceed it there is an amount of a unit with a long `s`. -/
  | longS {parts : List Part} {front spelling rest : List Char} {span : Span} {amount : Amount}
    {unit : TimeUnit} (joined : text = front ++ (amount.text ++ (spelling ++ rest)))
    (spelled : Tokens Text.lower parts front) (within : total ⟨0⟩ parts = .ok span)
    (written : amount.IsWritten) (alike : spelling.map Text.fold = (mark unit).map Text.fold)
    (long : longS ∈ spelling) :
    TextEscapes text (.missingKey (String.ofList (spelling.map Text.lower)))

theorem TextEscapes.kind {text : List Char} {fault : Fault} (escapes : TextEscapes text fault) :
    fault.kind = .overflow ∨ fault.kind = .key := by
  cases escapes with
  | international => exact .inl rfl
  | row => exact .inl rfl
  | longS => exact .inr rfl

/-- What follows a unit with a long `s` does not make it another one. -/
theorem apart_of_longS {unit : TimeUnit} {spelling : List Char}
    (alike : spelling.map Text.fold = (mark unit).map Text.fold) (long : longS ∈ spelling)
    (rest : List Char) : Apart unit rest := by
  rintro rfl
  obtain ⟨letter, rfl, same⟩ := List.map_eq_singleton_iff.mp alike
  obtain rfl := List.mem_singleton.mp long
  exact absurd same (by decide +kernel)

theorem ofTrimmed_of_escapes {text : String} {fault : Fault}
    (escapes : TextEscapes text.toList fault) : ofTrimmed text = .error fault := by
  have digitOther {front rest : List Char} (joined : text.toList = front ++ rest)
      (digit : ∀ first ∈ (front ++ rest).head?, Text.isDigit first = true) :
      ∀ parts, parts ≠ [] → ¬ International Text.fold parts text.toList := by
    rw [joined]
    exact fun parts _ => not_international_of_digit digit parts
  cases escapes with
  | international present spelled beyond =>
    rw [ofTrimmed_of_international present spelled, beyond]
    rfl
  | @row parts front rest joined spelled apart beyond =>
    have present : parts ≠ [] := by
      rintro rfl
      cases beyond
    have digit : ∀ first ∈ (front ++ rest).head?, Text.isDigit first = true :=
      spelled.isDigit_head fun none => absurd none present
    obtain ⟨left, -, read⟩ := ofTrimmed_append (digitOther joined digit) joined spelled apart
    rw [read, beyond]
    rfl
  | @longS parts front spelling rest span amount unit joined spelled within written alike long =>
    have begins := written.isDigit_head (spelling ++ rest)
    have digit := spelled.isDigit_head fun _ => begins
    have apart : ∀ last ∈ parts.getLast?, Apart last.1 (amount.text ++ (spelling ++ rest)) :=
      fun last _ => apart_of_digit begins last.1
    have next := token?_append written alike (apart_of_longS alike long rest)
    have odd : ∀ found token, token? (amount.text ++ (spelling ++ rest)) = some (found, token) →
        token.unit = none := by
      intro found token same
      cases next.symm.trans same
      exact (ofLetters_unit_eq_none_iff alike).mpr long
    obtain ⟨left, enough, read⟩ := ofTrimmed_append (digitOther joined digit) joined spelled apart
    rw [read, within]
    change (sumTokens left span parts.length _).bind (conclude text) = _
    rw [sumTokens_of_odd odd enough, ending, next]
    rfl

theorem kind_unreadable (text : String) : (unreadable text).kind = .configuration :=
  Fault.kind_configuration _ _ _ _ _

theorem escapes_of_ofTrimmed {text : String} {fault : Fault} (read : ofTrimmed text = .error fault)
    (unreported : fault.kind ≠ .configuration) : TextEscapes text.toList fault := by
  by_cases international : ∃ parts, parts ≠ [] ∧ International Text.fold parts text.toList
  · obtain ⟨parts, present, spelled⟩ := international
    rw [ofTrimmed_of_international present spelled] at read
    rcases sumSpan_cases parts with beyond | ⟨span, within, -⟩
    · rw [beyond] at read
      cases read
      exact .international present spelled beyond
    · rw [within] at read
      cases read
  · obtain ⟨parts, front, rest, joined, spelled, apart, odd, added⟩ :=
      ofTrimmed_cases fun parts present spelled => international ⟨parts, present, spelled⟩
    have zero : 0 ≤ (⟨0⟩ : Span).micros := le_rfl
    rw [added] at read
    rcases total_cases zero parts with beyond | ⟨span, within, -⟩
    · rw [beyond] at read
      cases read
      exact .row joined spelled apart beyond
    · rw [within] at read
      change (ending rest span parts.length).bind (conclude text) = _ at read
      unfold ending at read
      cases next : token? rest with
      | none =>
        rw [next] at read
        change (if _ then _ else _) = _ at read
        split at read
        · cases read
          exact absurd (kind_unreadable text) unreported
        · cases read
      | some found =>
        obtain ⟨amount, token⟩ := found
        obtain ⟨unit, spelling, rfl, written, alike, made, -⟩ := token?_spec next
        have unknown := odd amount token next
        rw [next] at read
        cases read
        rw [made] at unknown ⊢
        exact .longS joined spelled within written alike
          ((ofLetters_unit_eq_none_iff alike).mp unknown)

/-! ## Values -/

/-- The values that a duration is read from: nothing, a text, a number of days, or a span. -/
inductive DurationLike : Data → Prop
  | null : DurationLike .null
  | text (content : String) : DurationLike (.text content)
  | int (days : Int) : DurationLike (.int days)
  | float (days : Float) : DurationLike (.float days)
  | span (length : Span) : DurationLike (.span length)

/-- How the reading of a value fails without a report. -/
inductive Escapes : Data → Fault → Prop
  /-- So many days exceed what a span can be. -/
  | days {days : Int} (beyond : days < -dayLimit ∨ dayLimit < days) :
    Escapes (.int days) (spanFault .outOfRange)
  | realDays {days : Float} (numeric : IsNumeric days)
    (beyond : ofAmounts [(.day, .real days)] = .error .outOfRange) :
    Escapes (.float days) (spanFault .outOfRange)
  | notANumber {days : Float} (notNumeric : ¬ IsNumeric days) :
    Escapes (.float days) (spanFault .notANumber)
  | text {content : String} {fault : Fault}
    (escapes : TextEscapes (Text.trimmed content).toList fault) : Escapes (.text content) fault

theorem Escapes.kind {value : Data} {fault : Fault} (escapes : Escapes value fault) :
    fault.kind = .overflow ∨ fault.kind = .value ∨ fault.kind = .key := by
  cases escapes with
  | days => exact .inl rfl
  | realDays => exact .inl rfl
  | notANumber => exact .inr (.inl rfl)
  | text escapes => exact escapes.kind.imp_right .inr

/-- The span of so many whole days. -/
theorem ofAmounts_days (days : Int) :
    ofAmounts [(.day, .whole days)] =
      if days < -dayLimit ∨ dayLimit < days then .error .outOfRange
      else .ok ⟨days * microsPerDay⟩ := by
  have inside : ofMicros? (days * microsPerDay) = .ok ⟨days * microsPerDay⟩ ↔
      ¬ (days < -dayLimit ∨ dayLimit < days) := by
    rw [ofMicros?_eq_ok_iff]
    unfold microsLimit dayLimit microsPerDay
    omega
  change _ = if _ then _ else _
  rw [ofAmounts_whole]
  change ofMicros? (days * microsPerDay) = _
  split
  · rename_i beyond
    rcases ofMicros?_eq_ok_or (days * microsPerDay) with within | outside
    · exact absurd beyond (inside.mp within)
    · exact outside
  · rename_i within
    exact inside.mpr within

theorem ofAmounts_of_notNumeric {x : Float} (notNumeric : ¬ IsNumeric x) (unit : TimeUnit) :
    ofAmounts [(unit, .real x)] = .error .notANumber := by
  rw [ofAmounts_eq, Sum.addAll_cons, Sum.add_real, splitFloat_eq_notANumber_iff.mpr notNumeric]
  rfl

theorem readSigned_text_fails_iff {content : String} {fault : Fault} :
    readSigned (.text content) = .error fault ∧ fault.kind ≠ .configuration ↔
      TextEscapes (Text.trimmed content).toList fault := by
  by_cases blank : Text.trimmed content = ""
  · have nothing (escapes : TextEscapes (Text.trimmed content).toList fault) : False := by
      have read := ofTrimmed_of_escapes escapes
      rw [blank] at read
      cases read
      exact absurd (kind_unreadable "") (by rcases escapes.kind with kind | kind <;> simp [kind])
    rw [readSigned_of_blank blank]
    exact iff_of_false nofun nothing
  · rw [readSigned_text blank]
    constructor
    · rintro ⟨read, unreported⟩
      cases trimmed : ofTrimmed (Text.trimmed content) with
      | error other =>
        rw [trimmed] at read
        cases read
        exact escapes_of_ofTrimmed trimmed unreported
      | ok span =>
        rw [trimmed] at read
        cases read
    · intro escapes
      rw [ofTrimmed_of_escapes escapes]
      exact ⟨rfl, by rcases escapes.kind with kind | kind <;> simp [kind]⟩

theorem readSigned_fails_iff {value : Data} {fault : Fault} (like : DurationLike value) :
    readSigned value = .error fault ∧ fault.kind ≠ .configuration ↔ Escapes value fault := by
  cases like with
  | null => exact iff_of_false (fun failed => nomatch failed.1) nofun
  | span length => exact iff_of_false (fun failed => nomatch failed.1) nofun
  | text content =>
    rw [readSigned_text_fails_iff]
    exact ⟨.text, fun | .text escapes => escapes⟩
  | int days =>
    change (liftSpan (ofAmounts [(.day, .whole days)])).map some = _ ∧ _ ↔ _
    rw [ofAmounts_days]
    split
    · rename_i beyond
      constructor
      · rintro ⟨read, -⟩
        cases read
        exact .days beyond
      · rintro (_ | _)
        exact ⟨rfl, nofun⟩
    · rename_i within
      refine iff_of_false (fun failed => nomatch failed.1) ?_
      rintro (beyond | _)
      exact within beyond
  | float days =>
    change (liftSpan (ofAmounts [(.day, .real days)])).map some = _ ∧ _ ↔ _
    constructor
    · rintro ⟨read, -⟩
      by_cases numeric : IsNumeric days
      · rcases ofAmounts_of_numeric numeric .day with beyond | ⟨span, within⟩
        · rw [beyond] at read
          cases read
          exact .realDays numeric beyond
        · rw [within] at read
          cases read
      · rw [ofAmounts_of_notNumeric numeric] at read
        cases read
        exact .notANumber numeric
    · intro escapes
      cases escapes with
      | realDays numeric beyond =>
        rw [beyond]
        exact ⟨rfl, nofun⟩
      | notANumber notNumeric =>
        rw [ofAmounts_of_notNumeric notNumeric]
        exact ⟨rfl, nofun⟩

theorem signChecked_cases (value : Data) (span : Span) :
    signChecked value span = .ok (some span) ∧ 0 ≤ span.micros ∨
      ∃ fault, signChecked value span = .error fault ∧ fault.kind = .configuration := by
  unfold signChecked
  split
  · exact .inr ⟨_, rfl, Fault.kind_configuration _ _ _ _ _⟩
  · rename_i notNegative
    exact .inl ⟨rfl, Int.not_lt.mp fun negative => notNegative (decide_eq_true negative)⟩

theorem parse_nonneg {value : Data} {span : Span} (read : parse value = .ok (some span)) :
    0 ≤ span.micros := by
  rw [parse_eq] at read
  cases signed : readSigned value with
  | error fault =>
    rw [signed] at read
    cases read
  | ok window =>
    rw [signed] at read
    cases window with
    | none => cases read
    | some own =>
      change signChecked value own = _ at read
      rcases signChecked_cases value own with ⟨checked, nonneg⟩ | ⟨fault, failed, -⟩
      · cases checked.symm.trans read
        exact nonneg
      · cases failed.symm.trans read

/-- **Which durations are not reported.** The reading of a value fails without a report exactly if
the value escapes. -/
theorem parse_fails_iff {value : Data} {fault : Fault} (like : DurationLike value) :
    parse value = .error fault ∧ fault.kind ≠ .configuration ↔ Escapes value fault := by
  rw [← readSigned_fails_iff like, parse_eq]
  cases readSigned value with
  | error other => rfl
  | ok window =>
    refine iff_of_false ?_ fun failed => nomatch failed.1
    rintro ⟨failed, unreported⟩
    cases window with
    | none => cases failed
    | some span =>
      change signChecked value span = _ at failed
      rcases signChecked_cases value span with ⟨checked, -⟩ | ⟨other, reported, kind⟩
      · cases checked.symm.trans failed
      · cases reported.symm.trans failed
        exact unreported kind

end CatalogDelta.Duration
