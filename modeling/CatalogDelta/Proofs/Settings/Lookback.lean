import CatalogDelta.Proofs.Lookback.Escape
import CatalogDelta.Proofs.Settings.Usual
import CatalogDelta.Settings.Basic

/-!
# Settings with a duration that is not reported

Wrong settings are reported as a wrong configuration. The one thing beside a pattern that ends the
reading of settings without a report is a duration that escapes; a float that is no number is
reported here, though it is not where durations are read.
-/

namespace CatalogDelta

/-! ## Fields that never end the filling of a form -/

namespace Form

section Stops

variable {read : {α : Type} → Declared α → Data → Finding α} {α β γ : Type}
  {others : Form (β → γ)} {name : String} {declared : Declared α} {rule : α → Except Fault β}
  {default : β} {entries : List (String × Data)} {fault : Fault}

/-- No fault ends the filling of the form. -/
def Completes (read : {α : Type} → Declared α → Data → Finding α) {α : Type} (form : Form α)
    (entries : List (String × Data)) : Prop :=
  ∀ fault, ¬form.Stops read entries fault

/-- The rule fails only because a value is wrong. -/
def IsMild (rule : α → Except Fault β) : Prop :=
  ∀ given fault, rule given = .error fault → fault.kind.isA .value = true

theorem isMild_ok : IsMild (.ok : α → Except Fault α) := fun _ _ failed => nomatch failed

theorem IsMild.not_fieldStops (mild : IsMild rule) (written : Option Data) (fault : Fault) :
    ¬FieldStops read declared rule written fault := by
  rintro ⟨_, given, -, -, failed, strong⟩
  exact nomatch (mild given fault failed).symm.trans strong

theorem completes_filled {α : Type} (meaning : α) : (filled meaning).Completes read entries :=
  fun _ stops => stops

/-- A field after all others decides if these never end the filling. -/
theorem Completes.stops_field_iff (completes : others.Completes read entries) :
    (others.field name declared rule default).Stops read entries fault ↔
      FieldStops read declared rule (OrderedMap.get? name entries) fault := by
  refine (or_iff_right (completes fault)).trans ?_
  exact and_iff_right completes

theorem Completes.field (completes : others.Completes read entries)
    (quiet : ∀ fault, ¬FieldStops read declared rule (OrderedMap.get? name entries) fault) :
    (others.field name declared rule default).Completes read entries :=
  fun fault stops => quiet fault (completes.stops_field_iff.mp stops)

/-- A mild rule after all others never decides. -/
theorem stops_field_iff_of_isMild (mild : IsMild rule) :
    (others.field name declared rule default).Stops read entries fault ↔
      others.Stops read entries fault :=
  or_iff_left fun stops => mild.not_fieldStops _ fault stops.2

theorem stops_inner_iff_of_completes {title : String} {others : Form (Option α → γ)}
    {form : Form α} (completes : ∀ inside, form.Completes read inside) :
    (others.inner name title form).Stops read entries fault ↔ others.Stops read entries fault :=
  or_iff_left fun ⟨_, inside, _, stops⟩ => completes inside fault stops

end Stops

end Form

namespace Settings

open Duration Form

theorem isMild_exclusionsRule : IsMild exclusionsRule := by
  intro given fault failed
  unfold exclusionsRule at failed
  split at failed <;> cases failed
  rfl

theorem isMild_sourceRule : IsMild sourceRule := by
  intro given fault failed
  unfold sourceRule at failed
  dsimp only at failed
  split at failed <;> cases failed
  rfl

/-! ## The duration -/

/-- The kinds of the faults with which a duration escapes: a value that is wrong or not. -/
theorem isA_value_of_escapes {value : Data} {fault : Fault} (escapes : Escapes value fault) :
    fault.kind.isA .value = false ↔ fault.kind ≠ .value := by
  rcases escapes.kind with kind | kind | kind <;> rw [kind] <;> decide

theorem lookbackRule_stops_iff {given : Option Data} {value : Data} {fault : Fault}
    (like : DurationLike value) (same : given.getD .null = value) :
    lookbackRule given = .error fault ∧ fault.kind.isA .value = false ↔
      Escapes value fault ∧ fault.kind ≠ .value := by
  have checked : lookbackRule given = .error fault ↔
      ∃ cause, parse value = .error cause ∧ fault = asWrongValue cause := by
    unfold lookbackRule
    dsimp only
    rw [same]
    cases parse value with
    | ok window => exact ⟨nofun, fun ⟨_, same, _⟩ => nomatch same⟩
    | error other =>
      constructor
      · intro same
        cases same
        exact ⟨other, rfl, rfl⟩
      · rintro ⟨_, same, rfl⟩
        cases same
        rfl
  rw [checked]
  constructor
  · rintro ⟨⟨cause, failed, rfl⟩, strong⟩
    -- A wrong configuration has become a wrong value, so it is not what stops.
    have unreported : cause.kind ≠ .configuration := by
      intro reported
      rw [asWrongValue, if_pos (FaultKind.isA_configuration_iff.mpr reported)] at strong
      exact nomatch strong
    rw [asWrongValue, if_neg (FaultKind.isA_configuration_iff.not.mpr unreported)] at strong ⊢
    have escapes := (parse_fails_iff like).mp ⟨failed, unreported⟩
    exact ⟨escapes, (isA_value_of_escapes escapes).mp strong⟩
  · rintro ⟨escapes, notValue⟩
    obtain ⟨failed, unreported⟩ := (parse_fails_iff like).mpr escapes
    refine ⟨⟨fault, failed, ?_⟩, (isA_value_of_escapes escapes).mpr notValue⟩
    rw [asWrongValue, if_neg (FaultKind.isA_configuration_iff.not.mpr unreported)]

section Validated

variable {validation : Validation}

/-- The duration ends the filling with a fault exactly if it escapes, and not by being no number. -/
theorem fieldStops_lookback_iff (lawful : validation.Lawful) {written : Option Data}
    {fault : Fault} :
    FieldStops validation.read (.optional .textOrNumber) lookbackRule written fault ↔
      ∃ value, written = some value ∧ Escapes value fault ∧ fault.kind ≠ .value := by
  constructor
  · rintro ⟨value, given, rfl, read, stops⟩
    refine ⟨value, rfl, ?_⟩
    have taken := lawful.optional.mp read
    split at taken
    · subst taken
      exact (lookbackRule_stops_iff .null rfl).mp stops
    · obtain ⟨present, taken, rfl⟩ := taken
      cases lawful.textOrNumber.mp taken with
      | text content => exact (lookbackRule_stops_iff (.text content) rfl).mp stops
      | int days => exact (lookbackRule_stops_iff (.int days) rfl).mp stops
      | float days => exact (lookbackRule_stops_iff (.float days) rfl).mp stops
      | bool value =>
        -- A truth value counts as one day or none.
        obtain ⟨beyond | _, -⟩ := (lookbackRule_stops_iff (.int _) rfl).mp stops
        cases value <;> exact absurd beyond (by decide)
  · rintro ⟨value, rfl, escapes⟩
    have like : DurationLike value := by
      cases escapes.1 <;> constructor
    have taken : TakenAs value value := by
      cases escapes.1 <;> constructor
    have read : validation.read (.optional .textOrNumber) value = .ok (some value) := by
      refine lawful.optional.mpr ?_
      split
      · exact nomatch taken
      · exact ⟨value, lawful.textOrNumber.mpr taken, rfl⟩
    exact ⟨value, some value, rfl, read, (lookbackRule_stops_iff like rfl).mpr escapes⟩

/-! ## Settings -/

/-- No fault but a wrong value comes of looking at the patterns. -/
def ReadsPatterns (validation : Validation) (entries : List (String × Data)) : Prop :=
  ∀ name ∈ ["database_pattern", "table_pattern"], ∀ fault,
    ¬FieldStops validation.read .text patternRule (OrderedMap.get? name entries) fault

theorem stops_form_iff (lawful : validation.Lawful) {entries : List (String × Data)}
    (reads : ReadsPatterns validation entries) {fault : Fault} :
    form.Stops validation.read entries fault ↔ ∃ value,
      OrderedMap.get? "lookback_duration" entries = some value ∧
        Escapes value fault ∧ fault.kind ≠ .value := by
  have retries (inside : List (String × Data)) : retryForm.Completes validation.read inside :=
    ((completes_filled RetrySettings.mk).field (isMild_ok.not_fieldStops _)).field
      (isMild_ok.not_fieldStops _)
  have databases := reads "database_pattern" (by decide)
  have tables := reads "table_pattern" (by decide)
  -- What comes after the duration never decides, and neither does what comes before it.
  refine (stops_inner_iff_of_completes retries).trans ?_
  refine (stops_field_iff_of_isMild isMild_ok).trans ?_
  refine (stops_field_iff_of_isMild isMild_ok).trans ?_
  refine (stops_field_iff_of_isMild isMild_ok).trans ?_
  refine (stops_field_iff_of_isMild isMild_ok).trans ?_
  refine (stops_field_iff_of_isMild isMild_ok).trans ?_
  refine (stops_field_iff_of_isMild isMild_ok).trans ?_
  refine (stops_field_iff_of_isMild isMild_ok).trans ?_
  refine (stops_field_iff_of_isMild isMild_ok).trans ?_
  refine (stops_field_iff_of_isMild isMild_sourceRule).trans ?_
  refine (stops_field_iff_of_isMild isMild_ok).trans ?_
  refine (Completes.stops_field_iff ?_).trans (fieldStops_lookback_iff lawful)
  exact (((completes_filled Settings.mk).field databases).field tables).field
    (isMild_exclusionsRule.not_fieldStops _)

/-- A report on issues is a wrong configuration. -/
theorem kind_issuesFault (issues : List Issue) : (issuesFault issues).kind = .configuration :=
  Fault.kind_configuration _ _ _ _ _

theorem kind_of_sectionOf {document : Data} {fault : Fault}
    (failed : sectionOf document = .error fault) : fault.kind = .configuration := by
  unfold sectionOf at failed
  split at failed
  · cases failed
  · split at failed <;> cases failed
    exact Fault.kind_configuration _ _ _ _ _
  · cases failed
    exact Fault.kind_configuration _ _ _ _ _

theorem settle_eq_error_iff {α : Type} {form : Form α} {entries : List (String × Data)}
    {fault : Fault} :
    validation.settle form entries = .error fault ↔ validation.fill form entries = .error fault ∨
      ∃ issues, validation.fill form entries = .ok (.error issues) ∧ fault = issuesFault issues := by
  unfold Validation.settle
  rw [Act.bind_eq_error_iff]
  refine or_congr_right ⟨?_, ?_⟩
  · rintro ⟨found, filled, failed⟩
    cases found with
    | ok meaning => exact nomatch failed
    | error issues =>
      cases failed
      exact ⟨issues, filled, rfl⟩
  · rintro ⟨issues, filled, rfl⟩
    exact ⟨_, filled, rfl⟩

/-- Settings are not read and not reported exactly if their duration escapes. -/
theorem ofDocument_fails_iff (lawful : validation.Lawful) {environment : Environment}
    {document : Data} {fault : Fault}
    (reads : ∀ entries, sectionOf document = .ok entries →
      ReadsPatterns validation (environment.expandEntries entries)) :
    ofDocument validation environment document = .error fault ∧ fault.kind ≠ .configuration ↔
      ∃ entries value, sectionOf document = .ok entries ∧
        OrderedMap.get? "lookback_duration" (environment.expandEntries entries) = some value ∧
        Escapes value fault ∧ fault.kind ≠ .value := by
  unfold ofDocument
  cases found : sectionOf document with
  | error other =>
    refine iff_of_false ?_ fun ⟨_, _, same, _⟩ => nomatch same
    rintro ⟨failed, unreported⟩
    cases failed
    exact unreported (kind_of_sectionOf found)
  | ok entries =>
    change validation.settle form (environment.expandEntries entries) = .error fault ∧ _ ↔ _
    rw [settle_eq_error_iff, lawful.stops, stops_form_iff lawful (reads entries found)]
    constructor
    · rintro ⟨⟨value, given, escapes⟩ | ⟨issues, -, rfl⟩, unreported⟩
      · exact ⟨entries, value, rfl, given, escapes⟩
      · exact absurd (kind_issuesFault issues) unreported
    · rintro ⟨others, value, same, given, escapes, notValue⟩
      cases same
      refine ⟨.inl ⟨value, given, escapes, notValue⟩, ?_⟩
      rcases escapes.kind with kind | kind | kind <;> rw [kind] <;> decide

/-- **What becomes of a wrong duration.** A duration that is read is not negative. It is not read
and not reported as a wrong configuration exactly if it escapes: a number of days or parts that
exceed what a span can be, a float that is no number, or a unit with a long `s`. Settings, whatever
their validation, are not read and not reported exactly if they hold a duration that escapes, but a
float that is no number they report. -/
theorem unreported_iff_escapes {value : Data} (like : DurationLike value)
    (lawful : validation.Lawful) {environment : Environment} {document : Data}
    (reads : ∀ entries, sectionOf document = .ok entries →
      ReadsPatterns validation (environment.expandEntries entries)) (fault : Fault) :
    (∀ span, parse value = .ok (some span) → 0 ≤ span.micros) ∧
      (parse value = .error fault ∧ fault.kind ≠ .configuration ↔ Escapes value fault) ∧
      (ofDocument validation environment document = .error fault ∧ fault.kind ≠ .configuration ↔
        ∃ entries written, sectionOf document = .ok entries ∧
          OrderedMap.get? "lookback_duration" (environment.expandEntries entries) = some written ∧
          Escapes written fault ∧ fault.kind ≠ .value) :=
  ⟨fun _ => parse_nonneg, parse_fails_iff like, ofDocument_fails_iff lawful reads⟩

end Validated

/-- Settings with a duration and nothing else. -/
def lookingBack (value : Data) : Data := .map [("lookback_duration", value)]

/-- More days than a span can have. -/
def tooManyDays : Data := .int 1000000000000

theorem tooManyDays_escapes : Escapes tooManyDays (spanFault .outOfRange) := .days (by decide)

theorem fiveLong_escapes : Escapes (.text "5ſ") (.missingKey "ſ") := by
  have joined : (Text.trimmed "5ſ").toList = [] ++ (Amount.text ⟨['5'], []⟩ ++ (['ſ'] ++ [])) := by
    decide +kernel
  have alike : ['ſ'].map Text.fold = (mark .second).map Text.fold := by decide +kernel
  have lowered : ['ſ'].map Text.lower = ['ſ'] := by decide +kernel
  have key : "ſ" = String.ofList (['ſ'].map Text.lower) := by rw [lowered]
  rw [key]
  have written : Amount.IsWritten ⟨['5'], []⟩ :=
    ⟨List.cons_ne_nil _ _, List.all_eq_true.mp rfl, nofun⟩
  exact .text (.longS joined .nil rfl written alike (by decide))

theorem readsPatterns_lookingBack (environment : Environment) (value : Data) :
    ∀ entries, sectionOf (lookingBack value) = .ok entries →
      ReadsPatterns .usual (environment.expandEntries entries) := by
  rintro entries read name member fault ⟨other, _, given, -⟩
  cases read
  change OrderedMap.get? name [("lookback_duration", environment.expand value)] = some other
    at given
  simp only [List.mem_cons, List.not_mem_nil, or_false] at member
  rcases member with rfl | rfl <;> cases given

/-- Too many days and a unit with a long `s` escape, the former from settings as well. -/
theorem tooManyDays_unreported :
    parse tooManyDays = .error (spanFault .outOfRange) ∧
      parse (.text "5ſ") = .error (.missingKey "ſ") ∧
      ofDocument .usual [] (lookingBack tooManyDays) = .error (spanFault .outOfRange) := by
  have reads (value : Data) := readsPatterns_lookingBack [] value
  obtain ⟨-, days, settings⟩ :=
    unreported_iff_escapes (.int _) Validation.usual_lawful (reads tooManyDays)
      (spanFault .outOfRange)
  obtain ⟨-, long, -⟩ :=
    unreported_iff_escapes (.text _) Validation.usual_lawful (reads .null) (.missingKey "ſ")
  refine ⟨(days.mpr tooManyDays_escapes).1, (long.mpr fiveLong_escapes).1, ?_⟩
  exact (settings.mpr ⟨_, _, rfl, rfl, tooManyDays_escapes, nofun⟩).1

/-- Not every duration that is wrong is reported, be it read alone or with settings. -/
theorem not_every_duration_reported :
    (¬ ∀ value, DurationLike value →
      (∃ window, parse value = .ok window ∧ ∀ span ∈ window, 0 ≤ span.micros) ∨
        ∃ fault, parse value = .error fault ∧ fault.kind = .configuration) ∧
      ¬ ∀ value, DurationLike value →
        (∃ settings, ofDocument .usual [] (lookingBack value) = .ok settings) ∨
          ∃ fault, ofDocument .usual [] (lookingBack value) = .error fault ∧
            fault.kind = .configuration := by
  have parsed : parse tooManyDays = .error (spanFault .outOfRange) :=
    ((parse_fails_iff (.int _)).mpr tooManyDays_escapes).1
  have read : ofDocument .usual [] (lookingBack tooManyDays) = .error (spanFault .outOfRange) :=
    ((ofDocument_fails_iff Validation.usual_lawful (readsPatterns_lookingBack [] tooManyDays)).mpr
      ⟨_, _, rfl, rfl, tooManyDays_escapes, nofun⟩).1
  constructor
  · intro reported
    rcases reported tooManyDays (.int _) with ⟨window, same, -⟩ | ⟨fault, same, kind⟩
    · cases parsed.symm.trans same
    · cases parsed.symm.trans same
      cases kind
  · intro reported
    rcases reported tooManyDays (.int _) with ⟨settings, same⟩ | ⟨fault, same, kind⟩
    · cases read.symm.trans same
    · cases read.symm.trans same
      cases kind

end Settings
end CatalogDelta
