import CatalogDelta.Proofs.Act.Gives
import CatalogDelta.Settings.Value

/-!
# The usual validation keeps to what is expected

What is taken keeps to the bounds of what is declared, and a form that is filled means what its fields
mean. A form ends with a fault exactly if a rule does. Main statement: `usual_lawful`.
-/

namespace CatalogDelta

open Act

/-! ## Findings -/

namespace Finding

variable {α β : Type}

theorem combine_eq_ok_iff {make : Finding (α → β)} {part : Finding α} {whole : β} :
    combine make part = .ok whole ↔
      ∃ built meaning, make = .ok built ∧ part = .ok meaning ∧ whole = built meaning := by
  constructor
  · intro combined
    cases make with
    | error issues => cases part <;> exact nomatch combined
    | ok built =>
      cases part with
      | error issues => exact nomatch combined
      | ok meaning =>
        cases combined
        exact ⟨built, meaning, rfl, rfl, rfl⟩
  · rintro ⟨built, meaning, rfl, rfl, rfl⟩
    rfl

theorem under_eq_ok_iff {part : String} {finding : Finding α} {meaning : α} :
    under part finding = .ok meaning ↔ finding = .ok meaning := mapError_eq_ok_iff

theorem map_eq_ok_iff {make : α → β} {finding : Finding α} {whole : β} :
    finding.map make = .ok whole ↔ ∃ meaning, finding = .ok meaning ∧ whole = make meaning := by
  cases finding with
  | error issues => exact ⟨nofun, fun ⟨_, given, _⟩ => nomatch given⟩
  | ok meaning =>
    constructor
    · intro same
      cases same
      exact ⟨meaning, rfl, rfl⟩
    · rintro ⟨_, given, rfl⟩
      cases given
      rfl

end Finding

/-! ## Reading values -/

namespace Settings.Value

theorem least_of_wholeFrom {least whole : Int} {value : Data}
    (taken : wholeFrom least value = .ok whole) : least ≤ whole := by
  obtain ⟨given, -, checked⟩ := exists_of_bind_eq_ok taken
  split at checked
  · exact nomatch checked
  · rename_i enough
    cases checked
    exact Int.not_lt.mp enough

theorem not_negative_of_realFromZero {value : Data} {real : Float}
    (taken : realFromZero value = .ok real) : ¬ real < 0 := by
  obtain ⟨given, -, checked⟩ := exists_of_bind_eq_ok taken
  split at checked
  · exact nomatch checked
  · rename_i above
    cases checked
    exact above

theorem above_of_realAboveZero {value : Data} {real : Float}
    (taken : realAboveZero value = .ok real) : ¬ real ≤ 0 := by
  obtain ⟨given, -, checked⟩ := exists_of_bind_eq_ok taken
  split at checked
  · exact nomatch checked
  · rename_i above
    cases checked
    exact above

theorem textOrNumber_eq_ok_iff {value given : Data} :
    textOrNumber value = .ok given ↔ TakenAs value given := by
  constructor
  · intro taken
    cases value <;> cases taken
    · exact .bool _
    · exact .int _
    · exact .float _
    · exact .text _
  · intro taken
    cases taken <;> rfl

theorem isTextOrNumber_of_takenAs {value given : Data} (taken : TakenAs value given) :
    given.IsTextOrNumber := by
  cases taken <;> trivial

theorem read_optional_eq_ok_iff {α : Type} {declared : Declared α} {value : Data}
    {given : Option α} :
    read (.optional declared) value = .ok given ↔
      match value with
      | .null => given = none
      | value => ∃ present, read declared value = .ok present ∧ given = some present := by
  cases value with
  | null =>
    change (.ok none : Finding (Option α)) = .ok given ↔ given = none
    rw [Except.ok.injEq, eq_comm]
  | _ => exact Finding.map_eq_ok_iff

/-- What is taken keeps to the bounds of what is declared. -/
theorem keeps_of_read {α : Type} {declared : Declared α} {value : Data} {given : α}
    (taken : read declared value = .ok given) : declared.Keeps given := by
  induction declared generalizing value with
  | wholeFrom least => exact least_of_wholeFrom taken
  | realFromZero => exact not_negative_of_realFromZero taken
  | realAboveZero => exact above_of_realAboveZero taken
  | textOrNumber => exact isTextOrNumber_of_takenAs (textOrNumber_eq_ok_iff.mp taken)
  | optional declared ih =>
    have read := read_optional_eq_ok_iff.mp taken
    split at read
    · rw [read]
      exact fun _ member => nomatch member
    · obtain ⟨present, present_read, rfl⟩ := read
      rintro _ ⟨⟩
      exact ih present_read
  | text | texts | flag | options => trivial

end Settings.Value

/-! ## Filling forms -/

namespace Form

variable {α β : Type}

theorem ruled_eq_ok_ok_iff {rule : α → Except Fault β} {given : α} {value : β} :
    ruled rule given = .ok (.ok value) ↔ rule given = .ok value := by
  unfold ruled
  cases rule given with
  | ok other => simp only [Except.ok.injEq]
  | error fault =>
    dsimp only
    split <;> exact ⟨nofun, nofun⟩

theorem ruled_eq_error_iff {rule : α → Except Fault β} {given : α} {fault : Fault} :
    ruled rule given = .error fault ↔ rule given = .error fault ∧ fault.kind.isA .value = false := by
  unfold ruled
  cases rule given with
  | ok other => exact ⟨nofun, fun failed => nomatch failed.1⟩
  | error other =>
    dsimp only
    split
    · rename_i wrong
      refine ⟨nofun, ?_⟩
      rintro ⟨same, right⟩
      cases same
      exact nomatch wrong.symm.trans right
    · rename_i right
      rw [Except.error.injEq, Except.error.injEq]
      refine ⟨?_, And.left⟩
      rintro rfl
      exact ⟨rfl, Bool.eq_false_iff.mpr right⟩

section Field

variable {name : String} {declared : Declared α} {rule : α → Except Fault β} {default : β}
  {entries : List (String × Data)}

theorem fieldMeans_of_fillField {value : β}
    (filled : fillField name declared rule default entries = .ok (.ok value)) :
    FieldMeans Settings.Value.read declared rule default (OrderedMap.get? name entries) value := by
  unfold fillField at filled
  cases there : OrderedMap.get? name entries with
  | none =>
    rw [there] at filled
    cases filled
    rfl
  | some written =>
    rw [there] at filled
    dsimp only at filled
    split at filled
    · exact nomatch filled
    · rename_i given taken
      obtain ⟨finding, ruled, same⟩ := exists_of_bind_eq_ok filled
      have found : Finding.under name finding = .ok value := Except.ok.inj same
      rw [Finding.under_eq_ok_iff] at found
      subst found
      exact ⟨given, taken, ruled_eq_ok_ok_iff.mp ruled⟩

theorem fillField_eq_error_iff {fault : Fault} :
    fillField name declared rule default entries = .error fault ↔
      FieldStops Settings.Value.read declared rule (OrderedMap.get? name entries) fault := by
  unfold fillField FieldStops
  cases OrderedMap.get? name entries with
  | none => exact ⟨nofun, fun ⟨_, _, same, _⟩ => nomatch same⟩
  | some written =>
    dsimp only
    cases taken : Settings.Value.read declared written with
    | error issues =>
      refine ⟨nofun, ?_⟩
      rintro ⟨_, given, same, read, -⟩
      cases same
      exact nomatch taken.symm.trans read
    | ok given =>
      have failed : (ruled rule given).map (Finding.under name) = .error fault ↔
          ruled rule given = .error fault := map_eq_error_iff
      rw [failed, ruled_eq_error_iff]
      constructor
      · exact fun stops => ⟨written, given, rfl, taken, stops⟩
      · rintro ⟨_, _, same, read, stops⟩
        cases same
        cases taken.symm.trans read
        exact stops

end Field

section Inner

variable {name title : String} {inside_fill : List (String × Data) → Except Fault (Finding α)}
  {entries : List (String × Data)}

theorem innerMeans_of_fillInner {means : List (String × Data) → α → Prop} {value : Option α}
    (filled : fillInner name title inside_fill entries = .ok (.ok value))
    (sound : ∀ inside given, inside_fill inside = .ok (.ok given) → means inside given) :
    InnerMeans means (OrderedMap.get? name entries) value := by
  unfold fillInner at filled
  unfold InnerMeans
  split at filled <;> rename_i there
  · cases filled
    rw [there]
  · cases filled
    rw [there]
  · rw [there]
    obtain ⟨found, inside_filled, same⟩ := exists_of_bind_eq_ok filled
    have read : Finding.under name (found.map some) = .ok value := Except.ok.inj same
    rw [Finding.under_eq_ok_iff, Finding.map_eq_ok_iff] at read
    obtain ⟨given, rfl, rfl⟩ := read
    exact ⟨_, given, rfl, sound _ _ inside_filled, rfl⟩
  · cases filled

theorem fillInner_eq_error_iff {fault : Fault} :
    fillInner name title inside_fill entries = .error fault ↔
      ∃ inside, OrderedMap.get? name entries = some (.map inside) ∧
        inside_fill inside = .error fault := by
  unfold fillInner
  split <;> rename_i there
  · simp [there]
  · simp [there]
  · rename_i inside
    have failed : ((inside_fill inside).map fun found => Finding.under name (found.map some)) =
        .error fault ↔ inside_fill inside = .error fault := map_eq_error_iff
    rw [failed, there]
    constructor
    · exact fun failed => ⟨inside, rfl, failed⟩
    · rintro ⟨_, same, failed⟩
      cases same
      exact failed
  · rename_i other
    simp only [there, reduceCtorEq, Option.some.injEq, false_iff, not_exists, not_and]
    exact fun inside same => absurd same (other inside)

end Inner

/-- A form that is filled means what its fields mean. -/
theorem means_of_fill {form : Form α} {entries : List (String × Data)} {meaning : α}
    (filled : fill form entries = .ok (.ok meaning)) :
    form.Means Settings.Value.read entries meaning := by
  induction form generalizing entries with
  | filled given =>
    cases filled
    rfl
  | field others name declared rule default ih =>
    obtain ⟨make, made, filled⟩ := exists_of_bind_eq_ok filled
    obtain ⟨part, read, filled⟩ := exists_of_bind_eq_ok filled
    obtain ⟨built, value, rfl, rfl, rfl⟩ := Finding.combine_eq_ok_iff.mp (Except.ok.inj filled)
    exact ⟨built, value, ih made, fieldMeans_of_fillField read, rfl⟩
  | inner others name title form ih inside_ih =>
    obtain ⟨make, made, filled⟩ := exists_of_bind_eq_ok filled
    obtain ⟨part, read, filled⟩ := exists_of_bind_eq_ok filled
    obtain ⟨built, value, rfl, rfl, rfl⟩ := Finding.combine_eq_ok_iff.mp (Except.ok.inj filled)
    exact ⟨built, value, ih made, innerMeans_of_fillInner read fun _ _ => inside_ih, rfl⟩

/-- After a first part that fails exactly as described, and a second one that does, a form fails as
the first of them that does. -/
theorem seq_eq_error_iff {γ : Type} {make : Except Fault (Finding (β → γ))}
    {part : Except Fault (Finding β)} {first second : Fault → Prop} {fault : Fault}
    (first_iff : ∀ fault, make = .error fault ↔ first fault)
    (second_iff : ∀ fault, part = .error fault ↔ second fault) :
    (do return Finding.combine (← make) (← part)) = .error fault ↔
      first fault ∨ (∀ other, ¬first other) ∧ second fault := by
  rw [bind_eq_error_iff, first_iff]
  refine or_congr_right ?_
  constructor
  · rintro ⟨made, given, failed⟩
    refine ⟨fun other stops => ?_, (second_iff fault).mp (map_eq_error_iff.mp failed)⟩
    exact nomatch given.symm.trans ((first_iff other).mpr stops)
  · rintro ⟨goes, stops⟩
    cases given : make with
    | error other => exact absurd ((first_iff other).mp given) (goes other)
    | ok made => exact ⟨made, rfl, map_eq_error_iff.mpr ((second_iff fault).mpr stops)⟩

/-- A form ends with a fault exactly if a rule does. -/
theorem fill_eq_error_iff {form : Form α} {entries : List (String × Data)} {fault : Fault} :
    fill form entries = .error fault ↔ form.Stops Settings.Value.read entries fault := by
  induction form generalizing entries fault with
  | filled given => exact ⟨nofun, False.elim⟩
  | field others name declared rule default ih =>
    exact seq_eq_error_iff (fun _ => ih) fun _ => fillField_eq_error_iff
  | inner others name title form ih inside_ih =>
    have inside_iff (other : Fault) : fillInner name title form.fill entries = .error other ↔
        ∃ inside, OrderedMap.get? name entries = some (.map inside) ∧
          form.Stops Settings.Value.read inside other := by
      simp only [fillInner_eq_error_iff, inside_ih]
    exact seq_eq_error_iff (fun _ => ih) inside_iff

end Form

/-- **The usual validation is a lawful one.** -/
theorem Validation.usual_lawful : Validation.usual.Lawful where
  keeps := Settings.Value.keeps_of_read
  textOrNumber := Settings.Value.textOrNumber_eq_ok_iff
  optional := Settings.Value.read_optional_eq_ok_iff
  means := Form.means_of_fill
  stops := Form.fill_eq_error_iff

end CatalogDelta
