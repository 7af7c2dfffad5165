import CatalogDelta.Proofs.Act.Gives
import CatalogDelta.Proofs.Decimal.Unsigned
import CatalogDelta.UpdateTime.Storage

/-!
# Stamps

The stamp of an entry is the number of seconds that the first usable value under the time keys
tells. Storage shows some stamps of a location, and its time is the newest of them. The stamps are
read one after the other: the first that comes to no whole number of milliseconds is the fault of the
whole. Main statements: `mapError_newest` and `Shown.mapError_time`.
-/

namespace CatalogDelta

open Act

/-- The seconds that a value tells. -/
def Data.seconds? : Data → Option Float
  | .moment value => some value.epochSeconds
  | .int seconds => some (Float.ofInt seconds)
  | .bool value => some (if value then 1 else 0)
  | .float seconds => some seconds
  | _ => none

namespace Storage

/-- Seconds in milliseconds, cut toward zero, or the kind of fault that they lead to. -/
def millis (seconds : Float) : Except FaultKind Int :=
  match Decimal.Reading.ofFloat (seconds * 1000) with
  | .notANumber => .error .value
  | .infinite _ => .error .overflow
  | .finite negative size => .ok (if negative then -(size.floor : Int) else size.floor)

/-- The first value of an entry under the time keys that tells seconds. -/
def telling? : Data → Option Data
  | .map entries =>
    timeKeys.findSome? fun key => (OrderedMap.get? key entries).filter (·.seconds?.isSome)
  | _ => none

/-- The stamp of an entry: the seconds that it tells. -/
def stamp? (entry : Data) : Option Float := (telling? entry).bind Data.seconds?

/-- What storage shows of a location: what is known of it, and of its children if it is a
directory. -/
structure Shown where
  entries : List (String × Data)
  children : Option (List Data)

namespace Shown

/-- The time of what is shown. -/
def time (shown : Shown) : Except Fault (Option Int) := do
  match ← newest none (shown.children.getD []) with
  | some millis => return some millis
  | none => timeOf shown.entries

/-- The stamps that count, in the order in which they are read: those of the children, or that of
the location if they have none. -/
def stamps (shown : Shown) : List Float :=
  match (shown.children.getD []).filterMap stamp? with
  | [] => (stamp? (.map shown.entries)).toList
  | found => found

end Shown

/-! ## Single values -/

theorem mapError_cut (seconds : Float) :
    (cut (seconds * 1000)).mapError Fault.kind = millis seconds := by
  unfold cut Data.integerOfFloat millis
  cases Decimal.Reading.ofFloat (seconds * 1000) <;> rfl

theorem unpack_thousand :
    (1000 : Float).toModel.unpack = .finite .positive 8796093022208000 (-43) (by decide) := rfl

/-- Nothing makes an infinite float smaller. -/
theorem millis_of_isInf {seconds : Float} (infinite : seconds.isInf = true) :
    millis seconds = .error .overflow := by
  obtain ⟨sign, same⟩ : ∃ sign, seconds.toModel.unpack = .infinity sign := by
    change seconds.toModel.unpack.isInf = true at infinite
    cases number : seconds.toModel.unpack with
    | infinity sign => exact ⟨sign, rfl⟩
    | notANumber | zero | finite => rw [number] at infinite; contradiction
  have product : (seconds * 1000).toModel.unpack = .infinity (sign * .positive) := by
    change (Float.Model.pack (Float.Model.UnpackedFloat.mul Float.Model.Format.binary64
      seconds.toModel.unpack (1000 : Float).toModel.unpack)).unpack = _
    rw [same, unpack_thousand]
    exact Decimal.unpack_pack_infinity _
  rw [millis, Decimal.Reading.ofFloat_eq, product]
  rfl

theorem exists_millis_iff {seconds : Float} :
    (∃ time, millis seconds = .ok time) ↔ Decimal.IsFinite (seconds * 1000) := by
  unfold millis Decimal.IsFinite
  cases Decimal.Reading.ofFloat (seconds * 1000) with
  | notANumber | infinite => exact ⟨nofun, nofun⟩
  | finite negative size => exact ⟨fun _ => ⟨negative, size, rfl⟩, fun _ => ⟨_, rfl⟩⟩

/-- The seconds of a moment that there is come to a whole number of milliseconds. -/
theorem exists_millis_of_moment {moment : Moment} (valid : moment.isValid = true) :
    ∃ time, millis moment.epochSeconds = .ok time := by
  obtain ⟨number, under, sign⟩ := Moment.exists_epochSeconds valid
  have stored := Decimal.under_unpack_pack under (by decide) (by decide)
  have unpacked : Decimal.Under 306 moment.epochSeconds.toModel.unpack := by
    rcases sign with same | same <;> rw [same]
    · exact stored.mono (by decide)
    · exact Decimal.under_unpack_pack stored.neg (by decide) (by decide)
  refine exists_millis_iff.mpr ?_
  change Decimal.IsFinite ⟨Float.Model.pack (Float.Model.UnpackedFloat.mul
    Float.Model.Format.binary64 moment.epochSeconds.toModel.unpack (1000 : Float).toModel.unpack)⟩
  rw [unpack_thousand]
  exact Decimal.isFinite_pack (Decimal.under_mul unpacked (by decide) (by decide)) (by decide)

theorem mapError_millisOf (value : Data) :
    (millisOf value).mapError Fault.kind = value.seconds?.elim (.ok none) (some <$> millis ·) := by
  have cutting (seconds : Float) :
      (do return some (← cut (seconds * 1000)) : Except Fault (Option Int)).mapError Fault.kind =
        some <$> millis seconds := by
    rw [mapError_bind, mapError_cut, map_eq_pure_bind]
    rfl
  cases value with
  | moment value => exact cutting value.epochSeconds
  | float seconds => exact cutting seconds
  | int seconds =>
    rw [millisOf, Data.seconds?, Option.elim_some]
    split
    · rename_i infinite
      rw [millis_of_isInf infinite]
      rfl
    · exact cutting (Float.ofInt seconds)
  | bool value => cases value <;> decide +kernel
  | null | text | list | map | span => rfl

/-! ## Entries -/

theorem findSome?_seconds (find : String → Option Data) (keys : List String) :
    (keys.findSome? fun key => (find key).filter (·.seconds?.isSome)).bind Data.seconds? =
      keys.findSome? fun key => (find key).bind Data.seconds? := by
  induction keys with
  | nil => rfl
  | cons key others ih =>
    rw [List.findSome?_cons, List.findSome?_cons]
    cases find key with
    | none => exact ih
    | some value =>
      cases told : value.seconds? with
      | none => simpa [Option.filter, told] using ih
      | some seconds => simp [Option.filter, told]

theorem mapError_firstTime (entries : List (String × Data)) (keys : List String) :
    (firstTime entries keys).mapError Fault.kind =
      (keys.findSome? fun key => (OrderedMap.get? key entries).bind Data.seconds?).elim (.ok none)
        (some <$> millis ·) := by
  induction keys with
  | nil => rfl
  | cons key others ih =>
    rw [firstTime, List.findSome?_cons]
    cases OrderedMap.get? key entries with
    | none => exact ih
    | some value =>
      dsimp only
      rw [mapError_bind, mapError_millisOf, Option.bind_some]
      cases value.seconds? with
      | none => exact ih
      | some seconds =>
        rw [Option.elim_some]
        cases millis seconds <;> rfl

theorem mapError_timeOf (entries : List (String × Data)) :
    (timeOf entries).mapError Fault.kind =
      (stamp? (.map entries)).elim (.ok none) (some <$> millis ·) := by
  rw [stamp?, telling?, findSome?_seconds]
  exact mapError_firstTime entries timeKeys

theorem max?_later (best : Option Int) (time : Int) (others : List Int) :
    ((later best (some time)).toList ++ others).max? = (best.toList ++ time :: others).max? := by
  cases best with
  | none => rfl
  | some best =>
    have larger : (if best < time then time else best) = max best time := by
      rw [max_def]
      split <;> split <;> omega
    rw [later, larger]
    rfl

/-- The newest time among children is the largest of the times that their stamps tell. -/
theorem mapError_newest (best : Option Int) (children : List Data) :
    (newest best children).mapError Fault.kind =
      (fun times => (best.toList ++ times).max?) <$> (children.filterMap stamp?).mapM millis := by
  induction children generalizing best with
  | nil => cases best <;> rfl
  | cons child others ih =>
    cases child with
    | map entries =>
      rw [newest, mapError_bind, mapError_timeOf, List.filterMap_cons]
      cases stamp? (.map entries) with
      | none => cases best <;> exact ih _
      | some seconds =>
        rw [Option.elim_some, List.mapM_cons]
        cases millis seconds with
        | error kind => rfl
        | ok time =>
          change (newest (later best (some time)) others).mapError Fault.kind = _
          rw [ih]
          cases (others.filterMap stamp?).mapM millis with
          | error kind => rfl
          | ok times => exact congrArg Except.ok (max?_later best time times)
    | null | bool | int | float | text | list | moment | span => exact ih best

/-- **The time of what is shown is the largest that its stamps tell.** -/
theorem Shown.mapError_time (shown : Shown) :
    shown.time.mapError Fault.kind = List.max? <$> shown.stamps.mapM millis := by
  unfold time stamps
  rw [mapError_bind, mapError_newest]
  cases (shown.children.getD []).filterMap stamp? with
  | nil =>
    change (timeOf shown.entries).mapError Fault.kind = _
    rw [mapError_timeOf]
    cases stamp? (.map shown.entries) with
    | none => rfl
    | some seconds =>
      rw [Option.elim_some, Option.toList_some, List.mapM_cons]
      cases millis seconds <;> rfl
  | cons seconds others =>
    rw [List.mapM_cons]
    cases millis seconds with
    | error kind => rfl
    | ok time => cases others.mapM millis <;> rfl

end Storage
end CatalogDelta
