import CatalogDelta.Proofs.Catalog.Source

/-!
# The shape of a snapshot

Reading a snapshot goes through maps and lists and writes down values. A part that has the shape for
that may still not fit, and then a report names the field. Where a part has not the shape, the
reading fails with the step that cannot be taken.
-/

namespace CatalogDelta

open OrderedMap

namespace Data

/-- One can go through the value, or it does not count as present. -/
def IsIterable : Data → Prop
  | .text _ | .list _ | .map _ => True
  | other => other.isTruthy = false

/-- The value is a map, or it does not count as present. -/
def IsMapIfAny (value : Data) : Prop := value.isTruthy = false ∨ value.IsMap

/-- An item that can stand for a key with a value: two characters, a list of two the first of which
can be a key, or a map of two entries. -/
def IsPair : Data → Prop
  | .text content => content.toList.length = 2
  | .list [.list _, _] | .list [.map _, _] => False
  | .list [_, _] => True
  | .map entries => entries.length = 2
  | _ => False

/-- The value is a map, or it yields pairs, or it does not count as present. -/
def HasEntries (value : Data) : Prop :=
  value.IsMap ∨ value.IsIterable ∧ ∀ item ∈ value.elements, item.IsPair

end Data

namespace Snapshot

/-- The fields that a report on a snapshot may name. -/
def reportedFields : List String := ["databases", "create_time", "name", "values"]

/-- The kinds of fault with which a step fails that cannot be taken. -/
def shapeKinds : List FaultKind := [.member, .wrongType, .value, .overflow]

/-- The fault is a report on a field of the snapshot. -/
def IsReport (fault : Fault) : Prop :=
  ∃ message value, ∃ field ∈ reportedFields, fault = .configuration message (some field) value

theorem IsReport.kind {fault : Fault} (report : IsReport fault) : fault.kind = .configuration := by
  obtain ⟨message, value, field, -, rfl⟩ := report
  exact Fault.kind_configuration message (some field) value none []

/-- A reading that gives an answer has met the shape, and what it has read fits. One that fails
reports on what does not fit, or else the shape is not met and the failure is of a kind that tells
so. -/
inductive Meets {α : Type} (shape fit : Prop) : Except Fault α → Prop
  | met {answer : α} (has : shape) (fits : fit) : Meets shape fit (.ok answer)
  | reported {fault : Fault} (report : IsReport fault) (unfit : ¬ fit) :
    Meets shape fit (.error fault)
  | missed {fault : Fault} (lacks : ¬ shape) (kind : fault.kind ∈ shapeKinds) :
    Meets shape fit (.error fault)

section Rules

variable {α β : Type} {shape fit part piece : Prop}

theorem Meets.imp {result : Except Fault α} (meets : Meets part piece result)
    (same : part ↔ shape) (alike : piece ↔ fit) : Meets shape fit result := by
  rwa [← propext same, ← propext alike]

/-- A step that needs a part of the shape and a piece of the fit, after which the reading goes on
with both. -/
theorem Meets.next {first : Except Fault α} {next : α → Except Fault β}
    (meets : Meets part piece first) (needed : shape → part) (fitting : fit → piece)
    (rest : ∀ value, first = .ok value → part → piece → Meets shape fit (next value)) :
    Meets shape fit (first >>= next) := by
  cases meets with
  | met has fits => exact rest _ rfl has fits
  | reported report unfit => exact .reported report fun fits => unfit (fitting fits)
  | missed lacks kind => exact .missed (fun has => lacks (needed has)) kind

/-- A step that reports nothing. -/
theorem Meets.step {first : Except Fault α} {next : α → Except Fault β}
    (meets : Meets part True first) (needed : shape → part)
    (rest : ∀ value, first = .ok value → part → Meets shape fit (next value)) :
    Meets shape fit (first >>= next) :=
  meets.next needed (fun _ => trivial) fun value given has _ => rest value given has

theorem meets_report (shape : Prop) (unfit : ¬ fit) (message : String) (value : Data)
    {field : String} (known : field ∈ reportedFields) :
    Meets shape fit (.error (.configuration message (some field) value) : Except Fault α) :=
  .reported ⟨message, value, field, known, rfl⟩ unfit

theorem meets_noMember (lacks : ¬ shape) (value : Data) (name : String) :
    Meets shape fit (.error (.noMember value name) : Except Fault α) :=
  .missed lacks (by decide : FaultKind.member ∈ shapeKinds)

theorem meets_wrongType (lacks : ¬ shape) (message : String) :
    Meets shape fit (.error (.wrongType message) : Except Fault α) :=
  .missed lacks (by decide : FaultKind.wrongType ∈ shapeKinds)

theorem meets_invalidValue (lacks : ¬ shape) (message : String) :
    Meets shape fit (.error (.invalidValue message) : Except Fault α) :=
  .missed lacks (by decide : FaultKind.value ∈ shapeKinds)

theorem meets_outOfRange (lacks : ¬ shape) (message : String) :
    Meets shape fit (.error (.outOfRange message) : Except Fault α) :=
  .missed lacks (by decide : FaultKind.overflow ∈ shapeKinds)

end Rules

/-! ## Parts -/

variable {value : Data}

theorem entry_meets (value : Data) (key : String) : Meets value.IsMap True (value.entry key) := by
  cases value with
  | map entries => exact .met ⟨entries, rfl⟩ trivial
  | _ => exact meets_noMember (fun ⟨_, same⟩ => nomatch same) _ _

theorem entries_meets (value : Data) : Meets value.IsMap True value.entries := by
  cases value with
  | map entries => exact .met ⟨entries, rfl⟩ trivial
  | _ => exact meets_noMember (fun ⟨_, same⟩ => nomatch same) _ _

theorem isMap_orEmpty (value : Data) : value.orEmpty.IsMap ↔ value.IsMapIfAny := by
  unfold Data.orEmpty Data.IsMapIfAny
  by_cases present : value.isTruthy
  · simp only [present, ↓reduceIte, Bool.true_eq_false, false_or]
  · simp only [present, Bool.false_eq_true, ↓reduceIte, true_or, iff_true]
    exact ⟨[], rfl⟩

theorem itemsIfAny_meets (value : Data) : Meets value.IsIterable True value.itemsIfAny := by
  unfold Data.itemsIfAny
  by_cases present : value.isTruthy
  · rw [if_pos present]
    cases value with
    | text _ | list _ | map _ => exact .met trivial trivial
    | _ =>
      refine meets_wrongType (fun absent => ?_) _
      exact Bool.false_ne_true (Eq.trans (Eq.symm absent) present)
  · rw [if_neg present]
    cases value with
    | text _ | list _ | map _ => exact .met trivial trivial
    | _ => exact .met (Bool.eq_false_iff.mpr present) trivial

theorem pairAt_meets (index : Nat) (item : Data) :
    Meets item.IsPair True (Data.pairAt index item) := by
  unfold Data.pairAt
  split
  case h_1 content =>
    split
    · rename_i chars
      rw [Data.IsPair, chars]
      exact .met rfl trivial
    · rename_i chars other
      refine meets_invalidValue (fun two => ?_) _
      obtain ⟨key, value, same⟩ := List.length_eq_two.mp two
      exact other key value same
  case h_2 key value =>
    split
    · exact meets_wrongType id _
    · exact meets_wrongType id _
    · rename_i scalar notList notMap
      cases key with
      | list items => exact absurd rfl (notList items)
      | map entries => exact absurd rfl (notMap entries)
      | _ => exact .met trivial trivial
  case h_3 items other =>
    refine meets_invalidValue (fun pair => ?_) _
    rcases items with _ | ⟨key, _ | ⟨value, _ | ⟨_, _⟩⟩⟩
    · exact pair
    · cases key <;> exact pair
    · exact other key value rfl
    · cases key <;> exact pair
  case h_4 => exact .met rfl trivial
  case h_5 entries other =>
    refine meets_invalidValue (fun two => ?_) _
    obtain ⟨first, second, same⟩ := List.length_eq_two.mp two
    exact other first.1 first.2 second.1 second.2 same
  case h_6 notText notPair notList notMap notEntries =>
    refine meets_wrongType (fun pair => ?_) _
    cases item with
    | text content => exact notText content rfl
    | list items => exact notList items rfl
    | map entries => exact notEntries entries rfl
    | _ => exact pair

theorem pairsFrom_meets (index : Nat) (items : List Data) :
    Meets (∀ item ∈ items, item.IsPair) True (Data.pairsFrom index items) := by
  induction items generalizing index with
  | nil => exact .met (fun _ member => absurd member List.not_mem_nil) trivial
  | cons item others ih =>
    rw [List.forall_mem_cons]
    apply (pairAt_meets index item).step And.left
    intro pair _ isPair
    apply (ih (index + 1)).step And.right
    intro pairs _ arePairs
    exact .met ⟨isPair, arePairs⟩ trivial

theorem isIterable_of_absent (absent : value.isTruthy = false) : value.IsIterable := by
  cases value with
  | text _ | list _ | map _ => exact trivial
  | _ => exact absent

theorem elements_of_absent (absent : value.isTruthy = false) : value.elements = [] := by
  unfold Data.elements Data.itemsIfAny
  rw [absent]
  rfl

/-- What is done with each item that a value yields needs the value to yield such items. -/
theorem eachItem_meets {α : Type} {done : List Data → Except Fault α} {Fit : Data → Prop}
    (each : ∀ items, Meets (∀ item ∈ items, Fit item) True (done items)) (value : Data) :
    Meets (value.IsIterable ∧ ∀ item ∈ value.elements, Fit item) True
      (value.itemsIfAny >>= done) := by
  apply (itemsIfAny_meets value).step And.left
  intro items given iterable
  rw [Data.elements_of_itemsIfAny given]
  exact (each items).imp (and_iff_right iterable).symm Iff.rfl

theorem asEntries_meets (value : Data) : Meets value.HasEntries True value.orEmpty.asEntries := by
  by_cases present : value.isTruthy
  · have whole : value.orEmpty = value := if_pos present
    have items : value.itemsIfAny = value.items := if_pos present
    rw [whole]
    by_cases isMap : value.IsMap
    · obtain ⟨entries, rfl⟩ := isMap
      exact .met (.inl ⟨entries, rfl⟩) trivial
    · have entries_eq : value.asEntries = value.itemsIfAny >>= fun items =>
          Data.pairsFrom 0 items >>= fun pairs => pure (OrderedMap.ofList pairs) := by
        rw [items]
        cases value with
        | map entries => exact absurd ⟨entries, rfl⟩ isMap
        | _ => rfl
      rw [entries_eq]
      refine (eachItem_meets (fun items => ?_) value).imp (or_iff_right isMap).symm Iff.rfl
      exact (pairsFrom_meets 0 items).step id fun pairs _ arePairs => .met arePairs trivial
  · have absent := Bool.eq_false_iff.mpr present
    have empty : value.orEmpty = .map [] := if_neg present
    rw [empty]
    refine .met (.inr ⟨isIterable_of_absent absent, fun item member => ?_⟩) trivial
    rw [elements_of_absent absent] at member
    exact absurd member List.not_mem_nil

theorem written_meets (value : Data) : Meets (value.isWritable = true) True value.written := by
  unfold Data.written
  split
  · exact .met ‹_› trivial
  · exact meets_invalidValue ‹_› _

theorem mapM_written_meets (items : List Data) :
    Meets (∀ item ∈ items, item.isWritable = true) True (items.mapM Data.written) := by
  induction items with
  | nil => exact .met (fun _ member => absurd member List.not_mem_nil) trivial
  | cons item others ih =>
    rw [List.mapM_cons, List.forall_mem_cons]
    apply (written_meets item).step And.left
    intro text _ writable
    apply ih.step And.right
    intro texts _ others
    exact .met ⟨writable, others⟩ trivial

end Snapshot
end CatalogDelta
