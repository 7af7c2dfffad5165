import CatalogDelta.Proofs.Pool.Watched

/-!
# What is done in a scan

The deeds of a scan tell which calls of a client it makes, what it gets to know, and which deed ends
it. `Deeds.Leased` says that calls are made under a lease and nothing else is, and that no two
leases are open at a time. `Conduct` relates the deeds of a part of a scan to the calls that are due;
the conduct of parts one after the other is put together from theirs.
-/

namespace CatalogDelta

namespace Exchange

/-- The call of a client that an exchange is, if it is one. -/
def call? : Exchange → Option Question
  | databases _ => some .databases
  | tables database _ => some (.tables database)
  | partitions table _ => some (.partitions table)
  | making _ | updateTime _ _ => none

/-- The fault with which an exchange ends a scan: a connection is lost, or an update time is not
given for another reason than that it is not found. -/
def stop? : Exchange → Option Fault
  | updateTime _ (.error fault) => if fault.kind.isA .updateTimeNotFound then none else some fault
  | exchange => exchange.loss?

def listedDatabases : Exchange → List String
  | databases (.ok listed) => listed
  | _ => []

def listedTables : Exchange → List Table
  | tables _ (.ok listed) => listed
  | _ => []

def listedPartitions : Exchange → List Partition
  | partitions _ (.ok listed) => listed
  | _ => []

def listedEntities (exchange : Exchange) : List Entity :=
  exchange.listedTables.map .table ++ exchange.listedPartitions.map .partition

end Exchange

namespace Deed

def exchange? : Deed → Option Exchange
  | said exchange => some exchange
  | refused _ | opened | closed => none

/-- The fault with which a deed ends a scan, if it does. -/
def stop? : Deed → Option Fault
  | refused fault => some fault
  | said exchange => exchange.stop?
  | opened | closed => none

/-- Whether a lease is open after a deed, given whether one is open before it. A lease is asked for
only while none is open; a client is called only while one is, and nothing else is said then. -/
def lease? : Bool → Deed → Option Bool
  | false, refused _ => some false
  | false, opened => some true
  | true, closed => some false
  | leased, said exchange => if exchange.call?.isSome = leased then some leased else none
  | true, refused _ | true, opened | false, closed => none

end Deed

namespace Deeds

/-- What has been exchanged. -/
def talk (deeds : Deeds) : List Exchange := deeds.filterMap Deed.exchange?

/-- The calls of clients, in the order in which they have been made. -/
def calls (deeds : Deeds) : List Question := (talk deeds).filterMap Exchange.call?

/-- The databases that have been listed. -/
def databases (deeds : Deeds) : List String := (talk deeds).flatMap Exchange.listedDatabases

def tables (deeds : Deeds) : List Table := (talk deeds).flatMap Exchange.listedTables

/-- The tables and partitions that have been listed. -/
def entities (deeds : Deeds) : List Entity := (talk deeds).flatMap Exchange.listedEntities

/-- Deeds that begin and end under a lease, or without one. -/
def Leased (leased : Bool) (deeds : Deeds) : Prop := deeds.foldlM Deed.lease? leased = some leased

/-- No deed ends a scan. -/
def Quiet (deeds : Deeds) : Prop := ∀ deed ∈ deeds, deed.stop? = none

/-- A deed ends the scan with the fault, no deed before it does, and nothing comes after it but the
closing of a lease. -/
def Stops (deeds : Deeds) (fault : Fault) : Prop :=
  ∃ before last after, deeds = before ++ last :: after ∧ Quiet before ∧
    last.stop? = some fault ∧ ∀ deed ∈ after, deed = .closed

variable {leased : Bool} {deeds more inside : Deeds} {fault : Fault}

theorem talk_append (deeds more : Deeds) : talk (deeds ++ more) = talk deeds ++ talk more :=
  List.filterMap_append

theorem calls_append (deeds more : Deeds) : calls (deeds ++ more) = calls deeds ++ calls more := by
  rw [calls, talk_append, List.filterMap_append, calls, calls]

theorem databases_append (deeds more : Deeds) :
    databases (deeds ++ more) = databases deeds ++ databases more := by
  rw [databases, talk_append, List.flatMap_append, databases, databases]

theorem tables_append (deeds more : Deeds) :
    tables (deeds ++ more) = tables deeds ++ tables more := by
  rw [tables, talk_append, List.flatMap_append, tables, tables]

theorem entities_append (deeds more : Deeds) :
    entities (deeds ++ more) = entities deeds ++ entities more := by
  rw [entities, talk_append, List.flatMap_append, entities, entities]

/-- To open and to close a lease says nothing. -/
theorem talk_under_lease (inside : Deeds) : talk (.opened :: inside ++ [.closed]) = talk inside := by
  rw [talk_append, talk, talk, talk, List.filterMap_cons]
  exact List.append_nil _

theorem databases_under_lease (inside : Deeds) :
    databases (.opened :: inside ++ [.closed]) = databases inside := by
  rw [databases, talk_under_lease, databases]

theorem tables_under_lease (inside : Deeds) :
    tables (.opened :: inside ++ [.closed]) = tables inside := by
  rw [tables, talk_under_lease, tables]

theorem entities_under_lease (inside : Deeds) :
    entities (.opened :: inside ++ [.closed]) = entities inside := by
  rw [entities, talk_under_lease, entities]

theorem Leased.append (first : Leased leased deeds) (second : Leased leased more) :
    Leased leased (deeds ++ more) := by
  rw [Leased, List.foldlM_append, first]
  exact second

theorem Leased.under_lease (during : Leased true inside) :
    Leased false (.opened :: inside ++ [.closed]) := by
  have opened : Leased false (.opened :: inside ++ [.closed]) =
      (List.foldlM Deed.lease? true (inside ++ [.closed]) = some false) := rfl
  rw [opened, List.foldlM_append, during]
  rfl

theorem Quiet.append (first : Quiet deeds) (second : Quiet more) : Quiet (deeds ++ more) := by
  intro deed member
  exact (List.mem_append.mp member).elim (first deed) (second deed)

theorem Quiet.append_stops (quiet : Quiet deeds) (stops : Stops more fault) :
    Stops (deeds ++ more) fault := by
  obtain ⟨before, last, after, rfl, still, ends, closing⟩ := stops
  exact ⟨deeds ++ before, last, after, (List.append_assoc ..).symm, quiet.append still, ends,
    closing⟩

theorem Quiet.under_lease (quiet : Quiet inside) : Quiet (.opened :: inside ++ [.closed]) := by
  intro deed member
  rcases List.mem_append.mp member with before | final
  · rcases List.mem_cons.mp before with rfl | during
    · rfl
    · exact quiet deed during
  · rw [List.mem_singleton.mp final]
    rfl

theorem Stops.under_lease (stops : Stops inside fault) :
    Stops (.opened :: inside ++ [.closed]) fault := by
  obtain ⟨before, last, after, rfl, quiet, ends, closing⟩ := stops
  refine ⟨.opened :: before, last, after ++ [.closed], ?_, ?_, ends, ?_⟩
  · simp only [List.cons_append, List.append_assoc]
  · exact fun deed member => (List.mem_cons.mp member).elim (fun same => same ▸ rfl) (quiet deed)
  · exact fun deed member => (List.mem_append.mp member).elim (closing deed) List.mem_singleton.mp

end Deeds

open Deeds

/-- How a part of a scan conducts itself that begins and ends under a lease, or without one. Some
entities are known to it, some calls are due, and a fault may end it.

Its calls are the first of those that are due, and all of them unless the part is ended. It asks for
update times only of entities that it has got to know and does not pass over. What ends it is a deed,
or else a place where it cannot be told whether it is passed over. -/
structure Conduct (rules : ScanRules) (leased : Bool) (known : List Entity) (due : List Question)
    (deeds : Deeds) (ending : Option Fault) : Prop where
  leases : Leased leased deeds
  calls : calls deeds <+: due
  looks : ∀ entity answer, .updateTime entity answer ∈ talk deeds →
    entity ∈ known ++ entities deeds ∧ rules.passesOver entity.location = false
  goesOn : ending = none → Deeds.calls deeds = due ∧ Quiet deeds
  ends : ∀ fault, ending = some fault → Stops deeds fault ∨
    Quiet deeds ∧ ∃ entity ∈ known ++ entities deeds, rules.ignores entity.location = .error fault

namespace Conduct

variable {rules : ScanRules} {leased : Bool} {known more : List Entity}
  {due further : List Question} {deeds others inside : Deeds} {ending : Option Fault}

theorem nil (rules : ScanRules) (leased : Bool) (known : List Entity) :
    Conduct rules leased known [] [] none where
  leases := rfl
  calls := List.nil_prefix
  looks _ _ said := absurd said List.not_mem_nil
  goesOn _ := ⟨rfl, fun _ member => absurd member List.not_mem_nil⟩
  ends _ ended := nomatch ended

/-- What is due later is not called once a part is ended. -/
theorem stopped {fault : Fault} (first : Conduct rules leased known due deeds (some fault))
    (further : List Question) : Conduct rules leased known (due ++ further) deeds (some fault) where
  leases := first.leases
  calls := first.calls.trans (List.prefix_append _ _)
  looks := first.looks
  goesOn ended := nomatch ended
  ends := first.ends

/-- Two parts one after the other; the second one knows what the first one has got to know. -/
theorem append (first : Conduct rules leased known due deeds none)
    (second : Conduct rules leased more further others ending)
    (listed : more ⊆ known ++ entities deeds) :
    Conduct rules leased known (due ++ further) (deeds ++ others) ending := by
  have told : more ++ entities others ⊆ known ++ entities (deeds ++ others) := by
    rw [entities_append, ← List.append_assoc]
    exact List.append_subset.mpr ⟨List.Subset.trans listed (List.subset_append_left ..),
      List.subset_append_right ..⟩
  have before : known ++ entities deeds ⊆ known ++ entities (deeds ++ others) := by
    rw [entities_append, ← List.append_assoc]
    exact List.subset_append_left ..
  obtain ⟨whole, quiet⟩ := first.goesOn rfl
  refine ⟨first.leases.append second.leases, ?_, ?_, ?_, ?_⟩
  · rw [calls_append, whole]
    exact List.prefix_append_right_inj due |>.mpr second.calls
  · intro entity answer said
    rw [talk_append] at said
    rcases List.mem_append.mp said with early | late
    · obtain ⟨member, seen⟩ := first.looks entity answer early
      exact ⟨before member, seen⟩
    · obtain ⟨member, seen⟩ := second.looks entity answer late
      exact ⟨told member, seen⟩
  · intro ended
    obtain ⟨rest, still⟩ := second.goesOn ended
    refine ⟨?_, quiet.append still⟩
    rw [calls_append, whole, rest]
  · intro fault ended
    rcases second.ends fault ended with stops | ⟨still, entity, member, unclear⟩
    · exact .inl (quiet.append_stops stops)
    · exact .inr ⟨quiet.append still, entity, told member, unclear⟩

/-- Under a lease, a part is conducted as it is by itself. -/
theorem under_lease (during : Conduct rules true known due inside ending) :
    Conduct rules false known due (.opened :: inside ++ [.closed]) ending where
  leases := during.leases.under_lease
  calls := by
    rw [Deeds.calls, talk_under_lease]
    exact during.calls
  looks := by
    rw [entities_under_lease, talk_under_lease]
    exact during.looks
  goesOn ended := by
    rw [Deeds.calls, talk_under_lease]
    exact ⟨(during.goesOn ended).1, (during.goesOn ended).2.under_lease⟩
  ends fault ended := by
    rw [entities_under_lease]
    exact (during.ends fault ended).imp Stops.under_lease (.imp_left Quiet.under_lease)

/-- A part for which no client is got. -/
theorem refused (rules : ScanRules) (known : List Entity) (due : List Question) (fault : Fault) :
    Conduct rules false known due [.refused fault] (some fault) where
  leases := rfl
  calls := List.nil_prefix
  looks _ _ said := absurd said List.not_mem_nil
  goesOn ended := nomatch ended
  ends _ ended := .inl ⟨[], _, [], rfl, fun _ member => absurd member List.not_mem_nil, ended,
    fun _ member => absurd member List.not_mem_nil⟩

/-- What is said once ends a part, or it does not. -/
theorem goes_or_stops (exchange : Exchange) :
    (exchange.stop? = none → Quiet [.said exchange]) ∧
      ∀ fault, exchange.stop? = some fault → Stops [.said exchange] fault := by
  constructor
  · intro quiet deed member
    rw [List.mem_singleton.mp member]
    exact quiet
  · intro fault stops
    exact ⟨[], _, [], rfl, fun _ member => absurd member List.not_mem_nil, stops,
      fun _ member => absurd member List.not_mem_nil⟩

/-- One call, under a lease. -/
theorem call (exchange : Exchange) {question : Question}
    (made : exchange.call? = some question) (stops : exchange.stop? = ending)
    (rules : ScanRules) (known : List Entity) :
    Conduct rules true known [question] [.said exchange] ending where
  leases := by simp [Leased, Deed.lease?, made]
  calls := by simp [Deeds.calls, talk, Deed.exchange?, made]
  looks entity answer said := by
    rw [talk, List.filterMap_cons] at said
    obtain rfl := List.mem_singleton.mp said
    exact nomatch made
  goesOn quiet := by
    refine ⟨?_, (goes_or_stops exchange).1 (stops.trans quiet)⟩
    simp [Deeds.calls, talk, Deed.exchange?, made]
  ends fault ended := .inl ((goes_or_stops exchange).2 fault (stops.trans ended))

/-- One question for the update time of an entity that is known and not passed over. -/
theorem look {entity : Entity} {answer : Except Fault Int} (member : entity ∈ known)
    (seen : rules.passesOver entity.location = false)
    (stops : (Exchange.updateTime entity answer).stop? = ending) :
    Conduct rules false known [] [.said (.updateTime entity answer)] ending where
  leases := rfl
  calls := List.nil_prefix
  looks other given said := by
    rw [talk, List.filterMap_cons] at said
    cases List.mem_singleton.mp said
    exact ⟨List.mem_append_left _ member, seen⟩
  goesOn quiet := ⟨rfl, (goes_or_stops _).1 (stops.trans quiet)⟩
  ends fault ended := .inl ((goes_or_stops _).2 fault (stops.trans ended))

/-- It cannot be told whether a known entity is passed over. -/
theorem unclear {entity : Entity} {fault : Fault} (member : entity ∈ known)
    (unclear : rules.ignores entity.location = .error fault) (leased : Bool)
    (due : List Question) : Conduct rules leased known due [] (some fault) where
  leases := rfl
  calls := List.nil_prefix
  looks _ _ said := absurd said List.not_mem_nil
  goesOn ended := nomatch ended
  ends other ended := by
    obtain rfl := Option.some.inj ended
    exact .inr ⟨fun _ member => absurd member List.not_mem_nil, entity,
      List.mem_append_left _ member, unclear⟩

end Conduct
end CatalogDelta
