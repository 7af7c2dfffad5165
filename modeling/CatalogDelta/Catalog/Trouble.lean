import CatalogDelta.Catalog.Client

/-!
# Clients in trouble

A plan says which calls of a client fail, with what fault and how often. A client in trouble keeps a
list of the calls made to it and fails by the plan before it answers.
-/

namespace CatalogDelta

/-- A fault that strikes a call, for ever or for so many more times. -/
structure Trouble where
  fault : Fault
  left : Option Nat := none

abbrev TroublePlan := OrderedMap CatalogCall Trouble

namespace TroublePlan

/-- The fault that strikes a call, if one does, and the plan after the call. -/
def strike (plan : TroublePlan) (call : CatalogCall) : Option Fault × TroublePlan :=
  match OrderedMap.get? call plan with
  | none => (none, plan)
  | some ⟨fault, none⟩ => (some fault, plan)
  | some ⟨_, some 0⟩ => (none, plan)
  | some ⟨fault, some (left + 1)⟩ =>
    (some fault, OrderedMap.put call ⟨fault, some left⟩ plan)

end TroublePlan

/-- Where the outside keeps the plan and the calls. -/
structure TroubleBook (σ : Type) where
  plan : σ → TroublePlan
  setPlan : TroublePlan → σ → σ
  addCall : CatalogCall → σ → σ

namespace TroubleBook

variable {σ α : Type}

/-- Make a call: it is listed, then struck or answered. -/
def call (book : TroubleBook σ) (made : CatalogCall) (answer : Act σ α) : Act σ α := do
  Act.change (book.addCall made)
  let (fault, plan) := (← Act.view book.plan).strike made
  Act.change (book.setPlan plan)
  match fault with
  | some fault => throw fault
  | none => answer

def client (book : TroubleBook σ) (kind : String) (inner : Client σ) : Client σ where
  kind
  listDatabases := book.call .databases inner.listDatabases
  listTables database := book.call (.tables database) (inner.listTables database)
  listPartitions table := book.call (.partitions table.dataset) (inner.listPartitions table)
  close := inner.close

end TroubleBook
end CatalogDelta
