import CatalogDelta.Proofs.Site.Factory

/-!
# Registers of clients

A register tells which clients have been made and how often each has been closed. It is a measure
for what is done with a pool, and nothing of what is done depends on it.
-/

namespace CatalogDelta

open Act

namespace Pool

variable {σ κ : Type}

/-- What is known of the clients of a pool where the outside is as it should be: which have been
made, and how often each has been closed. -/
structure Register (σ κ : Type) where
  valid : σ → Prop
  made : σ → List κ
  closings : σ → κ → Nat

/-- The outside is as it should be, and this is its pool and what is known of the clients. -/
structure Register.Reads (register : Register σ κ) (host : Host σ κ) (pool : Pool κ)
    (made : List κ) (closings : κ → Nat) (outside : σ) : Prop where
  valid : register.valid outside
  pool_eq : host.pool outside = pool
  made_eq : register.made outside = made
  closings_eq : register.closings outside = closings

/-- The register is kept up to date: it does not depend on the pool, every client that is made is a
new one and is written down, and whenever a client is closed, that is counted, whether or not it
fails to close. -/
structure Host.Registers [DecidableEq κ] (host : Host σ κ) (register : Register σ κ) : Prop where
  setPool : ∀ {pool made closings outside} (other : Pool κ),
    register.Reads host pool made closings outside →
      register.Reads host other made closings (host.setPool other outside)
  make : ∀ {pool made closings} {stage : Stage σ},
    register.Reads host pool made closings stage.outside →
      (∃ client, (runOn host.make stage).1 = .ok client ∧ client ∉ made ∧
        register.Reads host pool (made ++ [client]) closings (runOn host.make stage).2.outside) ∨
      ∃ fault, (runOn host.make stage).1 = .error fault ∧
        register.Reads host pool made closings (runOn host.make stage).2.outside
  close : ∀ {pool made closings} {stage : Stage σ} {client : κ}, client ∈ made →
    register.Reads host pool made closings stage.outside →
      register.Reads host pool made (fun other => closings other + if other = client then 1 else 0)
        (runOn (host.client client).close stage).2.outside

end Pool

namespace Factory

/-- How often a client has been closed. -/
def closingsOf (factory : Factory) (client : String) : Nat :=
  (OrderedMap.get? client factory.closings).getD 0

/-- A client that has just been made has not been closed, and a client that is unknown neither. -/
theorem closingsOf_append (factory : Factory) (new : String) :
    closingsOf { factory with closings := factory.closings ++ [(new, 0)] } =
      factory.closingsOf := by
  funext client
  unfold closingsOf
  dsimp only
  induction factory.closings with
  | nil =>
    simp only [List.nil_append, OrderedMap.get?]
    split <;> rfl
  | cons entry others ih =>
    simp only [List.cons_append, OrderedMap.get?]
    split
    · rfl
    · exact ih

theorem closingsOf_countClosing (factory : Factory) (client : String) :
    (factory.countClosing client).closingsOf =
      fun other => factory.closingsOf other + if other = client then 1 else 0 := by
  funext other
  unfold closingsOf countClosing
  simp only [OrderedMap.get?_put]
  by_cases same : client = other
  · subst same
    simp only [↓reduceIte, Option.getD_some]
  · simp only [same, Ne.symm same, ↓reduceIte, Nat.add_zero]

/-- A script that never closes the pool does not do so next. -/
theorem next_ne_closePool {factory : Factory} (quiet : .closePool ∉ factory.script) :
    factory.next.1 ≠ .closePool := by
  intro next
  change (factory.script[factory.asked]? <|> factory.script.getLast?).getD .client = _ at next
  cases scripted : factory.script[factory.asked]? with
  | some making =>
    rw [scripted] at next
    obtain rfl : making = .closePool := next
    exact quiet (List.mem_of_getElem? scripted)
  | none =>
    rw [scripted] at next
    cases last : factory.script.getLast? with
    | some making =>
      rw [last] at next
      obtain rfl : making = .closePool := next
      exact quiet (List.mem_of_getLast? last)
    | none =>
      rw [last] at next
      exact Making.noConfusion next

end Factory

namespace Site

/-- What the factory of a site tells, as long as it is not going to close the pool. -/
def register : Pool.Register Site String where
  valid site := site.factory.Numbered ∧ .closePool ∉ site.factory.script
  made site := site.factory.made
  closings site := site.factory.closingsOf

theorem registers (setup : PoolSetup) : (host setup).Registers register where
  setPool _ reads := ⟨reads.valid, rfl, reads.made_eq, reads.closings_eq⟩
  make {_ _ _ stage} reads := by
    obtain ⟨⟨numbered, quiet⟩, pool_eq, rfl, rfl⟩ := reads
    have numberedNext : stage.outside.factory.next.2.Numbered :=
      ⟨numbered.only_eq, numbered.made_eq⟩
    have make_eq : (host setup).make = askFactory setup := rfl
    rw [make_eq]
    unfold askFactory
    simp only [runOn_bind, runOn_view, runOn_change]
    cases next : stage.outside.factory.next.1 with
    | client =>
      simp only [makeClient, runOn_bind, runOn_view, runOn_change, runOn_pure,
        numberedNext.make_eq]
      exact .inl ⟨_, rfl, numbered.new, ⟨numberedNext.append, quiet⟩, pool_eq,
        Factory.made_append _, Factory.closingsOf_append _ _⟩
    | fault fault => exact .inr ⟨fault, rfl, ⟨numberedNext, quiet⟩, pool_eq, rfl, rfl⟩
    | closePool => exact absurd next (Factory.next_ne_closePool quiet)
  close {_ _ _ stage client} member reads := by
    obtain ⟨⟨numbered, quiet⟩, pool_eq, rfl, rfl⟩ := reads
    have closed := factory_closeClient client stage
    have close_eq : ((host setup).client client).close = closeClient client := rfl
    rw [close_eq, closed]
    exact ⟨⟨numbered.countClosing member, quiet⟩, pool_eq, Factory.made_countClosing member,
      Factory.closingsOf_countClosing _ _⟩

end Site
end CatalogDelta
