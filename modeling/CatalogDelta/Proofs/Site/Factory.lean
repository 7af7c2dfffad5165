import CatalogDelta.Proofs.OrderedMap
import CatalogDelta.Proofs.Pool.Close
import CatalogDelta.Site.Services

/-!
# The clients of a site

The factory of a site numbers the clients it makes, so that a client that is made is always a new
one. Closing clients changes nothing but how often they have been closed.
-/

namespace CatalogDelta

open Act

namespace Factory

/-- The client that is made after so many others. -/
def name (count : Nat) : String := "c" ++ toString count

/-- The clients that the factory has made, in order. -/
def made (factory : Factory) : List String := OrderedMap.keys factory.closings

/-- The factory has numbered the clients that it has made, and goes on to do so. -/
structure Numbered (factory : Factory) : Prop where
  only_eq : factory.only = none
  made_eq : factory.made = (List.range factory.made.length).map name

theorem name_injective : Function.Injective name := by
  intro first second same
  have written : toString first = toString second := (String.append_right_inj "c").mp same
  rw [Nat.toString_eq_ofList_toDigits, Nat.toString_eq_ofList_toDigits] at written
  rw [← Nat.ofDigitChars_ten_toDigits (n := first), String.ofList_injective written,
    Nat.ofDigitChars_ten_toDigits]

variable {factory : Factory}

theorem Numbered.new (numbered : factory.Numbered) : name factory.made.length ∉ factory.made := by
  intro member
  rw [numbered.made_eq] at member
  obtain ⟨number, below, same⟩ := List.mem_map.mp member
  rw [name_injective same, List.length_map, List.length_range] at below
  exact List.not_mem_range_self below

theorem Numbered.make_eq (numbered : factory.Numbered) :
    factory.make = (name factory.made.length,
      { factory with closings := factory.closings ++ [(name factory.made.length, 0)] }) := by
  rw [make, numbered.only_eq]
  simp only [name, made, OrderedMap.keys, List.length_map]

theorem made_append (client : String) :
    made { factory with closings := factory.closings ++ [(client, 0)] } =
      factory.made ++ [client] := by
  simp only [made, OrderedMap.keys, List.map_append, List.map_cons, List.map_nil]

theorem Numbered.append (numbered : factory.Numbered) :
    Numbered { factory with
      closings := factory.closings ++ [(name factory.made.length, 0)] } where
  only_eq := numbered.only_eq
  made_eq := by
    rw [made_append, List.length_append, List.length_singleton, List.range_succ, List.map_append,
      ← numbered.made_eq]
    rfl

theorem made_countClosing {client : String} (member : client ∈ factory.made) :
    (factory.countClosing client).made = factory.made := by
  unfold made at member ⊢
  rw [countClosing, OrderedMap.keys_put, if_pos member]

theorem Numbered.countClosing (numbered : factory.Numbered) {client : String}
    (member : client ∈ factory.made) : (factory.countClosing client).Numbered where
  only_eq := numbered.only_eq
  made_eq := by
    rw [made_countClosing member]
    exact numbered.made_eq

end Factory

namespace Site

/-- The pool of the site, and the clients that its factory has made and numbered. -/
structure Has (pool : Pool String) (made : List String) (site : Site) : Prop where
  pool_eq : site.pool = pool
  made_eq : site.factory.made = made
  numbered : site.factory.Numbered

variable {pool : Pool String} {made : List String}

/-- Closing a client is counted, whether it fails or not. -/
theorem factory_closeClient (client : String) (stage : Stage Site) :
    (runOn (closeClient client) stage).2.outside =
      { stage.outside with factory := stage.outside.factory.countClosing client } := by
  unfold closeClient
  rw [runOn_bind, runOn_change]
  dsimp only
  rw [runOn_bind, runOn_view]
  dsimp only
  split <;> rfl

theorem closeClient_keeps (setup : PoolSetup) (make : Act Site String) {client : String}
    (member : client ∈ made) :
    Returns (Has pool made) ((hostWith setup make).closeClient client) := by
  refine Pool.Host.closeClient_ends fun stage has => ?_
  have known : client ∈ stage.outside.factory.made := has.made_eq ▸ member
  have closed := factory_closeClient client stage
  refine closed ▸ ⟨has.pool_eq, ?_, has.numbered.countClosing known⟩
  exact (Factory.made_countClosing known).trans has.made_eq

theorem close_shuts (setup : PoolSetup) (make : Act Site String) (subset : pool.created ⊆ made) :
    Ends (Has pool made) (hostWith setup make).close fun _ => Has pool.shut.2 made :=
  Pool.Host.close_ends (fun _ has => has.pool_eq)
    (fun _ has => ⟨rfl, has.made_eq, has.numbered⟩)
    fun _ member => closeClient_keeps setup make (subset member)

theorem makeClient_ends :
    Ends (Has pool made) makeClient fun client site =>
      client ∉ made ∧ site.Has pool (made ++ [client]) := by
  intro stage ⟨pool_eq, made_eq, numbered⟩
  simp only [makeClient, runOn_bind, runOn_view, runOn_change, runOn_pure, numbered.make_eq]
  refine ⟨_, rfl, ?_, pool_eq, ?_, numbered.append⟩
  · rw [← made_eq]
    exact numbered.new
  · rw [Factory.made_append, made_eq]

/-- What the factory does next when it is asked for a client. -/
def nextMaking (site : Site) : Making := site.factory.next.1

/-- The factory makes a new client, perhaps after it has closed the pool, unless it is scripted to
fail. -/
theorem askFactory_run (setup : PoolSetup) (subset : pool.created ⊆ made) {stage : Stage Site}
    (has : stage.outside.Has pool made) :
    (∃ fault, stage.outside.nextMaking = .fault fault ∧
      (runOn (askFactory setup) stage).1 = .error fault ∧
      (runOn (askFactory setup) stage).2.outside.Has pool made) ∨
    (∀ fault, stage.outside.nextMaking ≠ .fault fault) ∧
      ∃ client, (runOn (askFactory setup) stage).1 = .ok client ∧ client ∉ made ∧
        ((runOn (askFactory setup) stage).2.outside.Has pool (made ++ [client]) ∨
          (runOn (askFactory setup) stage).2.outside.Has pool.shut.2 (made ++ [client])) := by
  unfold askFactory
  rw [runOn_bind, runOn_view]
  dsimp only
  rw [runOn_bind, runOn_change]
  obtain ⟨asked, same⟩ : ∃ asked : Stage Site, asked =
    { stage with outside := { stage.outside with factory := stage.outside.factory.next.2 } } :=
    ⟨_, rfl⟩
  have still : asked.outside.Has pool made := by
    rw [same]
    exact ⟨has.pool_eq, has.made_eq, has.numbered.only_eq, has.numbered.made_eq⟩
  dsimp only
  rw [← same]
  unfold nextMaking
  cases stage.outside.factory.next.1 with
  | fault fault => exact .inl ⟨fault, rfl, rfl, still⟩
  | client =>
    obtain ⟨client, given, new, entered⟩ := makeClient_ends asked still
    dsimp only
    exact .inr ⟨fun _ => Making.noConfusion, client, given, new, .inl entered⟩
  | closePool =>
    obtain ⟨client, given, new, entered⟩ :=
      (close_shuts setup makeClient subset).bind (fun _ => makeClient_ends) asked still
    dsimp only
    exact .inr ⟨fun _ => Making.noConfusion, client, given, new, .inr entered⟩

end Site
end CatalogDelta
