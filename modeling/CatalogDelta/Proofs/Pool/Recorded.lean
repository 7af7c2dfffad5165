import CatalogDelta.Proofs.Pool.Record

/-!
# Putting a host on record

Any outside can be given a record, and the acts on it can be made to write their exchanges down. A
host whose clients answer by a view is then on record.
-/

namespace CatalogDelta

open Act

/-- An outside with a record of what has been exchanged. -/
structure Recorded (σ : Type) where
  inner : σ
  heard : List Exchange := []

/-- Do an act on what is inside, and put the exchanges that its answer stands for on record. -/
def Act.onRecord {σ α : Type} (act : Act σ α) (exchanges : Except Fault α → List Exchange) :
    Act (Recorded σ) α :=
  ExceptT.mk fun stage =>
    let (answer, after) := runOn act { outside := stage.outside.inner, journal := stage.journal }
    (answer, { outside := ⟨after.outside, stage.outside.heard ++ exchanges answer⟩
               journal := after.journal })

theorem Act.runOn_onRecord {σ α : Type} (act : Act σ α)
    (exchanges : Except Fault α → List Exchange) (stage : Stage (Recorded σ)) :
    runOn (act.onRecord exchanges) stage =
      ((runOn act ⟨stage.outside.inner, stage.journal⟩).1,
        { outside := ⟨(runOn act ⟨stage.outside.inner, stage.journal⟩).2.outside,
            stage.outside.heard ++ exchanges (runOn act ⟨stage.outside.inner, stage.journal⟩).1⟩
          journal := (runOn act ⟨stage.outside.inner, stage.journal⟩).2.journal }) := rfl

def Client.onRecord {σ : Type} (client : Client σ) : Client (Recorded σ) where
  kind := client.kind
  listDatabases := client.listDatabases.onRecord fun answer => [.databases answer]
  listTables database := (client.listTables database).onRecord fun answer =>
    [.tables database answer]
  listPartitions table := (client.listPartitions table).onRecord fun answer =>
    [.partitions table answer]
  close := client.close.onRecord fun _ => []

def Pool.Host.onRecord {σ κ : Type} (host : Pool.Host σ κ) : Pool.Host (Recorded σ) κ where
  pool outside := host.pool outside.inner
  setPool pool outside := { outside with inner := host.setPool pool outside.inner }
  make := host.make.onRecord fun answer => [.making (answer.map fun _ => ())]
  client key := (host.client key).onRecord
  patience := host.patience

/-- The services that lease from a host, all of it on record. -/
def Pool.Host.servicesOnRecord {σ κ : Type} [DecidableEq κ] (host : Pool.Host σ κ)
    (services : ScanServices σ) : ScanServices (Recorded σ) where
  lease work := host.onRecord.lease work
  updateTime entity := (services.updateTime entity).onRecord fun answer =>
    [.updateTime entity answer]
  clock := services.clock.onRecord fun _ => []

/-- What a view lists is stored where things can be stored. -/
structure View.Sound (view : View) : Prop where
  tables : ∀ database, (Exchange.tables database (view.tables database)).Sound
  partitions : ∀ table, (Exchange.partitions table (view.partitions table)).Sound
  updateTime : ∀ entity, (Exchange.updateTime entity (view.updateTime entity)).Sound

section Speaks

variable {σ α π : Type} {base : σ → Prop} {kept : σ → π}

/-- An act that has one answer speaks of it on record. -/
theorem Act.onRecord_speaks {act : Act σ α} {answer : Except Fault α}
    {exchange : Except Fault α → Exchange}
    (given : ∀ same, Gives (fun outside => base outside ∧ kept outside = same) act answer)
    (sound : (exchange answer).Sound) :
    Speaks Recorded.heard (fun outside => base outside.inner) (fun outside => kept outside.inner)
      (act.onRecord fun answer => [exchange answer]) exchange := by
  intro stage met
  obtain ⟨ended, still, same⟩ := given _ ⟨stage.outside.inner, stage.journal⟩ ⟨met, rfl⟩
  rw [runOn_onRecord, ended]
  exact ⟨rfl, still, same, sound⟩

end Speaks

namespace Pool.Host

variable {σ κ : Type} {host : Host σ κ} {base : σ → Prop} {view : View}

theorem Serves.onRecord (serves : host.Serves base view) (sound : view.Sound) :
    host.onRecord.Records Recorded.heard fun outside => base outside.inner where
  pool_setPool pool outside := serves.pool_setPool pool outside.inner
  base_setPool pool outside met := serves.base_setPool pool outside.inner met
  heard_setPool _ _ := rfl
  make := by
    intro stage met
    obtain ⟨_, _, still, same⟩ :=
      serves.make _ ⟨stage.outside.inner, stage.journal⟩ ⟨met, rfl⟩
    exact ⟨rfl, still, same, trivial⟩
  client key := {
    databases := Act.onRecord_speaks (fun pool => (serves.client key pool).databases) trivial
    tables := fun database =>
      Act.onRecord_speaks (fun pool => (serves.client key pool).tables database)
        (sound.tables database)
    partitions := fun table =>
      Act.onRecord_speaks (fun pool => (serves.client key pool).partitions table)
        (sound.partitions table) }

end Pool.Host
end CatalogDelta
