import CatalogDelta.Proofs.UpdateTime.Steps
import CatalogDelta.Site.Services
import CatalogDelta.UpdateTime.Source
import Mathlib.Data.List.Basic

/-!
# Providers in order

Anything that can be asked for update times may stand in a fallback, another fallback too. A fallback
is an ordered choice: it ends as the first of its members that does not say that there is no update
time. Such a choice is associative, so nested fallbacks may be flattened. Main statement:
`fallback_ordered_choice`.
-/

namespace CatalogDelta

open Act

variable {σ ν : Type}

/-- What tells update times: its kind, and how it is asked. -/
structure Provider (σ : Type) where
  kind : String
  lookUp : Entity → Act σ Int

namespace Provider

/-- There is no update time, as opposed to any other fault. -/
def isNotFound : Except Fault Int → Bool
  | .ok _ => false
  | .error fault => fault.kind.isA .updateTimeNotFound

/-- What is said of a provider that found no update time. -/
def passedOver (provider : Provider σ) (entity : Entity) (fault : Fault) : String :=
  provider.kind ++ " provider has no update time for " ++ entity.describe ++ ": " ++ fault.brief

/-- The first answer of several providers; `reasons` tells why earlier ones had none. -/
def firstAnswer (entity : Entity) : List (Provider σ) → List String → Act σ Int
  | [], reasons => throw (UpdateTimeSource.noAnswer entity reasons)
  | provider :: others, reasons => do
    match ← Act.attempt (provider.lookUp entity) with
    | .ok time => return time
    | .error fault =>
      if fault.kind.isA .updateTimeNotFound then
        Act.note Level.debug Author.updateTime (provider.passedOver entity fault)
        firstAnswer entity others (reasons ++ [provider.kind ++ ": " ++ fault.brief])
      else throw fault

/-- The provider that tries others in order. -/
def fallback (members : List (Provider σ)) : Provider σ where
  kind := "_then_".intercalate (members.map kind)
  lookUp entity := firstAnswer entity members []

variable {entity : Entity} {provider second : Provider σ} {providers others : List (Provider σ)}

/-! ## Ordered choice -/

/-- One provider after the other finds no update time, and a note of each is made. -/
inductive Passes (entity : Entity) : List (Provider σ) → Stage σ → Stage σ → Prop
  | nil {stage : Stage σ} : Passes entity [] stage stage
  | cons {provider : Provider σ} {others : List (Provider σ)} {stage between after : Stage σ}
    {fault : Fault} (asked : runOn (provider.lookUp entity) stage = (.error fault, between))
    (notFound : isNotFound (.error fault) = true)
    (passes : Passes entity others
      (runOn (note Level.debug Author.updateTime (provider.passedOver entity fault)) between).2
      after) : Passes entity (provider :: others) stage after

theorem isNotFound_noAnswer (reasons : List String) :
    isNotFound (.error (UpdateTimeSource.noAnswer entity reasons)) = true := by
  rw [isNotFound, UpdateTimeSource.noAnswer, Fault.kind_updateTimeNotFound]
  decide

theorem exists_fault {ended : Except Fault Int × Stage σ} (notFound : isNotFound ended.1 = true) :
    ∃ fault after, ended = (.error fault, after) ∧ isNotFound (.error fault) = true := by
  obtain ⟨outcome, after⟩ := ended
  cases outcome with
  | ok time => cases notFound
  | error fault => exact ⟨fault, after, rfl, notFound⟩

/-- After a provider that finds no update time the next ones are asked. -/
theorem runOn_firstAnswer_of_notFound {reasons : List String} {stage between : Stage σ}
    {fault : Fault} (asked : runOn (provider.lookUp entity) stage = (.error fault, between))
    (notFound : isNotFound (.error fault) = true) :
    runOn (firstAnswer entity (provider :: others) reasons) stage =
      runOn (firstAnswer entity others (reasons ++ [provider.kind ++ ": " ++ fault.brief]))
        (runOn (note Level.debug Author.updateTime (provider.passedOver entity fault)) between).2 := by
  rw [isNotFound] at notFound
  rw [firstAnswer, runOn_bind, runOn_attempt, asked]
  simp only [notFound, ↓reduceIte]
  rw [runOn_bind, runOn_note]

/-- Any other outcome of a provider is the outcome of all of them. -/
theorem runOn_firstAnswer_of_found {reasons : List String} {stage : Stage σ}
    (found : isNotFound (runOn (provider.lookUp entity) stage).1 = false) :
    runOn (firstAnswer entity (provider :: others) reasons) stage =
      runOn (provider.lookUp entity) stage := by
  rw [firstAnswer, runOn_bind, runOn_attempt]
  generalize runOn (provider.lookUp entity) stage = ended at found ⊢
  obtain ⟨outcome, after⟩ := ended
  cases outcome with
  | ok time => rfl
  | error fault =>
    rw [isNotFound] at found
    simp only [found, Bool.false_eq_true, ↓reduceIte, runOn_throw]

/-- Members are asked in order until one does not say that there is no update time. -/
theorem exists_passes (providers : List (Provider σ)) (reasons : List String) (stage : Stage σ) :
    ∃ passed rest between, providers = passed ++ rest ∧ Passes entity passed stage between ∧
      (isNotFound (runOn (firstAnswer entity providers reasons) stage).1 = true ↔ rest = []) ∧
      (rest = [] → (runOn (firstAnswer entity providers reasons) stage).2 = between) ∧
      ∀ provider others, rest = provider :: others →
        runOn (firstAnswer entity providers reasons) stage =
          runOn (provider.lookUp entity) between := by
  induction providers generalizing reasons stage with
  | nil =>
    exact ⟨[], [], stage, rfl, .nil, iff_of_true (isNotFound_noAnswer reasons) rfl, fun _ => rfl,
      nofun⟩
  | cons provider others ih =>
    by_cases notFound : isNotFound (runOn (provider.lookUp entity) stage).1 = true
    · obtain ⟨fault, between, asked, kind⟩ := exists_fault notFound
      obtain ⟨passed, rest, after, rfl, passes, ended⟩ := ih
        (reasons ++ [provider.kind ++ ": " ++ fault.brief])
        (runOn (note Level.debug Author.updateTime (provider.passedOver entity fault)) between).2
      rw [runOn_firstAnswer_of_notFound asked kind]
      exact ⟨provider :: passed, rest, after, rfl, .cons asked kind passes, ended⟩
    · have found := Bool.eq_false_iff.mpr notFound
      rw [runOn_firstAnswer_of_found found]
      refine ⟨[], provider :: others, stage, rfl, .nil, iff_of_false notFound nofun, nofun, ?_⟩
      rintro first rest ⟨rfl, rfl⟩
      rfl

/-! ## Choices -/

/-- What becomes of asking, given the outside: an outcome, unless there is no update time, and the
outside as it is left. -/
abbrev Choice (σ : Type) : Type := σ → Option (Except Fault Int) × σ

/-- The first of two choices, or else the second. -/
def Choice.orElse (first second : Choice σ) : Choice σ := fun outside =>
  match first outside with
  | (some outcome, after) => (some outcome, after)
  | (none, after) => second after

/-- The choice that never comes to an outcome. -/
def Choice.none : Choice σ := fun outside => (Option.none, outside)

namespace Choice

theorem orElse_assoc (first second third : Choice σ) :
    (first.orElse second).orElse third = first.orElse (second.orElse third) := by
  funext outside
  unfold orElse
  rcases first outside with ⟨_ | outcome, after⟩ <;> rfl

end Choice

/-- The outcome, unless there is no update time, and the outside. -/
def ending (result : Except Fault Int × Stage σ) : Option (Except Fault Int) × σ :=
  (if isNotFound result.1 then none else some result.1, result.2.outside)

/-- What becomes of asking a provider where the journal is empty. -/
def choice (entity : Entity) (provider : Provider σ) : Choice σ := fun outside =>
  ending (runOn (provider.lookUp entity) { outside })

def firstChoice (entity : Entity) (providers : List (Provider σ)) : Choice σ :=
  providers.foldr (fun provider later => (provider.choice entity).orElse later) Choice.none

theorem firstChoice_cons (provider : Provider σ) (others : List (Provider σ)) :
    firstChoice entity (provider :: others) =
      (provider.choice entity).orElse (firstChoice entity others) := rfl

theorem firstChoice_append (providers others : List (Provider σ)) :
    firstChoice entity (providers ++ others) =
      (firstChoice entity providers).orElse (firstChoice entity others) := by
  induction providers with
  | nil => rfl
  | cons provider rest ih =>
    rw [List.cons_append, firstChoice_cons, ih, firstChoice_cons, Choice.orElse_assoc]

/-- The provider does not read the journal. -/
def Blind (provider : Provider σ) : Prop := ∀ entity, Act.Blind (provider.lookUp entity)

theorem Blind.ending_eq (blind : provider.Blind) (stage : Stage σ) :
    ending (runOn (provider.lookUp entity) stage) = provider.choice entity stage.outside := by
  obtain ⟨outcomes, outsides⟩ := blind entity stage { outside := stage.outside } rfl
  unfold choice ending
  rw [outcomes, outsides]

theorem blind_firstAnswer (blind : ∀ provider ∈ providers, provider.Blind) (reasons : List String) :
    Act.Blind (firstAnswer entity providers reasons) := by
  induction providers generalizing reasons with
  | nil => exact blind_throw _
  | cons provider others ih =>
    obtain ⟨first, rest⟩ := List.forall_mem_cons.mp blind
    refine (first entity).attempt.bind fun outcome => ?_
    cases outcome with
    | ok time => exact blind_pure time
    | error fault =>
      dsimp only
      split
      · exact (blind_note _ _ _).bind fun _ => ih rest _
      · exact blind_throw fault

theorem ending_firstAnswer (blind : ∀ provider ∈ providers, provider.Blind) (reasons : List String)
    (stage : Stage σ) :
    ending (runOn (firstAnswer entity providers reasons) stage) =
      firstChoice entity providers stage.outside := by
  induction providers generalizing reasons stage with
  | nil =>
    unfold ending
    rw [firstAnswer, runOn_throw, if_pos (isNotFound_noAnswer reasons)]
    rfl
  | cons provider others ih =>
    obtain ⟨first, rest⟩ := List.forall_mem_cons.mp blind
    have own : ending (runOn (provider.lookUp entity) stage) =
        provider.choice entity stage.outside := first.ending_eq stage
    rw [firstChoice_cons, Choice.orElse, ← own]
    by_cases notFound : isNotFound (runOn (provider.lookUp entity) stage).1 = true
    · obtain ⟨fault, between, asked, kind⟩ := exists_fault notFound
      rw [runOn_firstAnswer_of_notFound asked kind, ih rest, asked]
      unfold ending
      rw [if_pos kind]
      rfl
    · have found := Bool.eq_false_iff.mpr notFound
      rw [runOn_firstAnswer_of_found found]
      unfold ending
      rw [found]
      rfl

/-- A fallback is the choice among its members. -/
theorem choice_fallback (blind : ∀ provider ∈ providers, provider.Blind) :
    (fallback providers).choice entity = firstChoice entity providers :=
  funext fun _ => ending_firstAnswer blind [] _

theorem blind_fallback (blind : ∀ provider ∈ providers, provider.Blind) :
    (fallback providers).Blind :=
  fun _ => blind_firstAnswer blind []

/-- Nothing is said of the inner members of a kind. -/
theorem kind_fallback_append {inner : List (Provider σ)} (some : inner ≠ [])
    (before after : List (Provider σ)) :
    (fallback (before ++ fallback inner :: after)).kind =
      (fallback (before ++ inner ++ after)).kind := by
  have nonempty : inner.map kind ≠ [] := List.map_eq_nil_iff.not.mpr some
  have joined : "_then_".intercalate ((fallback inner).kind :: after.map kind) =
      "_then_".intercalate (inner.map kind ++ after.map kind) := by
    rcases eq_or_ne (after.map kind) [] with none | more
    · rw [none, String.intercalate_singleton, List.append_nil]
      rfl
    · rw [String.intercalate_cons_of_ne_nil more, String.intercalate_append_of_ne_nil nonempty more]
      rfl
  change "_then_".intercalate _ = "_then_".intercalate _
  rw [List.append_assoc, List.map_append, List.map_append, List.map_cons, List.map_append]
  rcases eq_or_ne (before.map kind) [] with none | more
  · rw [none, List.nil_append, List.nil_append, joined]
  · rw [String.intercalate_append_of_ne_nil more (List.cons_ne_nil _ _), joined,
      String.intercalate_append_of_ne_nil more (List.append_ne_nil_of_left_ne_nil nonempty _)]

/-! ## Who is asked -/

/-- An outside together with the names of the providers that were asked, in order. -/
structure Heard (ν σ : Type) where
  inner : σ
  asked : List ν := []

/-- The provider of a name, which is written down when the provider is asked. -/
def heard (name : ν) (provider : Provider σ) : Provider (Heard ν σ) where
  kind := provider.kind
  lookUp entity := ExceptT.mk fun stage =>
    let (outcome, after) := runOn (provider.lookUp entity)
      { outside := stage.outside.inner, journal := stage.journal }
    (outcome, { outside := ⟨after.outside, stage.outside.asked ++ [name]⟩, journal := after.journal })

theorem Blind.heard (blind : provider.Blind) (name : ν) : (provider.heard name).Blind := by
  intro entity stage other same
  obtain ⟨outcomes, outsides⟩ := blind entity
    { outside := stage.outside.inner, journal := stage.journal }
    { outside := other.outside.inner, journal := other.journal } (congrArg Heard.inner same)
  refine ⟨outcomes, ?_⟩
  change Heard.mk (runOn (provider.lookUp entity) _).2.outside (stage.outside.asked ++ [name]) =
    Heard.mk (runOn (provider.lookUp entity) _).2.outside (other.outside.asked ++ [name])
  rw [outsides, same]

end Provider

/-! ## Nested fallbacks -/

/-- Providers by name and fallbacks of them, nested to any depth. -/
inductive ProviderTree (ν : Type) where
  | leaf (name : ν)
  | fallback (members : List (ProviderTree ν))

namespace ProviderTree

mutual

/-- The provider that is made of those of some names. -/
def provider (leaves : ν → Provider σ) : ProviderTree ν → Provider σ
  | leaf name => leaves name
  | fallback members => Provider.fallback (providers leaves members)

def providers (leaves : ν → Provider σ) : List (ProviderTree ν) → List (Provider σ)
  | [] => []
  | member :: others => provider leaves member :: providers leaves others

end

/-- A nested fallback is replaced by its members in place. -/
inductive Flattens : ProviderTree ν → ProviderTree ν → Prop
  | here (before inner after : List (ProviderTree ν)) (some : inner ≠ []) :
    Flattens (.fallback (before ++ .fallback inner :: after)) (.fallback (before ++ inner ++ after))
  | inside {before after : List (ProviderTree ν)} {member flat : ProviderTree ν}
    (flattens : Flattens member flat) :
    Flattens (.fallback (before ++ member :: after)) (.fallback (before ++ flat :: after))

variable {leaves : ν → Provider σ} {tree flat : ProviderTree ν}

theorem providers_eq (members : List (ProviderTree ν)) :
    providers leaves members = members.map (provider leaves) := by
  induction members with
  | nil => rfl
  | cons member others ih => rw [providers, ih, List.map_cons]

theorem provider_fallback (members : List (ProviderTree ν)) :
    (fallback members).provider leaves = Provider.fallback (members.map (provider leaves)) := by
  rw [provider, providers_eq]

mutual

theorem blind_provider (blind : ∀ name, (leaves name).Blind) (tree : ProviderTree ν) :
    (tree.provider leaves).Blind := by
  cases tree with
  | leaf name =>
    rw [provider]
    exact blind name
  | fallback members =>
    rw [provider]
    exact Provider.blind_fallback (blind_providers blind members)

theorem blind_providers (blind : ∀ name, (leaves name).Blind) (members : List (ProviderTree ν)) :
    ∀ member ∈ providers leaves members, member.Blind := by
  cases members with
  | nil => nofun
  | cons member others =>
    rw [providers]
    exact List.forall_mem_cons.mpr ⟨blind_provider blind member, blind_providers blind others⟩

end

theorem choice_fallback (blind : ∀ name, (leaves name).Blind) (entity : Entity)
    (members : List (ProviderTree ν)) : ((fallback members).provider leaves).choice entity =
      Provider.firstChoice entity (members.map (provider leaves)) := by
  rw [provider, Provider.choice_fallback (blind_providers blind members), providers_eq]

/-- Flattening does not change the choice. -/
theorem Flattens.choice_eq (flattens : Flattens tree flat) (blind : ∀ name, (leaves name).Blind)
    (entity : Entity) :
    (tree.provider leaves).choice entity = (flat.provider leaves).choice entity := by
  induction flattens with
  | here before inner after some =>
    rw [choice_fallback blind, choice_fallback blind, List.map_append, List.map_cons,
      List.append_assoc, List.map_append, List.map_append, Provider.firstChoice_append,
      Provider.firstChoice_cons, choice_fallback blind, Provider.firstChoice_append,
      Provider.firstChoice_append]
  | inside _ ih =>
    rw [choice_fallback blind, choice_fallback blind, List.map_append, List.map_append,
      List.map_cons, List.map_cons, Provider.firstChoice_append, Provider.firstChoice_append,
      Provider.firstChoice_cons, Provider.firstChoice_cons, ih]

/-- Where the outside is the same, a tree and a flatter one end alike. -/
theorem Flattens.ending_eq (flattens : Flattens tree flat) (blind : ∀ name, (leaves name).Blind)
    (entity : Entity) {stage other : Stage σ} (same : stage.outside = other.outside) :
    Provider.ending (runOn ((tree.provider leaves).lookUp entity) stage) =
      Provider.ending (runOn ((flat.provider leaves).lookUp entity) other) := by
  rw [(blind_provider blind tree).ending_eq, (blind_provider blind flat).ending_eq,
    flattens.choice_eq blind, same]

theorem Flattens.kind_eq (flattens : Flattens tree flat) :
    (tree.provider leaves).kind = (flat.provider leaves).kind := by
  induction flattens with
  | here before inner after some =>
    rw [provider_fallback, provider_fallback, List.map_append, List.map_cons, provider_fallback,
      List.map_append, List.map_append]
    exact Provider.kind_fallback_append (List.map_eq_nil_iff.not.mpr some) _ _
  | inside _ ih =>
    rw [provider_fallback, provider_fallback, List.map_append, List.map_append, List.map_cons,
      List.map_cons]
    change "_then_".intercalate _ = "_then_".intercalate _
    rw [List.map_append, List.map_append, List.map_cons, List.map_cons, ih]

end ProviderTree

/-! ## Sources -/

namespace UpdateTimeSource

/-- The provider that a source is. -/
def provider (access : Storage σ) (source : UpdateTimeSource) : Provider σ where
  kind := source.kind
  lookUp entity := source.lookUp access entity

mutual

/-- The nesting of a source, with the sources that are no fallbacks as leaves. -/
def tree : UpdateTimeSource → ProviderTree UpdateTimeSource
  | creation options => .leaf (creation options)
  | storage number options => .leaf (storage number options)
  | fallback sources => .fallback (trees sources)

def trees : List UpdateTimeSource → List (ProviderTree UpdateTimeSource)
  | [] => []
  | source :: others => tree source :: trees others

end

variable {access : Storage σ}

theorem kinds_eq (sources : List UpdateTimeSource) : kinds sources = sources.map kind := by
  induction sources with
  | nil => rfl
  | cons source others ih => rw [kinds, ih, List.map_cons]

theorem firstAnswer_eq (entity : Entity) (sources : List UpdateTimeSource) (reasons : List String) :
    firstAnswer access entity sources reasons =
      Provider.firstAnswer entity (sources.map (provider access)) reasons := by
  induction sources generalizing reasons with
  | nil => rfl
  | cons source others ih =>
    rw [firstAnswer, List.map_cons, Provider.firstAnswer]
    simp only [ih]
    rfl

/-- **A fallback of sources is the fallback of the providers that they are.** -/
theorem provider_fallback (sources : List UpdateTimeSource) :
    (fallback sources).provider access = Provider.fallback (sources.map (provider access)) := by
  unfold provider Provider.fallback
  rw [kind, kinds_eq, List.map_map]
  congr 1
  funext entity
  rw [lookUp, firstAnswer_eq]
  rfl

mutual

theorem provider_tree (source : UpdateTimeSource) :
    source.tree.provider (provider access) = source.provider access := by
  cases source with
  | creation options => rw [tree, ProviderTree.provider]
  | storage number options => rw [tree, ProviderTree.provider]
  | fallback sources => rw [tree, ProviderTree.provider, providers_trees, provider_fallback]

theorem providers_trees (sources : List UpdateTimeSource) :
    ProviderTree.providers (provider access) (trees sources) = sources.map (provider access) := by
  cases sources with
  | nil => rfl
  | cons source others =>
    rw [trees, ProviderTree.providers, provider_tree source, providers_trees others, List.map_cons]

end

end UpdateTimeSource

/-! ## Access that does not read the journal -/

/-- The steps of the storage of a site do not read the journal. -/
theorem Site.blind_storage : Site.storage.Has fun _ act => Act.Blind act := by
  have asks {α : Type} (protocol : String) (question : DriveTable → Except Fault α) :
      Act.Blind (Site.askDrive protocol question) :=
    (blind_view _).bind fun _ => (closed_blind.settle _).bind fun _ => closed_blind.settle _
  refine ⟨fun protocol options => ?_, fun _ _ => blind_change _, fun _ _ => asks _ _,
    fun _ _ => asks _ _, fun _ _ => asks _ _⟩
  refine (blind_change _).bind fun _ => (blind_view _).bind fun _ => ?_
  exact (closed_blind.settle _).bind fun _ => blind_pure _

namespace UpdateTimeSource

mutual

/-- No source reads the journal, given such an access to storage. -/
theorem blind_provider (blind : access.Has fun _ act => Act.Blind act)
    (source : UpdateTimeSource) : (source.provider access).Blind := by
  cases source with
  | creation options =>
    intro entity
    change Act.Blind ((creation options).lookUp access entity)
    rw [lookUp]
    exact closed_blind.settle _
  | storage number options =>
    intro entity
    change Act.Blind ((storage number options).lookUp access entity)
    rw [lookUp]
    exact blind.lookUp closed_blind number options entity
  | fallback sources =>
    rw [provider_fallback]
    exact Provider.blind_fallback (blind_providers blind sources)

theorem blind_providers (blind : access.Has fun _ act => Act.Blind act)
    (sources : List UpdateTimeSource) : ∀ member ∈ sources.map (provider access), member.Blind := by
  cases sources with
  | nil => nofun
  | cons source others =>
    rw [List.map_cons]
    exact List.forall_mem_cons.mpr ⟨blind_provider blind source, blind_providers blind others⟩

end

end UpdateTimeSource

/-- **A fallback is an ordered choice, and nesting does not matter.** A source is the provider that
its tree makes of its leaves. Whatever the providers, a fallback passes over those that say that there
is no update time, noting each, and ends as the next one does; it says so itself if and only if there
is no next one. Where a nested fallback is replaced by its members, the kind stays, and for leaves
that do not read the journal the time or the other fault stays, and whether there is neither, what is
left outside, and which leaves were asked in which order. -/
theorem Provider.fallback_ordered_choice (access : Storage σ) (leaves : ν → Provider σ)
    (blind : ∀ name, (leaves name).Blind) (entity : Entity) :
    (∀ source : UpdateTimeSource,
      source.tree.provider (UpdateTimeSource.provider access) = source.provider access) ∧
    (∀ (providers : List (Provider σ)) (stage : Stage σ), ∃ passed rest between,
      providers = passed ++ rest ∧ Passes entity passed stage between ∧
      (isNotFound (runOn ((fallback providers).lookUp entity) stage).1 = true ↔ rest = []) ∧
      (rest = [] → (runOn ((fallback providers).lookUp entity) stage).2 = between) ∧
      ∀ provider others, rest = provider :: others →
        runOn ((fallback providers).lookUp entity) stage =
          runOn (provider.lookUp entity) between) ∧
    ∀ tree flat : ProviderTree ν, tree.Flattens flat →
      (tree.provider leaves).kind = (flat.provider leaves).kind ∧
      (∀ stage other : Stage σ, stage.outside = other.outside →
        ending (runOn ((tree.provider leaves).lookUp entity) stage) =
          ending (runOn ((flat.provider leaves).lookUp entity) other)) ∧
      ∀ stage other : Stage (Heard ν σ), stage.outside = other.outside →
        ending (runOn ((tree.provider fun name => (leaves name).heard name).lookUp entity) stage) =
          ending (runOn ((flat.provider fun name => (leaves name).heard name).lookUp entity)
            other) := by
  refine ⟨UpdateTimeSource.provider_tree, fun providers stage => exists_passes providers [] stage,
    fun tree flat flattens => ⟨flattens.kind_eq, fun stage other same => ?_,
      fun stage other same => ?_⟩⟩
  · exact flattens.ending_eq blind entity same
  · exact flattens.ending_eq (fun name => (blind name).heard name) entity same

open UpdateTimeSource in
/-- The last leaf is not asked, although it stands beside the fallback that has an answer. -/
theorem Provider.nested_fallback_asked :
    let leaves (name : UpdateTimeSource) : Provider (Heard UpdateTimeSource Site) :=
      (name.provider Site.storage).heard name
    let nested : ProviderTree UpdateTimeSource :=
      .fallback [.fallback [.leaf (storage 0 []), .leaf (creation [])], .leaf (storage 1 [])]
    (nested.provider leaves).kind = "filesystem_then_metastore_then_filesystem" ∧
    ending (runOn ((nested.provider leaves).lookUp
        (.table { dataset := ⟨"sales", "orders"⟩, createTime := .int 5 })) { outside := ⟨{}, []⟩ }) =
      (some (.ok 5000), ⟨{}, [storage 0 [], creation []]⟩) := by
  obtain ⟨-, -, flattening⟩ := fallback_ordered_choice Site.storage (provider Site.storage)
    (blind_provider Site.blind_storage)
    (.table { dataset := ⟨"sales", "orders"⟩, createTime := .int 5 })
  have flattens : ProviderTree.Flattens
      (.fallback [.fallback [.leaf (storage 0 []), .leaf (creation [])], .leaf (storage 1 [])])
      (.fallback [.leaf (storage 0 []), .leaf (creation []), .leaf (storage 1 [])]) :=
    .here [] [_, _] [_] (List.cons_ne_nil _ _)
  obtain ⟨kinds, -, endings⟩ := flattening _ _ flattens
  exact ⟨kinds.trans (by decide), (endings _ _ rfl).trans (by rfl)⟩

end CatalogDelta
