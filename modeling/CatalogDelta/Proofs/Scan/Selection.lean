import CatalogDelta.Proofs.Pattern.Fits
import CatalogDelta.Proofs.Pool.Watched
import CatalogDelta.Proofs.Scan.Choice
import CatalogDelta.Proofs.Scan.Independence
import CatalogDelta.Proofs.Selector

/-!
# Selection by answers

A selector asks a client for its databases, and then for the tables of each database that it covers,
one after the other, until the connection is lost. What is selected is told by the answers alone
(`select_follows`). Main statement: the selection holds just what the texts of the selector want, and
a failure for each database whose tables cannot be listed.
-/

namespace CatalogDelta

open Act

/-- The questions for the tables of databases, with the answers. -/
abbrev TableAnswers := List (String × Except Fault (List Table))

namespace TableAnswers

def deeds (answers : TableAnswers) : Deeds :=
  answers.map fun (database, answer) => .said (.tables database answer)

/-- The first lost connection. -/
def lost? (answers : TableAnswers) : Option Fault :=
  answers.findSome? fun (_, answer) => View.lostConnection answer

/-- The tables in the answers that a condition allows. -/
def chosen (answers : TableAnswers) (allowed : Table → Bool) : List Table :=
  answers.flatMap fun (_, answer) => (answer.toOption.getD []).filter allowed

/-- One failure for each database whose tables are not listed. -/
def failures (answers : TableAnswers) : List Report :=
  answers.filterMap fun (database, answer) =>
    match answer with
    | .ok _ => none
    | .error cause => some (Selector.databaseFailure database cause)

/-- The tables of the databases are asked for in turn, until the connection is lost. -/
inductive InTurn : TableAnswers → List String → Prop
  | nil : InTurn [] []
  | cons {database : String} {answer : Except Fault (List Table)} {answers : TableAnswers}
      {databases : List String} (kept : View.lostConnection answer = none)
      (rest : InTurn answers databases) :
      InTurn ((database, answer) :: answers) (database :: databases)
  | lost {database : String} {answer : Except Fault (List Table)} {fault : Fault}
      (ends : View.lostConnection answer = some fault) (databases : List String) :
      InTurn [(database, answer)] (database :: databases)

theorem lost?_cons_of_kept {database : String} {answer : Except Fault (List Table)}
    (kept : View.lostConnection answer = none) (answers : TableAnswers) :
    lost? ((database, answer) :: answers) = answers.lost? := by
  rw [lost?, List.findSome?_cons]
  simp only [kept]
  rfl

theorem lost?_cons_of_lost {database : String} {answer : Except Fault (List Table)} {fault : Fault}
    (ends : View.lostConnection answer = some fault) (answers : TableAnswers) :
    lost? ((database, answer) :: answers) = some fault := by
  rw [lost?, List.findSome?_cons]
  simp only [ends]

theorem isA_of_lost? {answers : TableAnswers} {fault : Fault} (lost : answers.lost? = some fault) :
    fault.kind.isA .connectionFailure = true := by
  obtain ⟨_, _, ends⟩ := List.exists_of_findSome?_eq_some lost
  exact View.lostConnection_isA ends

end TableAnswers

variable {σ : Type}

/-- A listing makes one call; it is ended if the connection is lost. -/
theorem listing_follows {α : Type} (act : Act σ α) (exchange : Except Fault α → Exchange) :
    Follows (Selector.listing (act.watched fun answer => [.said (exchange answer)]))
      (Selector.listing act) fun done settled => ∃ answer, done = [.said (exchange answer)] ∧
        settled = verdict (View.lostConnection answer) answer := by
  unfold Selector.listing
  refine (follows_watched act _).attempt_bind ?_
  rintro _ answer rfl
  cases answer with
  | ok value => exact follows_pure _ ⟨_, List.append_nil _, rfl⟩
  | error fault =>
    by_cases lost : fault.kind.isA .connectionFailure = true
    · simp only [lost, ↓reduceIte]
      exact follows_throw _ ⟨_, List.append_nil _, by simp [View.lostConnection, lost]⟩
    · simp only [lost, Bool.false_eq_true, ↓reduceIte]
      exact follows_pure _ ⟨_, List.append_nil _, by simp [View.lostConnection, lost]⟩

section Select

variable {client : Client σ} (selector : Selector)

/-- What comes of the answer to the question for the tables of a database. -/
def Selector.outcome (database : String) :
    Except Fault (List Table) → Except Report (List Table)
  | .ok listed => .ok (listed.filter fun table => selector.coversTable table.dataset)
  | .error cause => .error (databaseFailure database cause)

theorem selectTables_follows (database : String) :
    Follows (selector.selectTables client.watched database) (selector.selectTables client database)
      fun done settled => ∃ answer, done = [.said (.tables database answer)] ∧
        settled = verdict (View.lostConnection answer) (selector.outcome database answer) := by
  unfold Selector.selectTables
  refine (listing_follows (client.listTables database) (.tables database)).bind ?_ ?_
  · rintro _ settled ⟨answer, rfl, same⟩
    obtain ⟨kept, rfl⟩ := verdict_eq_ok_iff.mp same.symm
    have passed (outcome : Except Report (List Table)) :
        (.ok outcome : Except Fault _) = verdict (View.lostConnection answer) outcome := by
      rw [kept, verdict_none]
    cases answer with
    | ok listed =>
      exact (follows_note _ _ _).after_silent fun _ => follows_pure _ ⟨_, rfl, passed _⟩
    | error cause =>
      exact (follows_note _ _ _).after_silent fun _ => follows_pure _ ⟨_, rfl, passed _⟩
  · rintro _ fault ⟨answer, rfl, same⟩
    refine ⟨answer, rfl, ?_⟩
    rw [verdict_eq_error_iff.mp same.symm, verdict_some]

/-- What is selected among databases, by the answers to the questions for their tables. -/
theorem selectAmong_follows (databases : List String) (selection : Selection) :
    Follows (selector.selectAmong client.watched databases selection)
      (selector.selectAmong client databases selection) fun done settled =>
        ∃ answers : TableAnswers, done = answers.deeds ∧ answers.InTurn databases ∧
          settled = verdict answers.lost?
            { tables := selection.tables ++
                answers.chosen fun table => selector.coversTable table.dataset
              failures := selection.failures ++ answers.failures } := by
  induction databases generalizing selection with
  | nil =>
    refine follows_pure selection ⟨[], rfl, .nil, ?_⟩
    simp [TableAnswers.lost?, TableAnswers.chosen, TableAnswers.failures]
  | cons database others ih =>
    refine (selectTables_follows selector database).bind ?_ ?_
    · rintro _ outcome ⟨answer, rfl, same⟩
      obtain ⟨kept, rfl⟩ := verdict_eq_ok_iff.mp same.symm
      refine (ih (selection.add (selector.outcome database answer))).imp ?_
      rintro _ settled ⟨answers, rfl, turn, rfl⟩
      refine ⟨(database, answer) :: answers, rfl, turn.cons kept, ?_⟩
      rw [TableAnswers.lost?_cons_of_kept kept]
      refine congrArg _ ?_
      cases answer <;>
        simp [Selector.outcome, Selection.add, TableAnswers.chosen, TableAnswers.failures,
          Except.toOption]
    · rintro _ fault ⟨answer, rfl, same⟩
      have lost := verdict_eq_error_iff.mp same.symm
      refine ⟨[(database, answer)], rfl, .lost lost others, ?_⟩
      rw [TableAnswers.lost?_cons_of_lost lost, verdict_some]

/-- **A selection is told by the answers.** -/
theorem select_follows :
    Follows (selector.select client.watched) (selector.select client) fun done settled =>
      ∃ (listing : Except Fault (List String)) (answers : TableAnswers),
        done = .said (.databases listing) :: answers.deeds ∧
        answers.InTurn ((listing.toOption.getD []).filter selector.databases.covers) ∧
        settled = match listing with
          | .ok _ => verdict answers.lost?
              { tables := answers.chosen fun table => selector.coversTable table.dataset
                failures := answers.failures }
          | .error cause => .error (View.databasesFault cause) := by
  have listed : Follows (selector.selectDatabases client.watched)
      (selector.selectDatabases client) fun done settled => ∃ listing,
        done = [.said (.databases listing)] ∧ settled = (listing.map
          (·.filter selector.databases.covers)).mapError View.databasesFault := by
    unfold Selector.selectDatabases
    refine (listing_follows client.listDatabases .databases).bind ?_ ?_
    · rintro _ settled ⟨listing, rfl, same⟩
      obtain ⟨kept, rfl⟩ := verdict_eq_ok_iff.mp same.symm
      cases listing with
      | ok databases => exact follows_pure _ ⟨_, rfl, rfl⟩
      | error cause =>
        refine follows_throw _ ⟨.error cause, rfl, ?_⟩
        have connected : ¬ cause.kind.isA .connectionFailure = true := fun lost =>
          absurd ((if_pos lost).symm.trans kept) (Option.some_ne_none cause)
        exact congrArg Except.error (if_neg connected).symm
    · rintro _ fault ⟨listing, rfl, same⟩
      have lost := verdict_eq_error_iff.mp same.symm
      obtain rfl := View.eq_error_of_lostConnection lost
      refine ⟨.error fault, rfl, congrArg Except.error ?_⟩
      exact (if_pos (View.lostConnection_isA lost)).symm
  unfold Selector.select
  refine listed.bind ?_ ?_
  · rintro _ databases ⟨listing, rfl, same⟩
    cases listing with
    | error cause => exact nomatch same
    | ok found =>
      obtain rfl := Except.ok.inj same
      refine (selectAmong_follows selector _ {}).imp ?_
      rintro _ settled ⟨answers, rfl, turn, rfl⟩
      exact ⟨.ok found, answers, rfl, turn, rfl⟩
  · rintro _ fault ⟨listing, rfl, same⟩
    cases listing with
    | ok found => exact nomatch same
    | error cause =>
      refine ⟨.error cause, [], rfl, .nil, ?_⟩
      exact congrArg Except.error (Except.error.inj same)

end Select

namespace Exclusion

/-- A part of an exclusion is blank, or the name fits it. -/
def PartFits (part : List Char) (name : String) : Prop :=
  (∀ c ∈ part, Text.isBlank c = true) ∨ NamePattern.Fits (some (String.ofList part)) name

instance (part : List Char) (name : String) : Decidable (PartFits part name) :=
  inferInstanceAs (Decidable (_ ∨ _))

/-- An exclusion, cut at its first point, excludes a dataset by both its parts. -/
def Excludes (entry : String) (dataset : Dataset) : Prop :=
  ∃ before after, '.' ∉ before ∧ entry.toList = before ++ '.' :: after ∧
    PartFits before dataset.database ∧ PartFits after dataset.table

variable {entry : String} {dataset : Dataset} {before after : List Char}

theorem excludes_iff_of_cut (cut : Text.cutFirst '.' entry.toList = some (before, after)) :
    Excludes entry dataset ↔ PartFits before dataset.database ∧ PartFits after dataset.table := by
  obtain ⟨free, whole⟩ := Text.cutFirst_eq_some_iff.mp cut
  refine ⟨?_, fun fits => ⟨before, after, free, whole, fits⟩⟩
  rintro ⟨_, _, freeAlso, wholeAlso, fits⟩
  rw [Text.cutFirst_eq_some_iff.mpr ⟨freeAlso, wholeAlso⟩] at cut
  cases cut
  exact fits

instance (entry : String) (dataset : Dataset) : Decidable (Excludes entry dataset) :=
  match cut : Text.cutFirst '.' entry.toList with
  | some (_, _) => decidable_of_iff _ (excludes_iff_of_cut cut).symm
  | none => .isFalse fun ⟨_, _, free, whole, _⟩ =>
    nomatch cut.symm.trans (Text.cutFirst_eq_some_iff.mpr ⟨free, whole⟩)

theorem partFits_iff (part : List Char) (name : String) :
    PartFits part name ↔ NamePattern.Fits (some (String.ofList part)) name := by
  refine ⟨fun fits => fits.elim (fun blank => ?_) id, .inr⟩
  exact NamePattern.fits_of_blank (by rwa [String.toList_ofList]) name

/-- An exclusion that is read covers what its text excludes. -/
theorem covers_iff {exclusion : Exclusion} (read : parse entry = .ok exclusion)
    (dataset : Dataset) : exclusion.covers dataset = true ↔ Excludes entry dataset := by
  unfold parse at read
  cases cut : Text.cutFirst '.' entry.toList with
  | none =>
    rw [cut] at read
    exact nomatch read
  | some halves =>
    obtain ⟨before, after⟩ := halves
    simp only [cut] at read
    obtain ⟨database, databaseRead, read⟩ := exists_of_bind_eq_ok read
    obtain ⟨table, tableRead, read⟩ := exists_of_bind_eq_ok read
    obtain rfl := Except.ok.inj read
    rw [covers, Bool.and_eq_true, ← NamePattern.fits_iff_covers databaseRead,
      ← NamePattern.fits_iff_covers tableRead, ← partFits_iff, ← partFits_iff,
      excludes_iff_of_cut cut]

theorem any_covers_iff {exclude : List String} {exclusions : List Exclusion}
    (read : exclude.mapM parse = .ok exclusions) (dataset : Dataset) :
    exclusions.any (·.covers dataset) = true ↔ ∃ entry ∈ exclude, Excludes entry dataset := by
  induction exclude generalizing exclusions with
  | nil =>
    obtain rfl := Except.ok.inj read
    simp
  | cons entry others ih =>
    rw [List.mapM_cons] at read
    obtain ⟨first, firstRead, read⟩ := exists_of_bind_eq_ok read
    obtain ⟨rest, restRead, read⟩ := exists_of_bind_eq_ok read
    obtain rfl := Except.ok.inj read
    rw [List.any_cons, Bool.or_eq_true, covers_iff firstRead, ih restRead, List.exists_mem_cons_iff]

end Exclusion

namespace Selector

variable {databases tables : Option String} {exclude : List String} {selector : Selector}

/-- A dataset is wanted if the name of its table fits the pattern and no exclusion excludes it. -/
def Wants (tables : Option String) (exclude : List String) (dataset : Dataset) : Prop :=
  NamePattern.Fits tables dataset.table ∧ ∀ entry ∈ exclude, ¬ Exclusion.Excludes entry dataset

instance (tables : Option String) (exclude : List String) (dataset : Dataset) :
    Decidable (Wants tables exclude dataset) :=
  inferInstanceAs (Decidable (_ ∧ _))

/-- A selector that is read covers what its texts want. -/
theorem covers_iff (accepted : parse databases tables exclude = .ok selector) :
    (∀ database, selector.databases.covers database = true ↔ NamePattern.Fits databases database) ∧
      ∀ dataset, selector.coversTable dataset = true ↔ Wants tables exclude dataset := by
  obtain ⟨database, databaseRead, accepted⟩ := exists_of_bind_eq_ok accepted
  obtain ⟨table, tableRead, accepted⟩ := exists_of_bind_eq_ok accepted
  obtain ⟨exclusions, exclusionsRead, accepted⟩ := exists_of_bind_eq_ok accepted
  obtain rfl := Except.ok.inj accepted
  refine ⟨fun name => (NamePattern.fits_iff_covers databaseRead name).symm, fun dataset => ?_⟩
  rw [coversTable, Bool.and_eq_true, Bool.not_eq_true', ← Bool.not_eq_true,
    Exclusion.any_covers_iff exclusionsRead, ← NamePattern.fits_iff_covers tableRead]
  simp only [Wants, not_exists, not_and]

/-- What is done for a selection, and what comes of it, by the texts of the selector. The client is
asked for its databases, and then in turn for the tables of each one whose name fits, until the
connection is lost. If it is, this is what fails. If the databases cannot be listed otherwise, this is
what is reported. Or else the selection holds the tables that are listed and wanted, in the order of
the catalog, and a failure for each database whose tables cannot be listed. -/
def SelectsWanted (databases tables : Option String) (exclude : List String) (done : Deeds)
    (settled : Except Fault Selection) : Prop :=
  ∃ (listing : Except Fault (List String)) (answers : TableAnswers),
    done = .said (.databases listing) :: answers.deeds ∧
    answers.InTurn ((listing.toOption.getD []).filter fun database =>
      NamePattern.Fits databases database) ∧
    settled = match listing with
      | .ok _ => verdict answers.lost?
          { tables := answers.chosen fun table => Wants tables exclude table.dataset
            failures := answers.failures }
      | .error cause =>
        if cause.kind.isA .connectionFailure then .error cause
        else .error (.listingFailure "Could not list databases" none none [] (some cause))

end Selector

/-- **A selection is what its texts want**, whatever the client answers. -/
theorem selection_eq_wanted {databases tables : Option String} {exclude : List String}
    {selector : Selector} (accepted : Selector.parse databases tables exclude = .ok selector)
    (client : Client σ) :
    Follows (selector.select client.watched) (selector.select client)
      (Selector.SelectsWanted databases tables exclude) := by
  obtain ⟨databasesFit, tablesWanted⟩ := Selector.covers_iff accepted
  have sameDatabases : selector.databases.covers =
      fun database => decide (NamePattern.Fits databases database) := by
    funext database
    rw [← Bool.decide_coe (selector.databases.covers database)]
    exact decide_eq_decide.mpr (databasesFit database)
  have sameTables : (fun table : Table => selector.coversTable table.dataset) =
      fun table => decide (Selector.Wants tables exclude table.dataset) := by
    funext table
    rw [← Bool.decide_coe (selector.coversTable table.dataset)]
    exact decide_eq_decide.mpr (tablesWanted table.dataset)
  have told : Follows (selector.select client.watched) (selector.select client) _ :=
    select_follows selector
  rw [sameDatabases, sameTables] at told
  refine told.imp ?_
  rintro done settled ⟨listing, answers, same, turn, rfl⟩
  refine ⟨listing, answers, same, turn, ?_⟩
  cases listing with
  | ok found => rfl
  | error cause => exact apply_ite Except.error _ _ _

/-- Of the shop and its annex, the tables are selected that are not staged. The annex fails. -/
theorem selection_in_annexed_shop :
    ∃ selector, Selector.parse (some "sal*|annex") none [".stag*"] = .ok selector ∧
      ((runOn (selector.select (Site.client "shop")) { outside := Site.annexed }).1.toOption.map
        fun selection => (selection.tables.map (·.dataset.table),
          selection.failures.map (·.database))) =
        some (["orders", "customers"], [some "annex"]) ∧
      Follows (selector.select (Site.client "shop").watched) (selector.select (Site.client "shop"))
        (Selector.SelectsWanted (some "sal*|annex") none [".stag*"]) := by
  have chosen : ((Selector.parse (some "sal*|annex") none [".stag*"]).toOption.map fun selector =>
      (runOn (selector.select (Site.client "shop")) { outside := Site.annexed }).1.toOption.map
        fun selection => (selection.tables.map (·.dataset.table),
          selection.failures.map (·.database))) =
      some (some (["orders", "customers"], [some "annex"])) := by
    decide +kernel
  cases accepted : Selector.parse (some "sal*|annex") none [".stag*"] with
  | error fault =>
    rw [accepted] at chosen
    exact nomatch chosen
  | ok selector =>
    rw [accepted] at chosen
    exact ⟨selector, rfl, Option.some.inj chosen, selection_eq_wanted accepted _⟩

end CatalogDelta
