import CatalogDelta.Proofs.Scan.View

/-!
# The choice of tables

On services that show a view, the tables of a scan are those that the view shows and the selector
covers. A lost connection ends the choice; every other failure is recorded and passed over.
-/

namespace CatalogDelta

/-- A lost connection is no failure of a listing. -/
theorem FaultKind.not_listing_of_connectionFailure {kind : FaultKind}
    (lost : kind.isA .connectionFailure = true) : kind.isA .listing = false := by
  cases kind with
  | connectionFailure => rfl
  | other name => simp [isA, lineage, lineage.go, parent] at lost
  | _ => exact absurd lost (by decide)

namespace View

open Act

variable {σ : Type} {held ready : σ → Prop} {view : View}

theorem listing_gives {α : Type} {act : Act σ α} {answer : Except Fault α}
    (given : Gives held act answer) :
    Gives held (Selector.listing act) (verdict (lostConnection answer) answer) := by
  unfold Selector.listing
  refine given.attempt.bind ?_
  cases answer with
  | ok value => exact gives_pure _
  | error cause =>
    by_cases lost : cause.kind.isA .connectionFailure = true
    · simp only [lostConnection, lost, ↓reduceIte, verdict_some]
      exact gives_throw cause
    · simp only [lostConnection, lost, Bool.false_eq_true, ↓reduceIte, verdict_none]
      exact gives_pure _

/-- What comes of the tables of one database. -/
def databaseOutcome (view : View) (selector : Selector) (database : String) :
    Except Report (List Table) :=
  match view.tables database with
  | .ok _ => .ok (view.chosenIn selector database)
  | .error cause => .error (Selector.databaseFailure database cause)

theorem selectTables_gives {client : Client σ} (shows : client.Shows held view)
    (selector : Selector) (database : String) :
    Gives held (selector.selectTables client database)
      (verdict (lostConnection (view.tables database))
        (view.databaseOutcome selector database)) := by
  unfold Selector.selectTables
  refine (listing_gives (shows.tables database)).bind_ok ?_
  unfold databaseOutcome chosenIn shownTables
  cases view.tables database with
  | ok tables => exact Gives.bind (gives_note _ _ _) (gives_pure _)
  | error cause => exact Gives.bind (gives_note _ _ _) (gives_pure _)

theorem add_databaseOutcome (selection : Selection) (selector : Selector) (database : String) :
    selection.add (view.databaseOutcome selector database) =
      { tables := selection.tables ++ view.chosenIn selector database
        failures := selection.failures ++ (view.databaseReport? database).toList } := by
  unfold databaseOutcome databaseReport?
  cases listed : view.tables database with
  | ok tables => simp [Selection.add]
  | error cause => simp [Selection.add, chosenIn, shownTables, listed, Except.toOption]

theorem selectAmong_gives {client : Client σ} (shows : client.Shows held view)
    (selector : Selector) (databases : List String) (selection : Selection) :
    Gives held (selector.selectAmong client databases selection)
      (verdict (databases.findSome? fun database => lostConnection (view.tables database))
        { tables := selection.tables ++ databases.flatMap (view.chosenIn selector)
          failures := selection.failures ++ databases.filterMap view.databaseReport? }) := by
  induction databases generalizing selection with
  | nil => simpa [Selector.selectAmong] using gives_pure selection
  | cons database others ih =>
    have whole :
        verdict ((database :: others).findSome? fun database =>
              lostConnection (view.tables database))
            ({ tables := selection.tables ++ (database :: others).flatMap (view.chosenIn selector)
               failures := selection.failures ++
                 (database :: others).filterMap view.databaseReport? } : Selection) =
          verdict ((lostConnection (view.tables database)).or
              (others.findSome? fun database => lostConnection (view.tables database)))
            { tables := (selection.add (view.databaseOutcome selector database)).tables ++
                others.flatMap (view.chosenIn selector)
              failures := (selection.add (view.databaseOutcome selector database)).failures ++
                others.filterMap view.databaseReport? } := by
      rw [add_databaseOutcome, List.findSome?_cons, List.flatMap_cons, List.filterMap_cons]
      cases lostConnection (view.tables database) with
      | some fault => rfl
      | none => cases view.databaseReport? database <;> simp
    rw [whole]
    exact (selectTables_gives shows selector database).bind_verdict (ih _)

def choice (view : View) (selector : Selector) : Except ScanFailure Selection :=
  match view.databases with
  | .ok databases =>
    .ok { tables := view.chosen selector
          failures :=
            (databases.filter selector.databases.covers).filterMap view.databaseReport? }
  | .error cause => .error (catalogFailure cause)

theorem lostConnection_isA {α : Type} {answer : Except Fault α} {fault : Fault}
    (lost : lostConnection answer = some fault) : fault.kind.isA .connectionFailure = true := by
  cases answer with
  | ok value => simp [lostConnection] at lost
  | error cause =>
    by_cases connection : cause.kind.isA .connectionFailure = true
    · simp only [lostConnection, connection, ↓reduceIte, Option.some.injEq] at lost
      rwa [← lost]
    · simp [lostConnection, connection] at lost

theorem choiceFault?_isA {selector : Selector} {fault : Fault}
    (stopped : view.choiceFault? selector = some fault) :
    fault.kind.isA .connectionFailure = true := by
  unfold choiceFault? at stopped
  split at stopped
  · obtain ⟨database, _, lost⟩ := List.exists_of_findSome?_eq_some stopped
    exact lostConnection_isA lost
  · exact lostConnection_isA stopped

/-- The fault of a catalog whose databases cannot be listed. -/
def databasesFault (cause : Fault) : Fault :=
  if cause.kind.isA .connectionFailure then cause
  else .listingFailure "Could not list databases" none none [] (some cause)

def selected (view : View) (selector : Selector) : Except Fault Selection :=
  match view.databases with
  | .ok databases =>
    verdict (view.choiceFault? selector)
      { tables := view.chosen selector
        failures :=
          (databases.filter selector.databases.covers).filterMap view.databaseReport? }
  | .error cause => .error (databasesFault cause)

theorem selectDatabases_gives {client : Client σ} (shows : client.Shows held view)
    (selector : Selector) :
    Gives held (selector.selectDatabases client)
      (match view.databases with
      | .ok databases => .ok (databases.filter selector.databases.covers)
      | .error cause => .error (databasesFault cause)) := by
  have listed := listing_gives shows.databases
  unfold Selector.selectDatabases databasesFault
  cases databases : view.databases with
  | ok found =>
    rw [databases] at listed
    exact Gives.bind listed (gives_pure _)
  | error cause =>
    rw [databases] at listed
    by_cases lost : cause.kind.isA .connectionFailure = true
    · simp only [lostConnection, lost, ↓reduceIte, verdict_some] at listed ⊢
      exact listed.bind_error
    · simp only [lostConnection, lost, Bool.false_eq_true, ↓reduceIte, verdict_none] at listed ⊢
      exact Gives.bind listed (gives_throw _)

theorem select_gives {client : Client σ} (shows : client.Shows held view) (selector : Selector) :
    Gives held (selector.select client) (view.selected selector) := by
  have listed := selectDatabases_gives shows selector
  unfold Selector.select selected choiceFault? chosen shownDatabases
  cases databases : view.databases with
  | ok found =>
    rw [databases] at listed
    refine Gives.bind listed ?_
    simpa [Except.toOption] using selectAmong_gives shows selector
      (found.filter selector.databases.covers) {}
  | error cause =>
    rw [databases] at listed
    exact listed.bind_error

/-- A scan chooses what its view shows and its selector covers. -/
theorem choose_gives {services : ScanServices σ} (shows : services.Shows ready view)
    (selector : Selector) :
    Gives ready (Scan.choose services selector)
      (verdict (view.choiceFault? selector) (view.choice selector)) := by
  have leased : Gives ready (services.lease selector.select) (view.selected selector) :=
    shows.lease _ _ fun _ _ client => select_gives client selector
  unfold Scan.choose
  refine leased.attempt.bind ?_
  unfold selected choice databasesFault
  cases databases : view.databases with
  | ok found =>
    cases stopped : view.choiceFault? selector with
    | none => exact gives_pure _
    | some fault =>
      have kept := FaultKind.not_listing_of_connectionFailure (choiceFault?_isA stopped)
      simp only [verdict_some, kept, Bool.false_eq_true, ↓reduceIte]
      exact gives_throw fault
  | error cause =>
    by_cases lost : cause.kind.isA .connectionFailure = true
    · have kept := FaultKind.not_listing_of_connectionFailure lost
      simp only [choiceFault?, databases, lostConnection, lost, kept, Bool.false_eq_true,
        ↓reduceIte, verdict_some]
      exact gives_throw cause
    · simp only [choiceFault?, databases, lostConnection, lost, Bool.false_eq_true, ↓reduceIte,
        verdict_none]
      exact Gives.bind (gives_note _ _ _) (gives_pure _)

end View
end CatalogDelta
