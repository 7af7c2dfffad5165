import CatalogDelta.Command.Run
import CatalogDelta.Proofs.Site.Kept
import CatalogDelta.Proofs.Watermark.Loaded

/-!
# The file of the watermarks while a command runs

Up to the storing of watermarks, whatever a scan reads, writes or fails with leaves their file as it
was, as long as the work and the journal go elsewhere; and storing them puts their text in place or
leaves the file as it was. Main statements: `look_yields`, `save_leads`.
-/

namespace CatalogDelta

open Act

section Reading

variable {σ : Type} {ready : σ → Prop} {access : FileAccess σ}

theorem FileAccess.isThere_keeps (path : Path) : Keeps ready (access.isThere path) :=
  (keeps_view _).bind fun _ => keeps_pure _

theorem FileAccess.readText_keeps (path : Path) : Keeps ready (access.readText path) :=
  (keeps_view _).bind fun _ => keeps_settle _

theorem FileAccess.readDocument_keeps (reader : DocumentReader) (subject : String) (path : Path) :
    Keeps ready (access.readDocument reader subject path) := by
  refine (readText_keeps path).bind fun text => ?_
  split
  · exact keeps_pure _
  · exact keeps_throw _
  · exact keeps_throw _

theorem Ledger.load_keeps (path : Path) : Keeps ready (load access path) := by
  refine (FileAccess.isThere_keeps path).bind fun there => ?_
  cases there with
  | false => exact (keeps_note _ _ _).bind fun _ => keeps_pure _
  | true =>
    have reading : Keeps ready (do Act.settle (ofText (← access.readText path))) :=
      (FileAccess.readText_keeps path).bind fun _ => keeps_settle _
    refine reading.attempt_bind fun outcome => ?_
    cases outcome with
    | ok understood => exact (keeps_note _ _ _).bind fun _ => keeps_pure _
    | error fault =>
      dsimp only
      split
      · exact (keeps_note _ _ _).bind fun _ => keeps_pure _
      · exact keeps_throw fault

theorem Settings.load_keeps (libraries : Libraries) (environment : Environment) (path : Path) :
    Keeps ready (load libraries access environment path) := by
  refine (FileAccess.isThere_keeps path).bind fun there => ?_
  cases there with
  | false => exact yields_throw_bind _ _
  | true =>
    refine (keeps_view _).bind fun files => (keeps_settle _).bind fun environment => ?_
    refine (FileAccess.readDocument_keeps _ "" path).bind fun document => ?_
    exact (keeps_settle _).bind fun _ => (keeps_note _ _ _).bind fun _ => keeps_pure _

theorem Snapshot.loadFile_keeps (reader : DocumentReader) (path : Path) :
    Keeps ready (loadFile reader access path) := by
  refine (FileAccess.isThere_keeps path).bind fun there => ?_
  cases there with
  | false => exact yields_throw_bind _ _
  | true =>
    refine (FileAccess.readDocument_keeps reader _ path).bind fun document => ?_
    refine (keeps_settle _).bind fun catalog => (keeps_settle _).bind fun databases => ?_
    exact (keeps_note _ _ _).bind fun _ => keeps_pure catalog

theorem Settings.loadCatalog_keeps (settings : Settings) (reader : DocumentReader) (base : Path) :
    Keeps ready (settings.loadCatalog reader access base) := by
  unfold loadCatalog
  split
  · exact keeps_throw _
  · exact Snapshot.loadFile_keeps reader _

end Reading

namespace Command

variable {sink : Sink} {request : ScanRequest} {path : Path} {before : Files}

/-- The journal is not written to the draft of the file at a path. -/
def AvoidsDraft (sink : Sink) (path : Path) : Prop :=
  ∀ file ∈ sink.file, ∀ draft ∈ path.extended? ".tmp", (Path.parse file).key ≠ draft.key

/-- A key is not that of the file at a path, and not that of its draft if the journal avoids it. -/
def IsElsewhere (sink : Sink) (path : Path) (key : String) : Prop :=
  key ≠ path.key ∧ (AvoidsDraft sink path → ∀ draft ∈ path.extended? ".tmp", key ≠ draft.key)

/-- While a command runs: the file at a path is as it was before, and the file that is held open for
the journal, if there is one, is elsewhere. -/
structure Intact (sink : Sink) (path : Path) (before files : Files) : Prop extends
    Files.Spares path before files where
  elsewhere : sink.file.isSome = true → ∀ key ∈ files.held, IsElsewhere sink path key

/-- Intact files on a site. -/
abbrev IntactOn (sink : Sink) (path : Path) (before : Files) : Site → Prop :=
  Site.FilesAre (Intact sink path before)

section Console

theorem showErrors_returns {good : Files → Prop} (text : String) (entriesShown : Nat) :
    Returns (Site.FilesAre good) (showErrors text entriesShown) :=
  ends_change fun _ met => met

theorem print_keeps {good : Files → Prop} (text : String) :
    Keeps (Site.FilesAre good) (print text) := Site.keeps_files (by intro _; rfl)

theorem moment_returns {good : Files → Prop} : Returns (Site.FilesAre good) moment :=
  Ends.bind (returns_view _) fun _ => ends_pure _

/-- A condition on the files that more text in the file of the journal does not spoil. -/
def Tolerates (sink : Sink) (good : Files → Prop) : Prop :=
  sink.file.isSome = true → ∀ files text, good files → good (files.appendHeld text)

theorem tolerates_true (sink : Sink) : Tolerates sink fun _ => True := fun _ _ _ _ => trivial

/-- Files stay intact when the journal is written. -/
theorem intact_tolerates : Tolerates sink (Intact sink path before) := by
  intro filed files text intact
  have apart : ∀ key ∈ files.held, key ≠ path.key := fun key held =>
    (intact.elsewhere filed key held).1
  obtain ⟨spares, held⟩ := intact.toSpares.appendHeld apart text
  refine ⟨spares, fun filed => ?_⟩
  rw [held]
  exact intact.elsewhere filed

/-- Writing the journal always succeeds. -/
theorem flush_returns {good : Files → Prop} (tolerates : Tolerates sink good) :
    Returns (Site.FilesAre good) (flush sink) := by
  refine Ends.bind returns_get fun stage => Ends.bind moment_returns fun time =>
    Ends.bind (showErrors_returns _ _) fun _ => ?_
  split
  · rename_i filed
    exact ends_change fun site met => tolerates filed site.files _ met
  · exact ends_pure _

theorem printError_returns {good : Files → Prop} (tolerates : Tolerates sink good)
    (text : String) : Returns (Site.FilesAre good) (printError sink text) :=
  Ends.bind (flush_returns tolerates) fun _ => Ends.bind returns_get fun _ =>
    showErrors_returns _ _

theorem flush_keeps : Keeps (IntactOn sink path before) (flush sink) :=
  (flush_returns intact_tolerates).keeps

end Console

section Steps

/-- A step on the files is done or fails without a trace. -/
theorem step_leads {step : Files → Except Fault Files} {ready : Site → Prop}
    {after : Except Fault Unit → Site → Prop}
    (fails : ∀ site fault, ready site → after (.error fault) site)
    (done : ∀ site changed, ready site → step site.files = .ok changed →
      after (.ok ()) { site with files := changed }) :
    Leads ready (Site.fileAccess.step step) after := by
  intro stage met
  cases stepped : step stage.outside.files with
  | error fault =>
    have files_eq : Site.fileAccess.files stage.outside = stage.outside.files := rfl
    have failed : runOn (Site.fileAccess.step step) stage = (.error fault, stage) := by
      unfold FileAccess.step
      simp only [runOn_bind, runOn_view, runOn_settle, files_eq, stepped]
    rw [failed]
    exact fails stage.outside fault met
  | ok changed =>
    rw [FileAccess.runOn_step stepped]
    exact done stage.outside changed met stepped

/-- A step that spares the file at the path keeps the files intact. -/
theorem step_keeps {step : Files → Except Fault Files}
    (spares : ∀ {files changed : Files}, Files.Spares path before files →
      step files = .ok changed → Files.Spares path before changed ∧ changed.held = files.held) :
    Keeps (IntactOn sink path before) (Site.fileAccess.step step) := by
  have leads : Leads (IntactOn sink path before) (Site.fileAccess.step step)
      fun _ => IntactOn sink path before := by
    refine step_leads (fun _ _ intact => intact) fun site changed intact stepped => ?_
    obtain ⟨still, held⟩ := spares intact.toSpares stepped
    refine ⟨still, fun filed => ?_⟩
    change ∀ key ∈ changed.held, IsElsewhere sink path key
    rw [held]
    exact intact.elsewhere filed
  exact fun stage met => ⟨leads stage met, fun _ _ => trivial⟩

theorem writeText_keeps {file : Path} (apart : file.key ≠ path.key) (text : String) :
    Keeps (IntactOn sink path before) (Site.fileAccess.writeText file text) :=
  step_keeps fun spares written => spares.write apart written

/-- A text stands at a path, and the files have been intact since. -/
def Stands (sink : Sink) (path : Path) (text : String) (site : Site) : Prop :=
  ∃ stored : Files, OrderedMap.get? path.key stored.contents = some (Encoding.encode text) ∧
    IntactOn sink path stored site

/-- What storing a text at a path leads to: the text stands there, if the journal avoids the draft,
or the files are intact. -/
def Stores {α : Type} (sink : Sink) (path : Path) (before : Files) (text : String) :
    Except Fault α → Site → Prop
  | .ok _, site => AvoidsDraft sink path → Stands sink path text site
  | .error _, site => IntactOn sink path before site

/-- What writing a draft leads to: the text stands in the draft, and the files are intact. -/
def Drafts {α : Type} (sink : Sink) (path draft : Path) (before : Files) (text : String) :
    Except Fault α → Site → Prop
  | .ok _, site => IntactOn sink path before site ∧
      OrderedMap.get? draft.key site.files.contents = some (Encoding.encode text)
  | .error _, site => IntactOn sink path before site

theorem draft_leads {draft : Path} (extended : path.extended? ".tmp" = some draft)
    (text : String) :
    Leads (IntactOn sink path before) (Site.fileAccess.writeText draft text)
      (Drafts sink path draft before text) := by
  refine step_leads (fun _ _ intact => intact) fun site changed intact written => ?_
  obtain ⟨still, held⟩ := intact.toSpares.write (Path.key_draft_ne extended) written
  refine ⟨⟨still, fun filed => ?_⟩, ?_⟩
  · change ∀ key ∈ changed.held, IsElsewhere sink path key
    rw [held]
    exact intact.elsewhere filed
  · change OrderedMap.get? draft.key changed.contents = _
    rw [Files.eq_of_write written, OrderedMap.get?_put, if_pos rfl]

/-- A draft that has been moved stands at the path. -/
theorem move_leads {draft : Path} (extended : path.extended? ".tmp" = some draft) (text : String) :
    Leads
      (fun site => IntactOn sink path before site ∧
        OrderedMap.get? draft.key site.files.contents = some (Encoding.encode text))
      (Site.fileAccess.step fun files => files.move draft path) (Stores sink path before text) := by
  refine step_leads (fun _ _ met => met.1) fun site changed met moved => ?_
  obtain ⟨intact, drafted⟩ := met
  obtain ⟨stored, held⟩ := Files.eq_of_move (Path.key_draft_ne extended) moved
  refine fun avoids => ⟨changed, stored.trans drafted, .refl path changed, fun filed => ?_⟩
  have free : ∀ key ∈ site.files.held, key ≠ draft.key ∧ key ≠ path.key := fun key there =>
    have elsewhere := intact.elsewhere filed key there
    ⟨elsewhere.2 avoids draft extended, elsewhere.1⟩
  change ∀ key ∈ changed.held, IsElsewhere sink path key
  rw [held free]
  exact intact.elsewhere filed

/-- **Watermarks that are saved stand at their path** if the journal avoids the draft; or the file
there is intact. -/
theorem save_leads (ledger : Ledger) (stamp : String) :
    Leads (IntactOn sink path before) (ledger.save Site.fileAccess path stamp)
      (Stores sink path before (ledger.toText stamp)) := by
  have makes : Keeps (IntactOn sink path before)
      (Site.fileAccess.step fun files => files.makeFolder path.parent) :=
    step_keeps fun spares made => spares.makeFolder made
  have replaces : Leads (IntactOn sink path before)
      (Site.fileAccess.replace path (ledger.toText stamp))
      (Stores sink path before (ledger.toText stamp)) := by
    unfold FileAccess.replace
    split
    · exact fun _ intact => intact
    · rename_i draft extended
      exact (draft_leads extended _).bind (fun _ _ intact => intact) fun _ => move_leads extended _
  refine makes.leads.bind (fun _ _ intact => intact) fun _ => ?_
  exact replaces.bind (fun _ _ intact => intact) fun _ stage stands => stands

end Steps

section Parts

theorem window_of_plan {settings : Settings} {plan : Settings.Plan}
    (planned : settings.plan = .ok plan) : ∃ window, settings.window = .ok window := by
  unfold Settings.plan Settings.rules Settings.policy at planned
  obtain ⟨selector, _, planned⟩ := exists_of_bind_eq_ok planned
  obtain ⟨source, _, planned⟩ := exists_of_bind_eq_ok planned
  obtain ⟨rules, ruled, _⟩ := exists_of_bind_eq_ok planned
  obtain ⟨policy, framed, _⟩ := exists_of_bind_eq_ok ruled
  obtain ⟨window, understood, _⟩ := exists_of_bind_eq_ok framed
  exact ⟨window, understood⟩

theorem connectCatalog_yields {good : Files → Prop} {repeater : Repeater}
    (lawful : repeater.Lawful) (settings : Settings) (catalog : Catalog) :
    Yields (Site.FilesAre good) (connectCatalog repeater settings catalog) fun setup =>
      setup.client.Keep (Site.FilesAre good) :=
  (Site.keeps_files (by intro _; rfl)).bind fun _ =>
    yields_pure (Site.settings_client_keep lawful settings _)

theorem scanWith_yields {good : Files → Prop} (settings : Settings) {setup : Site.PoolSetup}
    (keep : setup.client.Keep (Site.FilesAre good)) (prior : Watermarks) (now : Option Int) :
    Yields (Site.FilesAre good) (scanWith settings setup prior now) fun result =>
      result.IsBacked ∧ ∃ window, settings.window = .ok window := by
  refine (Site.host_keep Site.aside_filesAre keep).closing ?_
  have planned : Yields (Site.FilesAre good) (settle settings.plan) fun plan =>
      settings.plan = .ok plan := yields_settle fun _ same => same
  refine planned.bind fun plan planned => ?_
  have services : (plan.scheduler (Site.services setup)).services.Keep (Site.FilesAre good) :=
    Site.services_keep Site.aside_filesAre keep plan.source
  exact (Scan.request_yields services _ _ none).imp fun result backed =>
    ⟨backed, window_of_plan planned⟩

/-- What a scan has found, as far as the file of the watermarks is concerned: the result is backed,
its window is understood, and the watermarks before are those that the file gave at the start. -/
structure Found (path : Path) (before : Files) (findings : Findings) : Prop where
  backed : findings.result.IsBacked
  windowed : ∃ window, findings.settings.window = .ok window
  prior : ∀ stage : Stage Site, stage.outside.files = before →
    (runOn (Ledger.load Site.fileAccess path) stage).1 = .ok findings.prior

/-- What is loaded is what would have been loaded at the start. -/
theorem loadPrior_yields {marks : String}
    (named : Report.nonEmpty request.watermarks = some marks) :
    Yields (IntactOn sink (.parse marks) before) (loadPrior request) fun prior =>
      ∀ stage : Stage Site, stage.outside.files = before →
        (runOn (Ledger.load Site.fileAccess (.parse marks)) stage).1 = .ok prior := by
  have load_eq : loadPrior request = Ledger.load Site.fileAccess (.parse marks) := by
    unfold loadPrior
    rw [named]
  rw [load_eq]
  intro stage intact
  refine ⟨(Ledger.load_keeps _ stage intact).1, fun prior loaded earlier same => ?_⟩
  have files_eq : Site.fileAccess.files earlier.outside = before := same
  refine Ledger.load_agrees ?_ loaded
  rw [files_eq]
  exact intact.toSpares

/-- **Looking leaves the file of the watermarks as it was.** -/
theorem look_yields {marks : String} (named : Report.nonEmpty request.watermarks = some marks)
    {libraries : Libraries} (lawful : libraries.repeater.Lawful) (environment : Environment) :
    Yields (IntactOn sink (.parse marks) before) (look libraries environment sink request)
      (Found (.parse marks) before) := by
  refine (Settings.load_keeps libraries environment _).bind fun settings => ?_
  refine flush_keeps.bind fun _ => ?_
  refine (loadPrior_yields named).bind fun prior loaded => flush_keeps.bind fun _ => ?_
  refine (Settings.loadCatalog_keeps settings _ _).bind fun catalog => ?_
  refine (connectCatalog_yields lawful settings catalog).bind fun setup keep => ?_
  refine (scanWith_yields settings keep prior.marks request.now).bind fun result found => ?_
  exact yields_pure ⟨found.1, found.2, loaded⟩

/-- The update times of work that is written are short. -/
theorem isShort_of_workLines {work : List Work} (written : (workLines work).2 = .ok ()) :
    ∀ unit ∈ work, Decimal.IsShort unit.updateTime := by
  induction work with
  | nil => exact fun _ member => absurd member List.not_mem_nil
  | cons first others ih =>
    unfold workLines at written
    split at written
    · contradiction
    · rename_i line lined
      intro unit member
      rcases List.mem_cons.mp member with rfl | later
      · unfold workLine at lined
        obtain ⟨bag, described, _⟩ := exists_of_bind_eq_ok lined
        obtain ⟨numeral, numbered, _⟩ := exists_of_bind_eq_ok described
        exact (Data.numeralOf_eq_ok_iff.mp numbered).1
      · exact ih written unit later

theorem writeWork_yields
    (apart : ∀ file ∈ Report.nonEmpty request.output, (Path.parse file).key ≠ path.key)
    (work : List Work) :
    Yields (IntactOn sink path before) (writeWork sink request work) fun _ =>
      ∀ unit ∈ work, Decimal.IsShort unit.updateTime := by
  have settles : Yields (IntactOn sink path before) (settle (workLines work).2) fun _ =>
      ∀ unit ∈ work, Decimal.IsShort unit.updateTime :=
    yields_settle fun _ written => isShort_of_workLines written
  unfold writeWork
  dsimp only
  split
  · exact (print_keeps _).bind fun _ => settles
  · rename_i file named
    refine flush_keeps.bind fun _ => (writeText_keeps (apart file named) _).bind fun _ => ?_
    exact settles.bind fun _ short => (keeps_note _ _ _).imp fun _ _ => short

theorem mergeNoted_yields {ready : Site → Prop} (prior reached : Watermarks) :
    Yields ready (prior.mergeNoted reached) fun merged => merged = prior.merge reached :=
  (Keeps.forM (fun _ => keeps_note _ _ _) _).bind fun _ => yields_pure rfl

/-- Without being asked to, nothing is stored. -/
theorem commit_keeps (unasked : request.commit = false) (prior : Ledger)
    (reached : Watermarks) :
    Keeps (IntactOn sink path before) (commit sink request prior reached) := by
  unfold commit
  rw [unasked]
  exact keeps_pure _

/-- What storing watermarks leads to, at whatever time: they stand at the path, if the journal
avoids the draft, or the files are intact. -/
def Commits {α : Type} (sink : Sink) (path : Path) (before : Files) (ledger : Ledger) :
    Except Fault α → Site → Prop
  | .ok _, site => ∃ stamp, AvoidsDraft sink path → Stands sink path (ledger.toText stamp) site
  | .error _, site => IntactOn sink path before site

theorem commit_leads {marks : String} (named : Report.nonEmpty request.watermarks = some marks)
    (asked : request.commit = true) (prior : Ledger) (reached : Watermarks) :
    Leads (IntactOn sink (.parse marks) before) (commit sink request prior reached)
      (Commits sink (.parse marks) before (prior.merge reached)) := by
  unfold commit
  rw [asked, named]
  refine (mergeNoted_yields prior.marks reached).bind_leads (fun _ _ intact => intact) ?_
  intro merged same
  have merged_eq : prior.putMarks merged = prior.merge reached := congrArg prior.putMarks same
  rw [merged_eq]
  refine flush_keeps.leads.bind (fun _ _ intact => intact) fun _ => ?_
  refine moment_returns.keeps.leads.bind (fun _ _ intact => intact) fun time stage intact => ?_
  have saved := save_leads (prior.merge reached) time.isoText stage intact
  revert saved
  cases (runOn ((prior.merge reached).save Site.fileAccess (.parse marks) time.isoText) stage).1 with
  | error fault => exact fun still => still
  | ok _ => exact fun stands => ⟨_, stands⟩

end Parts

end Command
end CatalogDelta
