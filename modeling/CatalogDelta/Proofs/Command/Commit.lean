import CatalogDelta.Proofs.Command.Intact

/-!
# The command commits all or nothing

A scan that is asked to store watermarks has stored exactly one merge when it ends with the code of
a scan that went through, and otherwise its file is byte for byte what it was. Main statement:
`run_commits`.
-/

namespace CatalogDelta.Command

open Act

/-- The work and the journal go to other files than the watermarks. -/
structure KeepsApart (sink : Sink) (request : ScanRequest) : Prop where
  output : ∀ marks ∈ Report.nonEmpty request.watermarks, ∀ file ∈ Report.nonEmpty request.output,
    (Path.parse file).key ≠ (Path.parse marks).key
  journal : ∀ marks ∈ Report.nonEmpty request.watermarks, ∀ file ∈ sink.file,
    (Path.parse file).key ≠ (Path.parse marks).key

/-- The bytes that are stored at a path, if there are any. -/
def bytesAt (path : Path) (stage : Stage Site) : Option ByteArray :=
  OrderedMap.get? path.key stage.outside.files.contents

/-- Open the journal and do all that is asked for. -/
def attend (libraries : Libraries) (environment : Environment) (sink : Sink)
    (request : ScanRequest) : Act Site Findings := do
  openJournal sink
  complete libraries environment sink request

/-- A scan goes through to its end, with certain findings. -/
def Completes (libraries : Libraries) (environment : Environment) (sink : Sink)
    (request : ScanRequest) (stage : Stage Site) (findings : Findings) : Prop :=
  (runOn (attend libraries environment sink request) stage).1 = .ok findings

/-- The request with all its failures tolerated. -/
def ScanRequest.tolerant (request : ScanRequest) : ScanRequest :=
  { request with failOnPartial := false }

section Completing

variable {sink : Sink} {request : ScanRequest} {path : Path} {before : Files} {marks : String}

/-- Opening the journal leaves the files intact, or changes nothing. -/
theorem openJournal_leads (apart : ∀ file ∈ sink.file, (Path.parse file).key ≠ path.key) :
    Leads (fun site => site.files = before) (openJournal sink) fun outcome site =>
      IntactOn sink path before site ∨ outcome.isOk = false ∧ site.files = before := by
  unfold openJournal
  split
  · rename_i unnamed
    rintro stage rfl
    refine .inl ⟨.refl path _, fun filed => ?_⟩
    rw [unnamed] at filed
    contradiction
  · rename_i file named
    refine step_leads (fun _ _ same => .inr ⟨rfl, same⟩) ?_
    rintro site opened rfl held
    obtain ⟨spares, same⟩ := (Files.Spares.refl path site.files).hold (apart file named) held
    refine .inl ⟨spares, fun _ key there => ?_⟩
    have key_eq : some (Path.parse file).key = some key := same.symm.trans there
    rw [← Option.some.inj key_eq]
    exact ⟨apart file named, fun avoids => avoids file named⟩

/-- Summing up never fails once the window is understood. -/
theorem sumUp_returns {settings : Settings} {window : Option Span} {good : Files → Prop}
    (tolerates : Tolerates sink good) (windowed : settings.window = .ok window)
    (result : ScanResult) :
    Returns (Site.FilesAre good) (do
      let window ← settle settings.window
      printError sink (summary settings window result)) := by
  intro stage met
  rw [runOn_bind, runOn_settle, windowed]
  exact printError_returns tolerates _ stage met

/-- What delivering leads to: everything that was found is short, and the merge of what was there
and what has been reached stands at the path, if the journal avoids the draft; or the files are
intact. -/
def Delivers {α : Type} (sink : Sink) (path : Path) (before : Files) (findings : Findings) :
    Except Fault α → Site → Prop
  | .ok _, site => (∀ work ∈ findings.result.work, Decimal.IsShort work.updateTime) ∧
      ∃ stamp, AvoidsDraft sink path → Stands sink path
        ((findings.prior.merge findings.result.watermarks).toText stamp) site
  | .error _, site => IntactOn sink path before site

theorem deliver_leads (named : Report.nonEmpty request.watermarks = some marks)
    (apart : KeepsApart sink request) (asked : request.commit = true) {findings : Findings}
    (found : Found (.parse marks) before findings) :
    Leads (IntactOn sink (.parse marks) before) (deliver sink request findings)
      (Delivers sink (.parse marks) before findings) := by
  obtain ⟨window, windowed⟩ := found.windowed
  refine (writeWork_yields (apart.output marks named) findings.result.work).bind_leads
    (fun _ _ intact => intact) fun _ short => ?_
  refine (commit_leads named asked findings.prior findings.result.watermarks).bind
    (fun _ _ intact => intact) fun _ => ?_
  rintro stage ⟨stamp, stands⟩
  obtain ⟨_, ended, _⟩ :=
    sumUp_returns (tolerates_true sink) windowed findings.result stage trivial
  rw [ended]
  refine ⟨short, stamp, fun avoids => ?_⟩
  obtain ⟨stored, standing, intact⟩ := stands avoids
  obtain ⟨_, _, still⟩ := sumUp_returns intact_tolerates windowed findings.result stage intact
  exact ⟨stored, standing, still⟩

/-- What a scan that stores leads to. -/
def Concludes (sink : Sink) (path : Path) (before : Files) : Except Fault Findings → Site → Prop
  | .ok findings, site => Found path before findings ∧
      Delivers sink path before findings (.ok findings) site
  | .error _, site => IntactOn sink path before site

theorem complete_eq (named : Report.nonEmpty request.watermarks = some marks)
    (libraries : Libraries) (environment : Environment) :
    complete libraries environment sink request = (do
      let findings ← look libraries environment sink request
      deliver sink request findings
      return findings) := by
  have given : (request.commit && (Report.nonEmpty request.watermarks).isNone) = false := by
    rw [named, Option.isNone_some, Bool.and_false]
  unfold complete
  rw [given]
  rfl

/-- **A scan that stores has stored one merge, or the files are intact.** -/
theorem complete_leads (named : Report.nonEmpty request.watermarks = some marks)
    (apart : KeepsApart sink request) (asked : request.commit = true)
    {libraries : Libraries} (lawful : libraries.repeater.Lawful) (environment : Environment) :
    Leads (IntactOn sink (.parse marks) before) (complete libraries environment sink request)
      (Concludes sink (.parse marks) before) := by
  rw [complete_eq named]
  refine (look_yields named lawful environment).bind_leads (fun _ _ intact => intact)
    fun findings found => ?_
  exact (deliver_leads named apart asked found).bind (fun _ _ intact => intact)
    fun _ _ delivered => ⟨found, delivered⟩

/-- A scan that does not store leaves the files intact. -/
theorem complete_keeps (named : Report.nonEmpty request.watermarks = some marks)
    (apart : KeepsApart sink request) (unasked : request.commit = false)
    {libraries : Libraries} (lawful : libraries.repeater.Lawful) (environment : Environment) :
    Keeps (IntactOn sink (.parse marks) before) (complete libraries environment sink request) := by
  rw [complete_eq named]
  refine (look_yields named lawful environment).keeps.bind fun findings => ?_
  have delivers : Keeps (IntactOn sink (.parse marks) before) (deliver sink request findings) := by
    refine (writeWork_yields (apart.output marks named) _).keeps.bind fun _ => ?_
    refine (commit_keeps unasked _ _).bind fun _ => (keeps_settle _).bind fun window => ?_
    exact (printError_returns intact_tolerates _).keeps
  exact delivers.bind fun _ => keeps_pure findings

end Completing

section Ending

variable {libraries : Libraries} {environment : Environment} {sink : Sink} {request : ScanRequest}
  {good : Files → Prop} {stage : Stage Site} {findings : Findings} {fault : Fault}

theorem serve_scan (libraries : Libraries) (environment : Environment) (sink : Sink)
    (request : ScanRequest) : serve libraries environment sink (.scan request) = (do
      let findings ← complete libraries environment sink request
      return exitOf request findings.result) := rfl

/-- A scan that has gone through ends with its code, once the journal is written. -/
theorem respond_of_completed
    (completed : (runOn (complete libraries environment sink request) stage).1 = .ok findings) :
    runOn (respond libraries environment sink (.scan request)) stage =
      (.ok (exitOf request findings.result),
        (runOn (flush sink) (runOn (complete libraries environment sink request) stage).2).2) := by
  have served : runOn (serve libraries environment sink (.scan request)) stage =
      (.ok (exitOf request findings.result),
        (runOn (complete libraries environment sink request) stage).2) := by
    rw [serve_scan, runOn_bind_of_ok completed, runOn_pure]
  obtain ⟨_, written, _⟩ := flush_returns (tolerates_true sink)
    (runOn (complete libraries environment sink request) stage).2 trivial
  have flushed : runOn (flush sink) (runOn (complete libraries environment sink request) stage).2 =
      (.ok (),
        (runOn (flush sink) (runOn (complete libraries environment sink request) stage).2).2) :=
    Prod.ext written rfl
  unfold respond
  simp only [runOn_bind, runOn_attempt, served, runOn_pure]
  rw [flushed]

/-- A scan that has failed ends as its fault has it. -/
theorem respond_of_failed
    (failed : (runOn (complete libraries environment sink request) stage).1 = .error fault) :
    runOn (respond libraries environment sink (.scan request)) stage =
      runOn (do
        let exit ← conclude sink fault
        flush sink
        return exit) (runOn (complete libraries environment sink request) stage).2 := by
  have served : runOn (serve libraries environment sink (.scan request)) stage =
      (.error fault, (runOn (complete libraries environment sink request) stage).2) := by
    rw [serve_scan, runOn_bind_of_error failed]
  unfold respond
  simp only [runOn_bind, runOn_attempt, served]

/-- A run that fails ends with a code of its own, if it ends with one. -/
theorem conclude_yields (tolerates : Tolerates sink good) (fault : Fault) :
    Yields (Site.FilesAre good)
      (do
        let exit ← conclude sink fault
        flush sink
        return exit)
      fun exit => exit = .configuration ∨ exit = .connection := by
  have flushes : Keeps (Site.FilesAre good) (flush sink) := (flush_returns tolerates).keeps
  have concludes : Yields (Site.FilesAre good) (conclude sink fault) fun exit =>
      exit = .configuration ∨ exit = .connection := by
    unfold conclude
    split
    · exact (printError_returns tolerates _).keeps.bind fun _ => yields_pure (.inl rfl)
    · split
      · exact (keeps_note _ _ _).bind fun _ => yields_pure (.inr rfl)
      · exact flushes.bind fun _ => yields_throw _ _
  exact concludes.bind fun exit coded => flushes.bind fun _ => yields_pure coded

theorem exit_of_failed
    (failed : (runOn (complete libraries environment sink request) stage).1 = .error fault)
    {exit : Exit}
    (ended : (runOn (respond libraries environment sink (.scan request)) stage).1 = .ok exit) :
    exit = .configuration ∨ exit = .connection := by
  rw [respond_of_failed failed] at ended
  exact (conclude_yields (tolerates_true sink) fault _ trivial).2 exit ended

/-- A run that does not store, or that fails, leaves the files intact. -/
theorem respond_intact (lawful : libraries.repeater.Lawful) {marks : String}
    (named : Report.nonEmpty request.watermarks = some marks)
    (apart : KeepsApart sink request) {before : Files}
    (intact : IntactOn sink (.parse marks) before stage.outside)
    (stops : request.commit = false ∨
      ∀ findings, (runOn (complete libraries environment sink request) stage).1 ≠ .ok findings) :
    IntactOn sink (.parse marks) before
      (runOn (respond libraries environment sink (.scan request)) stage).2.outside := by
  have still : IntactOn sink (.parse marks) before
      (runOn (complete libraries environment sink request) stage).2.outside := by
    rcases stops with unasked | fails
    · exact (complete_keeps named apart unasked lawful environment stage intact).1
    · cases asked : request.commit with
      | false => exact (complete_keeps named apart asked lawful environment stage intact).1
      | true =>
        have concluded := complete_leads named apart asked lawful environment stage intact
        cases ended : (runOn (complete libraries environment sink request) stage).1 with
        | ok findings => exact absurd ended (fails findings)
        | error fault =>
          rw [ended] at concluded
          exact concluded
  cases ended : (runOn (complete libraries environment sink request) stage).1 with
  | ok findings =>
    rw [respond_of_completed ended]
    exact (flush_keeps _ still).1
  | error fault =>
    rw [respond_of_failed ended]
    exact (conclude_yields intact_tolerates fault _ still).1

end Ending

section Runs

variable {libraries : Libraries} {environment : Environment} {words : List String}
  {invocation : Invocation} {request : ScanRequest} {stage : Stage Site} {findings : Findings}
  {marks : String}

/-- The journal is opened, or the run fails without a trace. -/
theorem openJournal_cases (sink : Sink) (stage : Stage Site) :
    (∃ opened, runOn (openJournal sink) stage = (.ok (), opened)) ∨
      ∃ fault, runOn (openJournal sink) stage = (.error fault, stage) := by
  unfold openJournal
  split
  · exact .inl ⟨stage, rfl⟩
  · rename_i file _
    unfold FileAccess.step
    simp only [runOn_bind, runOn_view, runOn_settle]
    cases (Site.fileAccess.files stage.outside).hold (Path.parse file) with
    | error fault => exact .inr ⟨fault, rfl⟩
    | ok held => exact .inl ⟨_, rfl⟩

theorem runOn_run_of_opened (read : Invocation.ofWords words = .ok invocation)
    (asked : invocation.request = .scan request) {opened : Stage Site}
    (opens : runOn (openJournal invocation.sink) stage = (.ok (), opened)) :
    runOn (run libraries environment words) stage =
      ((runOn (respond libraries environment invocation.sink (.scan request)) opened).1.map
          (.finished ·.code),
        (runOn (respond libraries environment invocation.sink (.scan request)) opened).2) := by
  unfold run
  rw [read]
  dsimp only
  unfold invoke
  rw [asked]
  simp only [runOn_bind, opens]
  rcases runOn (respond libraries environment invocation.sink (.scan request)) opened with
    ⟨fault | exit, after⟩
  · rfl
  · rfl

theorem runOn_run_of_unopened (read : Invocation.ofWords words = .ok invocation) {fault : Fault}
    (fails : runOn (openJournal invocation.sink) stage = (.error fault, stage)) :
    runOn (run libraries environment words) stage = (.error fault, stage) := by
  unfold run
  rw [read]
  dsimp only
  unfold invoke
  simp only [runOn_bind, fails]

theorem completes_iff_of_opened {sink : Sink} {opened : Stage Site}
    (opens : runOn (openJournal sink) stage = (.ok (), opened)) :
    Completes libraries environment sink request stage findings ↔
      (runOn (complete libraries environment sink request) opened).1 = .ok findings := by
  unfold Completes attend
  simp only [runOn_bind, opens]

theorem not_completes_of_unopened {sink : Sink} {fault : Fault}
    (fails : runOn (openJournal sink) stage = (.error fault, stage)) :
    ¬Completes libraries environment sink request stage findings := by
  unfold Completes attend
  simp only [runOn_bind, fails, reduceCtorEq, not_false_eq_true]

theorem opened_intact (apart : KeepsApart invocation.sink request)
    (named : Report.nonEmpty request.watermarks = some marks) {opened : Stage Site}
    (opens : runOn (openJournal invocation.sink) stage = (.ok (), opened)) :
    IntactOn invocation.sink (.parse marks) stage.outside.files opened.outside := by
  have reached := openJournal_leads (apart.journal marks named) stage rfl
  rw [opens] at reached
  exact reached.resolve_right fun failed => Bool.noConfusion failed.1

/-- The code of a scan that goes through. -/
theorem code_exitOf (request : ScanRequest) (result : ScanResult) :
    (exitOf request result).code =
      if request.failOnPartial = true ∧ result.hasFailures = true then 1 else 0 := by
  unfold exitOf
  cases request.failOnPartial with
  | false => simp [Exit.code]
  | true =>
    cases result.hasFailures with
    | false => rfl
    | true => rfl

/-- **A run whose scan goes through ends with a code of that.** -/
theorem run_of_completes (read : Invocation.ofWords words = .ok invocation)
    (asked : invocation.request = .scan request)
    (completes : Completes libraries environment invocation.sink request stage findings) :
    (runOn (run libraries environment words) stage).1 = .ok (.finished
      (if request.failOnPartial = true ∧ findings.result.hasFailures = true then 1 else 0)) := by
  rcases openJournal_cases invocation.sink stage with ⟨opened, opens⟩ | ⟨fault, fails⟩
  · have ended := (completes_iff_of_opened opens).mp completes
    rw [runOn_run_of_opened read asked opens, respond_of_completed ended, ← code_exitOf]
    rfl
  · exact absurd completes (not_completes_of_unopened fails)

/-- **A run whose scan does not go through ends with a code for failures**, or with none. -/
theorem code_of_incomplete (read : Invocation.ofWords words = .ok invocation)
    (asked : invocation.request = .scan request)
    (incomplete : ∀ findings,
      ¬Completes libraries environment invocation.sink request stage findings) {code : Nat}
    (coded : (runOn (run libraries environment words) stage).1 = .ok (.finished code)) :
    code = 2 ∨ code = 3 := by
  rcases openJournal_cases invocation.sink stage with ⟨opened, opens⟩ | ⟨fault, fails⟩
  · rw [runOn_run_of_opened read asked opens] at coded
    cases ended : (runOn (complete libraries environment invocation.sink request) opened).1 with
    | ok findings =>
      exact absurd ((completes_iff_of_opened opens).mpr ended) (incomplete findings)
    | error fault =>
      cases exited :
        (runOn (respond libraries environment invocation.sink (.scan request)) opened).1 with
      | error other =>
        rw [exited] at coded
        contradiction
      | ok exit =>
        rw [exited] at coded
        have code_eq : exit.code = code := Ending.finished.inj (Except.ok.inj coded)
        rcases exit_of_failed ended exited with rfl | rfl
        · exact .inl code_eq.symm
        · exact .inr code_eq.symm
  · rw [runOn_run_of_unopened read fails] at coded
    contradiction

/-- A run ends with a code for failures, or with a fault. -/
def IsStopped (ended : Except Fault Ending) : Prop :=
  ended = .ok (.finished 2) ∨ ended = .ok (.finished 3) ∨ ∃ fault, ended = .error fault

/-- A run ends with a code of a scan that went through. -/
def IsThrough (ended : Except Fault Ending) : Prop :=
  ended = .ok (.finished 0) ∨ ended = .ok (.finished 1)

theorem not_completes_of_stopped (read : Invocation.ofWords words = .ok invocation)
    (asked : invocation.request = .scan request)
    (stopped : IsStopped (runOn (run libraries environment words) stage).1) (findings : Findings) :
    ¬Completes libraries environment invocation.sink request stage findings := by
  intro completes
  rw [run_of_completes read asked completes] at stopped
  unfold IsStopped at stopped
  split at stopped
  · simp at stopped
  · simp at stopped

theorem completes_of_through (read : Invocation.ofWords words = .ok invocation)
    (asked : invocation.request = .scan request)
    (through : IsThrough (runOn (run libraries environment words) stage).1) :
    ∃ findings, Completes libraries environment invocation.sink request stage findings := by
  by_contra incomplete
  rcases through with well | partly
  · exact absurd (code_of_incomplete read asked (not_exists.mp incomplete) well) (by decide)
  · exact absurd (code_of_incomplete read asked (not_exists.mp incomplete) partly) (by decide)

/-- **The code for partial failures** stands for a scan that went through with failures and was told
to fail on them. -/
theorem run_partly_iff (read : Invocation.ofWords words = .ok invocation)
    (asked : invocation.request = .scan request) :
    (runOn (run libraries environment words) stage).1 = .ok (.finished 1) ↔
      request.failOnPartial = true ∧ ∃ findings,
        Completes libraries environment invocation.sink request stage findings ∧
          findings.result.hasFailures = true := by
  constructor
  · intro partly
    obtain ⟨findings, completes⟩ := completes_of_through read asked (.inr partly)
    rw [run_of_completes read asked completes] at partly
    by_cases both : request.failOnPartial = true ∧ findings.result.hasFailures = true
    · exact ⟨both.1, findings, completes, both.2⟩
    · rw [if_neg both] at partly
      simp at partly
  · rintro ⟨strict, findings, completes, failures⟩
    rw [run_of_completes read asked completes, if_pos ⟨strict, failures⟩]

/-- **A run that does not store, or does not go through, leaves the file of the watermarks as it
was.** -/
theorem run_spares (lawful : libraries.repeater.Lawful)
    (read : Invocation.ofWords words = .ok invocation)
    (asked : invocation.request = .scan request) (apart : KeepsApart invocation.sink request)
    (named : Report.nonEmpty request.watermarks = some marks)
    (stops : request.commit = false ∨
      ∀ findings, ¬Completes libraries environment invocation.sink request stage findings) :
    bytesAt (.parse marks) (runOn (run libraries environment words) stage).2 =
      bytesAt (.parse marks) stage := by
  rcases openJournal_cases invocation.sink stage with ⟨opened, opens⟩ | ⟨fault, fails⟩
  · rw [runOn_run_of_opened read asked opens]
    have intact := opened_intact apart named opens
    refine (respond_intact lawful named apart intact
      (stops.imp id fun fails findings ended => ?_)).kept
    exact fails findings ((completes_iff_of_opened opens).mpr ended)
  · rw [runOn_run_of_unopened read fails]

/-- **A run that stores and goes through leaves one merge in the file**, if the journal avoids the
draft. -/
theorem run_stores (lawful : libraries.repeater.Lawful)
    (read : Invocation.ofWords words = .ok invocation)
    (asked : invocation.request = .scan request) (apart : KeepsApart invocation.sink request)
    (named : Report.nonEmpty request.watermarks = some marks) (storing : request.commit = true)
    (completes : Completes libraries environment invocation.sink request stage findings) :
    Found (.parse marks) stage.outside.files findings ∧
      (∀ work ∈ findings.result.work, Decimal.IsShort work.updateTime) ∧
      ∃ stamp, AvoidsDraft invocation.sink (.parse marks) →
        bytesAt (.parse marks) (runOn (run libraries environment words) stage).2 =
          some (Encoding.encode
            ((findings.prior.merge findings.result.watermarks).toText stamp)) := by
  rcases openJournal_cases invocation.sink stage with ⟨opened, opens⟩ | ⟨fault, fails⟩
  · have ended := (completes_iff_of_opened opens).mp completes
    have intact := opened_intact apart named opens
    have concluded := complete_leads named apart storing lawful environment opened intact
    rw [ended] at concluded
    obtain ⟨found, short, stamp, stands⟩ := concluded
    refine ⟨found, short, stamp, fun avoids => ?_⟩
    obtain ⟨stored, standing, still⟩ := stands avoids
    rw [runOn_run_of_opened read asked opens, respond_of_completed ended]
    exact (flush_keeps _ still).1.kept.trans standing
  · exact absurd completes (not_completes_of_unopened fails)

/-- Without the order to fail on failures a run that goes through ends well, in the same state. -/
theorem run_tolerant (read : Invocation.ofWords words = .ok invocation)
    (asked : invocation.request = .scan request) {plain : List String}
    (readPlain : Invocation.ofWords plain =
      .ok { invocation with request := .scan request.tolerant })
    (completes : Completes libraries environment invocation.sink request stage findings) :
    runOn (run libraries environment plain) stage =
      (.ok (.finished 0), (runOn (run libraries environment words) stage).2) := by
  rcases openJournal_cases invocation.sink stage with ⟨opened, opens⟩ | ⟨fault, fails⟩
  · have ended := (completes_iff_of_opened opens).mp completes
    have same : complete libraries environment invocation.sink request.tolerant =
        complete libraries environment invocation.sink request := rfl
    have endedPlain :
        (runOn (complete libraries environment invocation.sink request.tolerant) opened).1 =
          .ok findings := by
      rw [same]
      exact ended
    have tolerated : exitOf request.tolerant findings.result = .ok := by
      unfold exitOf ScanRequest.tolerant
      rw [Bool.and_false]
      rfl
    have plainly : runOn (run libraries environment plain) stage =
        ((runOn (respond libraries environment invocation.sink (.scan request.tolerant))
            opened).1.map (.finished ·.code),
          (runOn (respond libraries environment invocation.sink (.scan request.tolerant))
            opened).2) :=
      runOn_run_of_opened readPlain rfl opens
    rw [plainly, respond_of_completed endedPlain, tolerated, same,
      runOn_run_of_opened read asked opens, respond_of_completed ended]
    rfl
  · exact absurd completes (not_completes_of_unopened fails)

/-- A scan that stores goes through only if a file for the watermarks is named. -/
theorem named_of_completes (storing : request.commit = true)
    (completes : Completes libraries environment invocation.sink request stage findings) :
    ∃ marks, Report.nonEmpty request.watermarks = some marks := by
  rcases openJournal_cases invocation.sink stage with ⟨opened, opens⟩ | ⟨fault, fails⟩
  · have ended := (completes_iff_of_opened opens).mp completes
    cases named : Report.nonEmpty request.watermarks with
    | some marks => exact ⟨marks, rfl⟩
    | none =>
      unfold complete at ended
      rw [storing, named] at ended
      contradiction
  · exact absurd completes (not_completes_of_unopened fails)

/-- Loading what a run has stored gives the larger of what was there and what has been reached. -/
theorem load_of_stored {prior : Ledger} {reached : Watermarks} {path : Path} {stamp : String}
    {after : Stage Site} (keepable : prior.IsKeepable) (storable : reached.IsStorable)
    (proper : reached.AllProper)
    (stored : bytesAt path after = some (Encoding.encode ((prior.merge reached).toText stamp))) :
    ∃ loaded, (runOn (Ledger.load Site.fileAccess path) after).1 = .ok loaded ∧
      (OrderedMap.keys loaded).Nodup ∧
      ∀ label, OrderedMap.get? label loaded =
        Watermarks.larger (OrderedMap.get? label prior)
          (OrderedMap.get? label (Ledger.ofMarks reached)) := by
  have merged : (prior.merge reached).IsKeepable := keepable.merge storable proper
  have same := Ledger.sorted_perm (prior.merge reached)
  refine ⟨_, Ledger.runOn_load_of_stored merged stored,
    (same.map Prod.fst).nodup_iff.mpr merged.storable.distinct, fun label => ?_⟩
  rw [OrderedMap.get?_of_perm merged.storable.distinct same,
    Ledger.get?_merge keepable.storable.distinct storable.distinct]

/-- **The command commits all or nothing.** Words that are no call of the command change nothing at
all. Let them ask for a scan whose work and journal go elsewhere. If it is not asked to store, or
ends with the code of a failure or with a fault, the file of the watermarks is byte for byte what it
was. If it is asked to store and ends with the code of a scan that went through, it went through,
and loading the file gives for every name the larger of the watermark that loading gave before and
the one in the result, and nothing else, as long as the names in the result are proper and the file
of the journal is not the draft that is moved to the watermarks. The code for partial failures
stands for a command that went through to its end with failures and was told to fail on them; not
being told so, it ends well with everything written and stored alike. -/
theorem run_commits {libraries : Libraries} (lawful : libraries.repeater.Lawful)
    (environment : Environment) (words : List String) (stage : Stage Site) :
    (∀ halt, Invocation.ofWords words = .error halt →
      runOn (run libraries environment words) stage = (.ok (.halted halt), stage)) ∧
    ∀ (invocation : Invocation) (request : ScanRequest),
      Invocation.ofWords words = .ok invocation → invocation.request = .scan request →
      KeepsApart invocation.sink request →
        (∀ marks ∈ Report.nonEmpty request.watermarks,
          request.commit = false ∨ IsStopped (runOn (run libraries environment words) stage).1 →
          bytesAt (.parse marks) (runOn (run libraries environment words) stage).2 =
            bytesAt (.parse marks) stage) ∧
        (request.commit = true →
          IsThrough (runOn (run libraries environment words) stage).1 →
          ∃ marks prior findings, Report.nonEmpty request.watermarks = some marks ∧
            (runOn (Ledger.load Site.fileAccess (.parse marks)) stage).1 = .ok prior ∧
            Completes libraries environment invocation.sink request stage findings ∧
            (findings.result.watermarks.AllProper →
              AvoidsDraft invocation.sink (.parse marks) → ∃ loaded,
                (runOn (Ledger.load Site.fileAccess (.parse marks))
                  (runOn (run libraries environment words) stage).2).1 = .ok loaded ∧
                (OrderedMap.keys loaded).Nodup ∧
                ∀ label, OrderedMap.get? label loaded =
                  Watermarks.larger (OrderedMap.get? label prior)
                    (OrderedMap.get? label (Ledger.ofMarks findings.result.watermarks)))) ∧
        ((runOn (run libraries environment words) stage).1 = .ok (.finished 1) ↔
          request.failOnPartial = true ∧ ∃ findings,
            Completes libraries environment invocation.sink request stage findings ∧
              findings.result.hasFailures = true) ∧
        ((runOn (run libraries environment words) stage).1 = .ok (.finished 1) →
          ∀ plain, Invocation.ofWords plain =
              .ok { invocation with request := .scan request.tolerant } →
            runOn (run libraries environment plain) stage =
              (.ok (.finished 0), (runOn (run libraries environment words) stage).2)) := by
  refine ⟨fun halt misread => ?_, fun invocation request read asked apart => ?_⟩
  · unfold run
    rw [misread]
    rfl
  refine ⟨fun marks named stops => ?_, fun storing through => ?_, run_partly_iff read asked,
    fun partly plain readPlain => ?_⟩
  · refine run_spares lawful read asked apart named ?_
    exact stops.imp id (not_completes_of_stopped read asked)
  · obtain ⟨findings, completes⟩ := completes_of_through read asked through
    obtain ⟨marks, named⟩ := named_of_completes storing completes
    obtain ⟨found, short, stamp, stored⟩ :=
      run_stores lawful read asked apart named storing completes
    have loaded := found.prior stage rfl
    refine ⟨marks, findings.prior, findings, named, loaded, completes, fun proper avoids => ?_⟩
    have storable : findings.result.watermarks.IsStorable := by
      refine ⟨found.backed.distinct, fun entry member => ?_⟩
      obtain ⟨work, there, time⟩ := found.backed.backed entry member
      rw [← time]
      exact short work there
    exact load_of_stored (Ledger.isKeepable_of_loaded loaded) storable proper (stored avoids)
  · obtain ⟨findings, completes⟩ := completes_of_through read asked (.inr partly)
    exact run_tolerant read asked readPlain completes

end Runs

theorem eq_ok_of_toOption {α : Type} {outcome : Except Fault α} {value : α}
    (given : outcome.toOption = some value) : outcome = .ok value := by
  cases outcome with
  | error fault => contradiction
  | ok other => rw [Option.some.inj given]

/-- An outcome of which something is known is good. -/
theorem exists_ok_of_toOption {α β : Type} {outcome : Except Fault α} {part : α → β} {known : β}
    (knows : outcome.toOption.map part = some known) :
    ∃ value, outcome = .ok value ∧ part value = known := by
  cases outcome with
  | error fault => contradiction
  | ok value => exact ⟨value, rfl, Option.some.inj knows⟩

/-- A shop in files; when one of its two tables was made is not known. -/
def filedShop : Stage Site where
  outside := { files := { contents := [
    ("scan.json", Encoding.encode "\x7b\"scan\": \x7b\"catalog\": \"shop.json\"\x7d\x7d"),
    ("shop.json", Encoding.encode ("\x7b\"databases\": \x7b\"shop\": \x7b\"tables\": \x7b" ++
      "\"orders\": \x7b\"create_time\": 3\x7d, \"sales\": \x7b\x7d\x7d\x7d\x7d\x7d"))] } }

/-- To scan the shop and store its watermarks, failing on failures. -/
def strictWords : List String :=
  ["scan", "scan.json", "--watermarks", "marks.json", "--now", "5000", "--commit",
    "--fail-on-partial"]

def strictScan : ScanRequest where
  settings := "scan.json"
  watermarks := some "marks.json"
  now := some 5000
  commit := true
  failOnPartial := true

def strictCall : Invocation where
  request := .scan strictScan

theorem filedShop_completes : ∃ findings,
    Completes .usual [] strictCall.sink strictScan filedShop findings ∧
      findings.result.hasFailures = true ∧
      findings.result.watermarks = [(⟨"shop", "orders"⟩, 3000)] := by
  have found : (runOn (attend .usual [] strictCall.sink strictScan) filedShop).1.toOption.map
      (fun findings => (findings.result.hasFailures, findings.result.watermarks)) =
        some (true, [(⟨"shop", "orders"⟩, 3000)]) := by
    decide +kernel
  obtain ⟨findings, completes, found⟩ := exists_ok_of_toOption found
  exact ⟨findings, completes, Prod.mk.inj found⟩

theorem filedShop_committed :
    (runOn (run .usual [] strictWords) filedShop).1 = .ok (.finished 1) ∧
    runOn (run .usual [] strictWords.dropLast) filedShop =
      (.ok (.finished 0), (runOn (run .usual [] strictWords) filedShop).2) ∧
    ∃ loaded, (runOn (Ledger.load Site.fileAccess (.parse "marks.json"))
        (runOn (run .usual [] strictWords) filedShop).2).1 = .ok loaded ∧
      OrderedMap.get? (.ofDataset ⟨"shop", "orders"⟩) loaded = some 3000 := by
  obtain ⟨read, readPlain⟩ : Invocation.ofWords strictWords = .ok strictCall ∧
      Invocation.ofWords strictWords.dropLast =
        .ok { strictCall with request := .scan strictScan.tolerant } := by
    decide +kernel
  have apart : KeepsApart strictCall.sink strictScan := {
    output := fun _ _ _ absent => nomatch absent
    journal := fun _ _ _ absent => nomatch absent }
  obtain ⟨findings, completes, failures, marks_eq⟩ := filedShop_completes
  have lawful : Libraries.usual.repeater.Lawful := Repeater.usual_lawful
  obtain ⟨_, commits⟩ := run_commits lawful [] strictWords filedShop
  obtain ⟨_, stores, partly, tolerates⟩ := commits strictCall strictScan read rfl apart
  have ended : (runOn (run .usual [] strictWords) filedShop).1 = .ok (.finished 1) :=
    partly.mpr ⟨rfl, findings, completes, failures⟩
  refine ⟨ended, tolerates ended _ readPlain, ?_⟩
  obtain ⟨marks, prior, others, named, before, again, loads⟩ := stores rfl (.inr ended)
  obtain rfl : findings = others := Except.ok.inj (completes.symm.trans again)
  have named_eq : Report.nonEmpty strictScan.watermarks = some "marks.json" := by decide
  obtain rfl : "marks.json" = marks := Option.some.inj (named_eq.symm.trans named)
  have before_eq : (runOn (Ledger.load Site.fileAccess (.parse "marks.json"))
      filedShop).1.toOption = some [] := by
    decide +kernel
  rw [before] at before_eq
  have proper : findings.result.watermarks.AllProper := by
    rw [marks_eq]
    unfold Watermarks.AllProper
    decide
  obtain ⟨loaded, reloads, _, larger⟩ := loads proper fun _ absent => nomatch absent
  refine ⟨loaded, reloads, ?_⟩
  rw [larger, Option.some.inj before_eq, marks_eq]
  decide

/-- A watermark for the shop. -/
def shopMark : Watermarks := [(⟨"shop", "orders"⟩, 5)]

/-- The watermark in a file, and settings with a catalog of nothing. -/
def closedShop : Stage Site where
  outside := { files := { contents := [
    ("scan.json", Encoding.encode "\x7b\"catalog\": \"shop.json\"\x7d"),
    ("shop.json", Encoding.encode "\x7b\"databases\": \x7b\x7d\x7d"),
    ("marks.json", Encoding.encode "\x7b\"watermarks\": \x7b\"shop@orders\": 5\x7d\x7d")] } }

/-- To scan and store the watermarks, with the journal in their draft. -/
def draftWords : List String :=
  ["--json-log", "--log-file", "marks.json.tmp", "scan", "scan.json", "--watermarks", "marks.json",
    "--now", "5000", "--commit"]

def draftScan : ScanRequest where
  settings := "scan.json"
  watermarks := some "marks.json"
  now := some 5000
  commit := true

def draftCall : Invocation where
  asJson := true
  logFile := some "marks.json.tmp"
  request := .scan draftScan

/-- The last line of the journal, behind its opening brace. -/
def lastEntry : String :=
  "\"timestamp\": \"1970-01-01T00:00:00.000Z\", " ++ "\"level\": \"INFO\", " ++
    "\"logger\": \"changescan.lib.watermark\", " ++
    "\"message\": \"Saved 1 watermark(s) " ++ "to marks.json\"\x7d\n"

/-- To scan the shop, failing on failures, with the work in a directory that is not there. -/
def lostWords : List String :=
  ["scan", "scan.json", "--now", "5000", "--output", "lost/work.jsonl", "--fail-on-partial"]

def lostScan : ScanRequest where
  settings := "scan.json"
  now := some 5000
  output := some "lost/work.jsonl"
  failOnPartial := true

def lostCall : Invocation where
  request := .scan lostScan

/-- A scan is done, with certain findings; what has been found may not be delivered yet. -/
def Scans (libraries : Libraries) (environment : Environment) (sink : Sink)
    (request : ScanRequest) (stage : Stage Site) (findings : Findings) : Prop :=
  (runOn (openJournal sink *> look libraries environment sink request) stage).1 = .ok findings

/-- With the journal in the draft a run ends well, and its last line is behind the watermarks. -/
theorem draft_runs :
    (runOn (run .usual [] draftWords) closedShop).1 = .ok (.finished 0) ∧
      bytesAt (.parse "marks.json") (runOn (run .usual [] draftWords) closedShop).2 =
        some (Encoding.encode
          ((Ledger.ofMarks shopMark).toText "1970-01-01T00:00:00+00:00" ++ ("\x7b" ++ lastEntry))) := by
  have both : (runOn (run .usual [] draftWords) closedShop).1.toOption = some (.finished 0) ∧
      (bytesAt (.parse "marks.json") (runOn (run .usual [] draftWords) closedShop).2).map
        (·.data.toList) =
      some (Encoding.encode
        ((Ledger.ofMarks shopMark).toText "1970-01-01T00:00:00+00:00" ++ ("\x7b" ++ lastEntry))).data.toList := by
    decide +kernel
  obtain ⟨ended, same⟩ := both
  obtain ⟨bytes, stored, bytes_eq⟩ := Option.map_eq_some_iff.mp same
  exact ⟨eq_ok_of_toOption ended, stored.trans (congrArg some (ByteArray.ext (Array.ext' bytes_eq)))⟩

/-- So nothing is loaded from the file any more. -/
theorem draft_spoils :
    (runOn (Ledger.load Site.fileAccess (.parse "marks.json"))
      (runOn (run .usual [] draftWords) closedShop).2).1 = .ok [] := by
  have storable : shopMark.IsStorable := ⟨by decide, by decide⟩
  have begins : ("\x7b" ++ lastEntry).toList = '\x7b' :: lastEntry.toList := by
    rw [String.toList_append]
    rfl
  have unreturned : '\r' ∉ ("\x7b" ++ lastEntry).toList := by
    unfold lastEntry
    simp only [String.toList_append, List.mem_append, not_or]
    decide
  have parts : Json.Parts ('\x7b' :: lastEntry.toList) := by
    intro c first
    obtain rfl := Option.some.inj first
    decide
  -- The run is not to be looked into.
  have loads {after : Stage Site} (stored : bytesAt (.parse "marks.json") after =
      some (Encoding.encode ((Ledger.ofMarks shopMark).toText "1970-01-01T00:00:00+00:00" ++
        ("\x7b" ++ lastEntry)))) :
      (runOn (Ledger.load Site.fileAccess (.parse "marks.json")) after).1 = .ok [] :=
    Ledger.runOn_load_of_spoilt storable.ofMarks stored begins (by decide) parts unreturned
  exact loads draft_runs.2

theorem draft_keeps {prior : Ledger}
    (kept : (runOn (Ledger.load Site.fileAccess (.parse "marks.json")) closedShop).1 = .ok prior) :
    prior = .ofMarks shopMark := by
  have found : (runOn (Ledger.load Site.fileAccess (.parse "marks.json"))
      closedShop).1.toOption = some (.ofMarks shopMark) := by
    decide +kernel
  rw [kept] at found
  exact Option.some.inj found

theorem draft_reaches {findings : Findings}
    (completes : Completes .usual [] draftCall.sink draftScan closedShop findings) :
    findings.result.watermarks = [] := by
  have found : (runOn (attend .usual [] draftCall.sink draftScan) closedShop).1.toOption.map
      (·.result.watermarks) = some [] := by
    decide +kernel
  unfold Completes at completes
  rw [completes] at found
  exact Option.some.inj found

/-- A scan with failures whose work cannot be written does not end with the code for failures. -/
theorem lost_fails :
    (runOn (run .usual [] lostWords) filedShop).1 ≠ .ok (.finished 1) ∧
      ∃ findings, Scans .usual [] lostCall.sink lostScan filedShop findings ∧
        findings.result.hasFailures = true := by
  have both : (runOn (run .usual [] lostWords) filedShop).1.toOption = none ∧
      (runOn (openJournal lostCall.sink *> look .usual [] lostCall.sink lostScan)
        filedShop).1.toOption.map (·.result.hasFailures) = some true := by
    decide +kernel
  obtain ⟨failed, found⟩ := both
  refine ⟨fun ended => ?_, exists_ok_of_toOption found⟩
  rw [ended] at failed
  exact Option.some_ne_none _ failed

/-- **A run that stores may leave watermarks that are not loaded again**, if its journal goes to
their draft; and **a scan with failures may end without the code for them**, told to fail on them,
if what has been found cannot be delivered. -/
theorem not_every_commit_loads :
    (¬∀ (words : List String) (stage : Stage Site) (invocation : Invocation)
        (request : ScanRequest),
      Invocation.ofWords words = .ok invocation → invocation.request = .scan request →
      KeepsApart invocation.sink request → request.commit = true →
      IsThrough (runOn (run .usual [] words) stage).1 →
      ∃ marks prior findings, Report.nonEmpty request.watermarks = some marks ∧
        (runOn (Ledger.load Site.fileAccess (.parse marks)) stage).1 = .ok prior ∧
        Completes .usual [] invocation.sink request stage findings ∧
        (findings.result.watermarks.AllProper → ∃ loaded,
          (runOn (Ledger.load Site.fileAccess (.parse marks))
            (runOn (run .usual [] words) stage).2).1 = .ok loaded ∧
          ∀ label, OrderedMap.get? label loaded =
            Watermarks.larger (OrderedMap.get? label prior)
              (OrderedMap.get? label (Ledger.ofMarks findings.result.watermarks)))) ∧
    ¬∀ (words : List String) (stage : Stage Site) (invocation : Invocation)
        (request : ScanRequest),
      Invocation.ofWords words = .ok invocation → invocation.request = .scan request →
      KeepsApart invocation.sink request →
      ((runOn (run .usual [] words) stage).1 = .ok (.finished 1) ↔
        request.failOnPartial = true ∧ ∃ findings,
          Scans .usual [] invocation.sink request stage findings ∧
            findings.result.hasFailures = true) := by
  refine ⟨fun stores => ?_, fun exits => ?_⟩
  · have named_eq : Report.nonEmpty draftScan.watermarks = some "marks.json" := by decide
    have file_eq : draftCall.sink.file = some "marks.json.tmp" := by decide
    have read : Invocation.ofWords draftWords = .ok draftCall := by decide +kernel
    have apart : KeepsApart draftCall.sink draftScan := {
      output := fun _ _ _ absent => nomatch absent
      journal := by
        rintro marks named file filed
        obtain rfl : "marks.json" = marks := Option.some.inj (named_eq.symm.trans named)
        obtain rfl : "marks.json.tmp" = file := Option.some.inj (file_eq.symm.trans filed)
        decide +kernel }
    obtain ⟨marks, prior, findings, named, kept, completes, loads⟩ :=
      stores draftWords closedShop draftCall draftScan read rfl apart rfl (.inl draft_runs.1)
    obtain rfl : "marks.json" = marks := Option.some.inj (named_eq.symm.trans named)
    rw [draft_reaches completes] at loads
    obtain ⟨loaded, reloads, larger⟩ := loads fun _ absent => absurd absent List.not_mem_nil
    have missing := larger (.ofDataset ⟨"shop", "orders"⟩)
    rw [← Except.ok.inj (draft_spoils.symm.trans reloads), draft_keeps kept] at missing
    exact absurd missing (by decide)
  · have read : Invocation.ofWords lostWords = .ok lostCall := by decide +kernel
    have apart : KeepsApart lostCall.sink lostScan := {
      output := fun _ absent => nomatch absent
      journal := fun _ absent => nomatch absent }
    obtain ⟨fails, scans⟩ := lost_fails
    exact fails ((exits lostWords filedShop lostCall lostScan read rfl apart).mpr ⟨rfl, scans⟩)

end CatalogDelta.Command
