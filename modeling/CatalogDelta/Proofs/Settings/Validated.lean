import CatalogDelta.Proofs.OrderedMap
import CatalogDelta.Proofs.Selector
import CatalogDelta.Proofs.Settings.Usual
import CatalogDelta.Settings.Basic

/-!
# Settings that have been validated

Settings are validated before anything is built from them. What the validation has looked at can be
built: the window, the patterns and the kind of source. It does not look into the patterns of
exclusions, nor at the names of options.
-/

namespace CatalogDelta

open Act (exists_of_bind_eq_ok mapError_eq_ok_iff)

/-! ## Sources of update times and references -/

/-- The names of the sources are in their normal form. -/
theorem UpdateTimeSource.normalName_of_mem {name : String} (known : name ∈ names) :
    normalName name = name := by
  have all : ∀ name ∈ names, normalName name = name := by decide +kernel
  exact all name known

/-- A source that is known can be had unless an option takes a name that is taken. -/
theorem UpdateTimeSource.exists_ofName_iff {name : String} (known : name ∈ names)
    (options : List (String × Data)) :
    (∃ source, ofName name options = .ok source) ↔
      ∀ taken ∈ ["kind", "self"], taken ∉ OrderedMap.keys options := by
  have found : ∃ source, ofNormalName? (normalName name) options = some source := by
    rw [normalName_of_mem known]
    simp only [names, List.mem_cons, List.not_mem_nil, or_false] at known
    rcases known with rfl | rfl | rfl
    · exact ⟨_, rfl⟩
    · exact ⟨_, rfl⟩
    · exact ⟨_, rfl⟩
  obtain ⟨source, found⟩ := found
  simp only [List.forall_mem_cons, List.not_mem_nil, false_implies, implies_true, and_true,
    ← OrderedMap.hasKey_iff_mem_keys]
  unfold ofName
  by_cases kind : OrderedMap.hasKey "kind" options
  · rw [if_pos kind]
    exact iff_of_false (fun ⟨_, same⟩ => nomatch same) fun free => free.1 kind
  · by_cases self : OrderedMap.hasKey "self" options
    · simp only [if_neg kind, found, if_pos self]
      exact iff_of_false (fun ⟨_, same⟩ => nomatch same) fun free => free.2 self
    · simp only [if_neg kind, found, if_neg self]
      exact iff_of_true ⟨_, rfl⟩ ⟨kind, self⟩

example : UpdateTimeSource.ofName "metastore" [("kind", .text "s3")] =
    .error (UpdateTimeSource.misplacedOption "kind") := rfl

/-- A text without a sign for references is left as it is. -/
theorem Environment.expandText_of_not_mem (environment : Environment) {text : String}
    (plain : '$' ∉ text.toList) : environment.expandText text = text := by
  have divided (chars : List Char) (free : '$' ∉ chars) : divide chars = chars.map .plain := by
    induction chars with
    | nil => rw [divide, List.map_nil]
    | cons c rest ih =>
      rw [List.mem_cons, not_or] at free
      rw [divide, if_neg (Ne.symm free.1), ih free.2, List.map_cons]
  unfold expandText
  rw [divided _ plain, List.flatMap_map]
  change String.ofList (text.toList.flatMap fun c => [c]) = text
  rw [List.flatMap_singleton', String.ofList_toList]

/-! ## What the validation has looked at -/

namespace Settings

/-- What each setting that is validated keeps to. -/
structure Sound (settings : Settings) : Prop where
  databases : NamePattern.IsReadable settings.databasePattern
  tables : NamePattern.IsReadable settings.tablePattern
  exclusions : ∀ entry ∈ settings.excludedTables, '.' ∈ entry.toList
  lookback : ∃ window, Duration.parse settings.lookback = .ok window
  sourceName : settings.sourceName ∈ UpdateTimeSource.names
  tableWorkers : 1 ≤ settings.tableWorkers
  partitionWorkers : 1 ≤ settings.partitionWorkers
  connections : 1 ≤ settings.connections
  acquireTimeout : ∀ seconds ∈ settings.acquireTimeout, ¬ seconds ≤ 0
  catalogRetry : ∀ retry ∈ settings.catalogRetry, 1 ≤ retry.maxAttempts ∧ ¬ retry.backoff < 0

theorem readable_of_patternRule {text pattern : String} (checked : patternRule text = .ok pattern) :
    NamePattern.IsReadable pattern := by
  unfold patternRule at checked
  obtain ⟨parsed, found, same⟩ := exists_of_bind_eq_ok checked
  cases same
  exact (NamePattern.exists_parse_iff text).mp ⟨parsed, mapError_eq_ok_iff.mp found⟩

theorem pointed_of_exclusionsRule {given entries : List String}
    (checked : exclusionsRule given = .ok entries) : ∀ entry ∈ entries, '.' ∈ entry.toList := by
  unfold exclusionsRule at checked
  split at checked
  · exact nomatch checked
  · rename_i none
    cases checked
    intro entry member
    have dotted := List.find?_eq_none.mp none entry member
    simpa only [Bool.not_eq_true', Bool.not_eq_false, List.contains_iff_mem] using dotted

theorem parsed_of_lookbackRule {given : Option Data} {value : Data}
    (checked : lookbackRule given = .ok value) : ∃ window, Duration.parse value = .ok window := by
  unfold lookbackRule at checked
  obtain ⟨window, found, same⟩ := exists_of_bind_eq_ok checked
  cases same
  exact ⟨window, mapError_eq_ok_iff.mp found⟩

theorem known_of_sourceRule {given name : String} (checked : sourceRule given = .ok name) :
    name ∈ UpdateTimeSource.names := by
  unfold sourceRule at checked
  dsimp only at checked
  split at checked
  · rename_i known
    cases checked
    exact List.contains_iff_mem.mp known
  · exact nomatch checked

section Filled

variable {validation : Validation}

/-- A field means its default or what its rule makes of something within the bounds. -/
theorem of_fieldMeans (lawful : validation.Lawful) {α β : Type} {declared : Declared α}
    {rule : α → Except Fault β} {default value : β} {written : Option Data} (Fits : β → Prop)
    (means : Form.FieldMeans validation.read declared rule default written value)
    (usual : Fits default)
    (ruled : ∀ given, declared.Keeps given → rule given = .ok value → Fits value) : Fits value := by
  unfold Form.FieldMeans at means
  split at means
  · rw [means]
    exact usual
  · obtain ⟨given, taken, checked⟩ := means
    exact ruled given (lawful.keeps taken) checked

/-- A field that no rule checks means its default or something within the bounds. -/
theorem of_plainMeans (lawful : validation.Lawful) {α : Type} {declared : Declared α}
    {default value : α} {written : Option Data} (Fits : α → Prop)
    (means : Form.FieldMeans validation.read declared .ok default written value)
    (usual : Fits default) (bounded : declared.Keeps value → Fits value) : Fits value := by
  refine of_fieldMeans lawful Fits means usual fun given keeps same => ?_
  cases same
  exact bounded keeps

theorem of_innerMeans {α : Type} {means : List (String × Data) → α → Prop} {written : Option Data}
    {value : Option α} (filled : Form.InnerMeans means written value) :
    ∀ given ∈ value, ∃ inside, means inside given := by
  unfold Form.InnerMeans at filled
  split at filled
  · rw [filled]
    exact fun _ member => nomatch member
  · rw [filled]
    exact fun _ member => nomatch member
  · obtain ⟨inside, given, -, means, rfl⟩ := filled
    rintro _ ⟨⟩
    exact ⟨inside, means⟩

theorem retry_of_means (lawful : validation.Lawful) {entries : List (String × Data)}
    {retry : RetrySettings} (means : retryForm.Means validation.read entries retry) :
    1 ≤ retry.maxAttempts ∧ ¬ retry.backoff < 0 := by
  obtain ⟨_, _, ⟨_, _, rfl, attempts, rfl⟩, backoff, rfl⟩ := means
  exact ⟨of_plainMeans lawful (1 ≤ ·) attempts (by decide) id,
    of_plainMeans lawful (¬ · < 0) backoff (by decide) id⟩

theorem sound_of_means (lawful : validation.Lawful) {entries : List (String × Data)}
    {settings : Settings} (means : form.Means validation.read entries settings) :
    Sound settings := by
  -- One setting after the other is taken off the end.
  obtain ⟨_, _, upToCatalog, retry, rfl⟩ := means
  obtain ⟨_, _, upToTimeout, -, rfl⟩ := upToCatalog
  obtain ⟨_, _, upToConnections, timeout, rfl⟩ := upToTimeout
  obtain ⟨_, _, upToPartitions, connections, rfl⟩ := upToConnections
  obtain ⟨_, _, upToTables, partitions, rfl⟩ := upToPartitions
  obtain ⟨_, _, upToIgnored, tables, rfl⟩ := upToTables
  obtain ⟨_, _, upToStrict, -, rfl⟩ := upToIgnored
  obtain ⟨_, _, upToOptions, -, rfl⟩ := upToStrict
  obtain ⟨_, _, upToSource, -, rfl⟩ := upToOptions
  obtain ⟨_, _, upToInclusive, source, rfl⟩ := upToSource
  obtain ⟨_, _, upToLookback, -, rfl⟩ := upToInclusive
  obtain ⟨_, _, upToExclusions, lookback, rfl⟩ := upToLookback
  obtain ⟨_, _, upToPatterns, exclusions, rfl⟩ := upToExclusions
  obtain ⟨_, _, upToDatabase, table, rfl⟩ := upToPatterns
  obtain ⟨_, _, rfl, database, rfl⟩ := upToDatabase
  have everything : NamePattern.IsReadable "*" := fun marked => absurd marked (by decide)
  exact {
    databases := of_fieldMeans lawful _ database everything fun _ _ => readable_of_patternRule
    tables := of_fieldMeans lawful _ table everything fun _ _ => readable_of_patternRule
    exclusions := of_fieldMeans lawful (∀ entry ∈ ·, '.' ∈ entry.toList) exclusions
      (fun _ member => nomatch member) fun _ _ => pointed_of_exclusionsRule
    lookback := of_fieldMeans lawful (∃ window, Duration.parse · = .ok window) lookback ⟨none, rfl⟩
      fun _ _ => parsed_of_lookbackRule
    sourceName := of_fieldMeans lawful (· ∈ UpdateTimeSource.names) source (by decide)
      fun _ _ => known_of_sourceRule
    tableWorkers := of_plainMeans lawful (1 ≤ ·) tables (by decide) id
    partitionWorkers := of_plainMeans lawful (1 ≤ ·) partitions (by decide) id
    connections := of_plainMeans lawful (1 ≤ ·) connections (by decide) id
    acquireTimeout := of_plainMeans lawful (∀ seconds ∈ ·, ¬ seconds ≤ 0) timeout (by decide) id
    catalogRetry := fun retried member =>
      have ⟨_, means⟩ := of_innerMeans retry retried member
      retry_of_means lawful means }

theorem means_of_settle (lawful : validation.Lawful) {α : Type} {form : Form α}
    {entries : List (String × Data)} {meaning : α}
    (settled : validation.settle form entries = .ok meaning) :
    form.Means validation.read entries meaning := by
  obtain ⟨found, filled, settled⟩ := exists_of_bind_eq_ok settled
  cases found with
  | error issues => exact nomatch settled
  | ok given =>
    cases settled
    exact lawful.means filled

end Filled

/-! ## What can be built -/

/-- Each half of each exclusion is a pattern that can be read. -/
def ReadableExclusions (settings : Settings) : Prop :=
  ∀ entry ∈ settings.excludedTables, ∀ half ∈ Exclusion.halves entry, NamePattern.IsReadable half

/-- No option has a name that is taken. -/
def FreeOptions (settings : Settings) : Prop :=
  ∀ taken ∈ ["kind", "self"], taken ∉ OrderedMap.keys settings.sourceOptions

variable {settings : Settings}

theorem sound_of_ofDocument {validation : Validation} (lawful : validation.Lawful)
    {environment : Environment} {document : Data}
    (read : ofDocument validation environment document = .ok settings) : Sound settings := by
  obtain ⟨entries, -, settled⟩ := exists_of_bind_eq_ok read
  exact sound_of_means lawful (means_of_settle lawful settled)

theorem Sound.exists_policy (sound : Sound settings) :
    ∃ policy, settings.policy = .ok policy := by
  obtain ⟨window, found⟩ := sound.lookback
  refine ⟨⟨window, settings.lookbackInclusive⟩, ?_⟩
  rw [policy, Settings.window, found]
  rfl

theorem Sound.exists_selector_iff (sound : Sound settings) :
    (∃ selector, settings.selector = .ok selector) ↔ ReadableExclusions settings := by
  unfold selector
  rw [Selector.exists_parse_iff sound.databases sound.tables]
  exact forall₂_congr fun entry member => Exclusion.exists_parse_iff (sound.exclusions entry member)

theorem Sound.exists_source_iff (sound : Sound settings) :
    (∃ source, settings.source = .ok source) ↔ FreeOptions settings :=
  UpdateTimeSource.exists_ofName_iff sound.sourceName settings.sourceOptions

theorem Sound.exists_plan_iff (sound : Sound settings) :
    (∃ plan, settings.plan = .ok plan) ↔ ReadableExclusions settings ∧ FreeOptions settings := by
  rw [← sound.exists_selector_iff, ← sound.exists_source_iff]
  unfold plan
  constructor
  · rintro ⟨plan, made⟩
    obtain ⟨selector, selectorMade, made⟩ := exists_of_bind_eq_ok made
    obtain ⟨source, sourceMade, -⟩ := exists_of_bind_eq_ok made
    exact ⟨⟨selector, selectorMade⟩, ⟨source, sourceMade⟩⟩
  · rintro ⟨⟨selector, selectorMade⟩, ⟨source, sourceMade⟩⟩
    obtain ⟨policy, policyMade⟩ := sound.exists_policy
    rw [selectorMade, sourceMade, rules, policyMade]
    exact ⟨_, rfl⟩

/-- A plan has as many workers as the settings ask for. -/
theorem Sound.workers_of_plan (sound : Sound settings) {plan : Plan}
    (made : settings.plan = .ok plan) :
    plan.tableWorkers = settings.tableWorkers ∧
      plan.partitionWorkers = settings.partitionWorkers := by
  obtain ⟨selector, -, made⟩ := exists_of_bind_eq_ok made
  obtain ⟨source, -, made⟩ := exists_of_bind_eq_ok made
  obtain ⟨rules, -, made⟩ := exists_of_bind_eq_ok made
  cases made
  have tables := sound.tableWorkers
  have partitions := sound.partitionWorkers
  simp only [Scheduler.workers]
  omega

/-- **What validated settings are good for**, whatever the validation. They have a window. They have
a selector exactly if each half of each exclusion can be read, a source of update times exactly if
no option has a name that is taken, and a plan exactly if they have both; it has as many workers as
they ask for. -/
theorem validated_builds_iff {validation : Validation} (lawful : validation.Lawful)
    {environment : Environment} {document : Data}
    (read : ofDocument validation environment document = .ok settings) :
    (∃ policy, settings.policy = .ok policy) ∧
      ((∃ selector, settings.selector = .ok selector) ↔ ReadableExclusions settings) ∧
      ((∃ source, settings.source = .ok source) ↔ FreeOptions settings) ∧
      ((∃ plan, settings.plan = .ok plan) ↔ ReadableExclusions settings ∧ FreeOptions settings) ∧
      ∀ plan, settings.plan = .ok plan → plan.tableWorkers = settings.tableWorkers ∧
        plan.partitionWorkers = settings.partitionWorkers := by
  have sound := sound_of_ofDocument lawful read
  exact ⟨sound.exists_policy, sound.exists_selector_iff, sound.exists_source_iff,
    sound.exists_plan_iff, fun plan made => sound.workers_of_plan made⟩

/-- A document that has one exclusion. -/
def excluding (entry : String) : Data := .map [("exclude_tables", .list [.text entry])]

/-- An exclusion with a point passes the validation. -/
theorem ofDocument_excluding {entry : String} (plain : '$' ∉ entry.toList)
    (point : '.' ∈ entry.toList) :
    ofDocument .usual [] (excluding entry) = .ok { excludedTables := [entry] } := by
  have ruled : exclusionsRule [entry] = .ok [entry] := by
    have pointed : (!entry.toList.contains '.') = false := by
      rw [List.contains_iff_mem.mpr point]
      rfl
    simp only [exclusionsRule, List.find?_cons, pointed, List.find?_nil]
  have filled : Form.fillField "exclude_tables" .texts exclusionsRule []
      [("exclude_tables", .list [.text entry])] = .ok (.ok [entry]) := by
    change (Form.ruled exclusionsRule [entry]).map (Finding.under "exclude_tables") = _
    rw [Form.ruled, ruled]
    rfl
  have expanded : Environment.expandEntries [] [("exclude_tables", .list [.text entry])] =
      [("exclude_tables", .list [.text entry])] := by
    simp only [Environment.expandEntries, Environment.expand, Environment.expandItems,
      Environment.expandText_of_not_mem [] plain]
  change Validation.usual.settle form (Environment.expandEntries []
    [("exclude_tables", .list [.text entry])]) = _
  rw [expanded]
  unfold Validation.settle Validation.usual
  simp only [form, Form.plain, Form.fill, filled]
  rfl

/-- An exclusion of globs passes the validation, and there is a plan with it. -/
theorem excluding_globs_builds :
    ofDocument .usual [] (excluding "sales.tmp_*") = .ok { excludedTables := ["sales.tmp_*"] } ∧
      ∃ plan, ({ excludedTables := ["sales.tmp_*"] } : Settings).plan = .ok plan := by
  have read : ofDocument .usual [] (excluding "sales.tmp_*") =
      .ok { excludedTables := ["sales.tmp_*"] } :=
    ofDocument_excluding (by decide) (by decide)
  obtain ⟨-, -, -, builds, -⟩ := validated_builds_iff Validation.usual_lawful read
  refine ⟨read, builds.mpr ⟨fun entry member half inside marked => ?_, ?_⟩⟩
  · obtain rfl := List.mem_singleton.mp member
    have unmarked : ∀ half ∈ Exclusion.halves "sales.tmp_*", NamePattern.regexMark.toList.isPrefixOf
        (NamePattern.normalized (some half)).toList = false := by decide +kernel
    rw [unmarked half inside] at marked
    exact nomatch marked
  · exact fun _ _ member => nomatch member

/-- Not all that is validated can be built: the first point of an exclusion may lie inside an
expression, and then what stands before it need not be one. -/
theorem not_every_validated_builds :
    ¬ ∀ (environment : Environment) (document : Data) (settings : Settings),
      ofDocument .usual environment document = .ok settings →
        (∃ selector, settings.selector = .ok selector) ∧
          (∃ source, settings.source = .ok source) ∧
          (∃ policy, settings.policy = .ok policy) ∧ ∃ plan, settings.plan = .ok plan := by
  intro builds
  have read : ofDocument .usual [] (excluding "regex:(sales|hr)\\..*") =
      .ok { excludedTables := ["regex:(sales|hr)\\..*"] } :=
    ofDocument_excluding (by decide) (by decide)
  obtain ⟨⟨selector, made⟩, -⟩ := builds _ _ _ read
  have unmade : ({ excludedTables := ["regex:(sales|hr)\\..*"] } :
      Settings).selector.toOption.isSome = false := by decide +kernel
  rw [made] at unmade
  exact nomatch unmade

end Settings
end CatalogDelta
