import CatalogDelta.Proofs.Watermark.Store

/-!
# Damaged watermark files

A file of any bytes is either understood as a whole, or counts as empty with one warning, or makes
the loading fail. It fails if a proper urn comes with an infinite number before anything else is
wrong with the entries. Main statement: `load_outcome`.
-/

namespace CatalogDelta.Ledger

/-- A value stands for a whole number: a float for its whole part, a text for the one it writes. -/
inductive Denotes : Json.Value → Int → Prop
  | int (millis : Int) : Denotes (.int millis) millis
  | float {value : Float} {millis : Int}
      (whole : (Decimal.Reading.ofFloat value).truncate? = some millis) :
      Denotes (.float value) millis
  | text {content : String} {millis : Int}
      (writes : Decimal.parseInteger content.toList = .ok millis) :
      Denotes (.text (.ofText content)) millis

/-- A value is an infinite number, which has no whole part. -/
def IsInfinite (value : Json.Value) : Prop :=
  ∃ number negative, value = .float number ∧ Decimal.Reading.ofFloat number = .infinite negative

/-- An entry of a file gives the watermark of a label. -/
structure Names (entry : Points × Json.Value) (mark : Label × Int) : Prop where
  urn : Label.ofUrn? entry.1 = some mark.1
  value : Denotes entry.2 mark.2

/-- Whether an infinite number is negative. -/
def infinity? : Json.Value → Option Bool
  | .float number =>
    match Decimal.Reading.ofFloat number with
    | .infinite negative => some negative
    | _ => none
  | _ => none

theorem isInfinite_iff {value : Json.Value} : IsInfinite value ↔ (infinity? value).isSome = true := by
  constructor
  · rintro ⟨number, negative, rfl, read⟩
    rw [infinity?, read]
    rfl
  · intro some
    unfold infinity? at some
    split at some
    · split at some
      · exact ⟨_, _, rfl, ‹_›⟩
      · contradiction
    · contradiction

instance (value : Json.Value) : Decidable (IsInfinite value) := decidable_of_iff _ isInfinite_iff.symm

/-- Some entry has a proper urn and an infinite number, and nothing is wrong with those before. -/
inductive Overflows : List (Points × Json.Value) → Prop
  | here {urn : Points} {label : Label} {value : Json.Value} {others : List (Points × Json.Value)}
      (named : Label.ofUrn? urn = some label) (infinite : IsInfinite value) :
      Overflows ((urn, value) :: others)
  | later {entry : Points × Json.Value} {mark : Label × Int}
      {others : List (Points × Json.Value)} (names : Names entry mark)
      (overflows : Overflows others) : Overflows (entry :: others)

/-- The entries in a document: it has to be an object, and what it holds under `watermarks` too,
unless that does not count as present. -/
def entriesIn? : Json.Value → Option (List (Points × Json.Value))
  | .map members =>
    match OrderedMap.get? (.ofText "watermarks") members with
    | none => some []
    | some (.map entries) => some entries
    | some other => if other.isTruthy then none else some []
  | _ => none

/-- The entries in the JSON document that a text writes. -/
def entriesOf? (text : String) : Option (List (Points × Json.Value)) :=
  match Json.read text.toList with
  | .ok document => entriesIn? document
  | .error _ => none

/-- The bytes of a file hold a text with these entries. -/
def Lists (bytes : ByteArray) (entries : List (Points × Json.Value)) : Prop :=
  ∃ text, Encoding.decode bytes = .ok text ∧ entriesOf? text = some entries

/-- The bytes of a file hold entries that give these watermarks. -/
def Holds (bytes : ByteArray) (marks : List (Label × Int)) : Prop :=
  ∃ entries, Lists bytes entries ∧ List.Forall₂ Names entries marks

/-- The bytes of a file hold entries that run into an infinite number. -/
def RunsOver (bytes : ByteArray) : Prop := ∃ entries, Lists bytes entries ∧ Overflows entries

/-- What is said of an infinite number. -/
def boundless : Fault := .outOfRange "cannot convert float infinity to integer"

/-- A fault makes a file count as empty. -/
def IsIgnorable (fault : Fault) : Prop := ignorableKinds.any fault.kind.isA = true

theorem isIgnorable_misuse_iff {kind : FaultKind} {message : String} :
    IsIgnorable (.misuse kind message) ↔ ignorableKinds.any kind.isA = true := Iff.rfl

theorem isIgnorable_invalidValue (message : String) : IsIgnorable (.invalidValue message) :=
  isIgnorable_misuse_iff.mpr (by decide)

theorem not_isIgnorable_boundless : ¬IsIgnorable boundless :=
  isIgnorable_misuse_iff.not.mpr (by decide)

section Values

variable {label : Label} {value : Json.Value}

theorem valueOf_of_denotes {millis : Int} (denotes : Denotes value millis) :
    valueOf label value = .ok millis := by
  cases denotes with
  | int millis => rfl
  | @float number millis whole =>
    change Data.integerOfFloat number = _
    unfold Data.integerOfFloat
    cases read : Decimal.Reading.ofFloat number with
    | finite negative size =>
      rw [read, Decimal.Reading.truncate?, Option.some.injEq] at whole
      rw [← whole]
    | infinite negative =>
      rw [read] at whole
      contradiction
    | notANumber =>
      rw [read] at whole
      contradiction
  | @text content millis writes =>
    unfold valueOf
    dsimp only
    rw [Points.text?_ofText]
    change Data.integerOfText content = _
    unfold Data.integerOfText
    rw [writes]

theorem valueOf_of_infinite (infinite : IsInfinite value) :
    valueOf label value = .error boundless := by
  obtain ⟨number, negative, rfl, read⟩ := infinite
  change Data.integerOfFloat number = _
  unfold Data.integerOfFloat
  rw [read]
  rfl

/-- A value stands for a whole number, or is infinite, or is not a watermark at all. -/
theorem valueOf_cases (label : Label) (value : Json.Value) :
    (∃ millis, Denotes value millis) ∨ IsInfinite value ∨
      ∃ message, valueOf label value = .error (.invalidValue message) := by
  cases value with
  | int millis => exact .inl ⟨millis, .int millis⟩
  | float number =>
    cases read : Decimal.Reading.ofFloat number with
    | finite negative size =>
      exact .inl ⟨_, .float (congrArg Decimal.Reading.truncate? read)⟩
    | infinite negative => exact .inr (.inl ⟨number, negative, rfl, read⟩)
    | notANumber =>
      refine .inr (.inr ⟨"cannot convert float NaN to integer", ?_⟩)
      change Data.integerOfFloat number = _
      unfold Data.integerOfFloat
      rw [read]
  | text content =>
    cases ordinary : Points.text? content with
    | none =>
      refine .inr (.inr ?_)
      unfold valueOf
      dsimp only
      rw [ordinary]
      exact ⟨_, rfl⟩
    | some text =>
      obtain rfl := Points.text?_eq_some_iff.mp ordinary
      cases read : Decimal.parseInteger text.toList with
      | ok millis => exact .inl ⟨millis, .text read⟩
      | error problem =>
        refine .inr (.inr ⟨problem.message text, ?_⟩)
        unfold valueOf
        dsimp only
        rw [ordinary]
        change Data.integerOfText text = _
        unfold Data.integerOfText
        rw [read]
  | null => exact .inr (.inr ⟨_, rfl⟩)
  | bool _ => exact .inr (.inr ⟨_, rfl⟩)
  | list _ => exact .inr (.inr ⟨_, rfl⟩)
  | map _ => exact .inr (.inr ⟨_, rfl⟩)

end Values

section Entries

variable {entries : List (Points × Json.Value)}

theorem readEntry_eq {entry : Points × Json.Value} {label : Label}
    (named : Label.ofUrn? entry.1 = some label) :
    readEntry entry = (valueOf label entry.2).map (label, ·) := by
  unfold readEntry
  rw [ofUrn_of_some named]
  change (valueOf label entry.2 >>= fun millis => _) = _
  cases valueOf label entry.2 <;> rfl

theorem readEntry_of_names {entry : Points × Json.Value} {mark : Label × Int}
    (names : Names entry mark) : readEntry entry = .ok mark := by
  rw [readEntry_eq names.urn, valueOf_of_denotes names.value]
  rfl

/-- Entries that give watermarks are read as these, the later of two for one label. -/
theorem readOnto_of_names {marks : List (Label × Int)} (names : List.Forall₂ Names entries marks)
    (found : Ledger) :
    OrderedMap.readOnto readEntry found entries = .ok (OrderedMap.putAll found marks) :=
  OrderedMap.readOnto_of_forall₂ (names.imp fun _ _ => readEntry_of_names) found

theorem readOnto_of_overflows (overflows : Overflows entries) (found : Ledger) :
    OrderedMap.readOnto readEntry found entries = .error boundless := by
  induction overflows generalizing found with
  | @here urn label value others named infinite =>
    have failed : readEntry (urn, value) = .error boundless := by
      rw [readEntry_eq named, valueOf_of_infinite infinite]
      rfl
    exact OrderedMap.readOnto_cons_of_error failed found others
  | later names _ ih =>
    rw [OrderedMap.readOnto_cons_of_ok (readEntry_of_names names)]
    exact ih _

/-- Entries all give watermarks, or run into an infinite number, or are rejected. -/
theorem readOnto_cases (entries : List (Points × Json.Value)) (found : Ledger) :
    (∃ marks, List.Forall₂ Names entries marks) ∨ Overflows entries ∨
      ∃ message, OrderedMap.readOnto readEntry found entries = .error (.invalidValue message) := by
  induction entries generalizing found with
  | nil => exact .inl ⟨[], .nil⟩
  | cons entry others ih =>
    obtain ⟨urn, value⟩ := entry
    cases named : Label.ofUrn? urn with
    | none =>
      have unread : Label.ofUrn? (urn, value).1 = none := named
      obtain ⟨message, failed⟩ := readEntry_of_unread unread
      exact .inr (.inr ⟨message, OrderedMap.readOnto_cons_of_error failed found others⟩)
    | some label =>
      rcases valueOf_cases label value with ⟨millis, denotes⟩ | infinite | ⟨message, rejected⟩
      · have first : Names (urn, value) (label, millis) := ⟨named, denotes⟩
        rcases ih (OrderedMap.put label millis found) with
          ⟨marks, names⟩ | overflows | ⟨message, rejected⟩
        · exact .inl ⟨_, .cons first names⟩
        · exact .inr (.inl (.later first overflows))
        · refine .inr (.inr ⟨message, ?_⟩)
          rw [OrderedMap.readOnto_cons_of_ok (readEntry_of_names first)]
          exact rejected
      · exact .inr (.inl (.here named infinite))
      · have failed : readEntry (urn, value) = .error (.invalidValue message) := by
          rw [readEntry_eq named, rejected]
          rfl
        exact .inr (.inr ⟨message, OrderedMap.readOnto_cons_of_error failed found others⟩)

end Entries

section Texts

variable {text : String} {document : Json.Value} {entries : List (Points × Json.Value)}

/-- The entries of a document as they are taken out of it. -/
def entriesFrom (document : Json.Value) : Except Fault (List (Points × Json.Value)) := do
  let stored ← document.member "watermarks"
  if stored.isTruthy then stored.members else pure []

/-- Entries are taken out of a document that has some, and asking another one for them fails. -/
theorem entriesFrom_cases (document : Json.Value) :
    (∃ entries, entriesIn? document = some entries ∧ entriesFrom document = .ok entries) ∨
      entriesIn? document = none ∧
        ∃ typeName name, entriesFrom document = .error (.memberless typeName name) := by
  cases document with
  | map members =>
    cases stored : OrderedMap.get? (.ofText "watermarks") members with
    | none =>
      refine .inl ⟨[], ?_, ?_⟩
      · simp only [entriesIn?, stored]
      · simp only [entriesFrom, Json.Value.member, stored]
        rfl
    | some value =>
      have from_eq : entriesFrom (.map members) =
          if value.isTruthy then value.members else pure [] := by
        simp only [entriesFrom, Json.Value.member, stored]
        rfl
      rw [from_eq]
      cases value with
      | map entries =>
        refine .inl ⟨entries, ?_, ?_⟩
        · simp only [entriesIn?, stored]
        · cases entries with
          | nil => rfl
          | cons _ _ => rfl
      | _ =>
        simp only [entriesIn?, stored]
        split
        · exact .inr ⟨rfl, _, _, rfl⟩
        · exact .inl ⟨[], rfl, rfl⟩
  | _ => exact .inr ⟨rfl, _, _, rfl⟩

theorem ofText_eq (stored : Json.read text.toList = .ok document) :
    ∃ stamp, ofText text =
      (entriesFrom document >>= fun entries => (read entries).map (·, stamp)) := by
  refine ⟨(document.member? "updated_at").getD (.text (.ofText "unknown")), ?_⟩
  unfold ofText
  rw [stored]
  dsimp only
  have understood (entries : List (Points × Json.Value)) (stamp : Json.Value) :
      (do return (← read entries, stamp)) = (read entries).map (·, stamp) := by
    cases read entries with
    | error fault => rfl
    | ok found => rfl
  unfold entriesFrom
  cases document.member "watermarks" with
  | error fault => rfl
  | ok value =>
    change (if value.isTruthy then _ else _) = (if value.isTruthy then _ else _) >>= _
    by_cases present : value.isTruthy = true
    · simp only [present, ↓reduceIte]
      cases value.members with
      | error fault => rfl
      | ok entries => exact understood entries _
    · simp only [present, Bool.false_eq_true, ↓reduceIte]
      exact understood [] _

/-- What a text with certain entries is understood as. -/
theorem ofText_of_some (listed : entriesOf? text = some entries) :
    ∃ stamp, ofText text = (read entries).map (·, stamp) := by
  unfold entriesOf? at listed
  split at listed
  · rename_i document stored
    obtain ⟨stamp, understood⟩ := ofText_eq stored
    rcases entriesFrom_cases document with ⟨inside, found, taken⟩ | ⟨none, _⟩
    · rw [listed, Option.some.injEq] at found
      subst found
      exact ⟨stamp, by rw [understood, taken]; rfl⟩
    · rw [none] at listed
      contradiction
  · contradiction

/-- A text without entries is rejected. -/
theorem ofText_of_none (unlisted : entriesOf? text = none) :
    ∃ fault, ofText text = .error fault ∧ IsIgnorable fault := by
  unfold entriesOf? at unlisted
  split at unlisted
  · rename_i document stored
    obtain ⟨stamp, understood⟩ := ofText_eq stored
    rcases entriesFrom_cases document with ⟨inside, found, _⟩ | ⟨_, typeName, name, failed⟩
    · rw [found] at unlisted
      contradiction
    · refine ⟨.memberless typeName name, ?_, isIgnorable_misuse_iff.mpr (by decide)⟩
      rw [understood, failed]
      rfl
  · rename_i stop stopped
    refine ⟨_, ?_, isIgnorable_invalidValue (stop.message text.toList)⟩
    unfold ofText
    rw [stopped]
    rfl

end Texts

section Bytes

variable {bytes : ByteArray} {marks : List (Label × Int)}

theorem understood_of_holds (holds : Holds bytes marks) :
    ∃ stamp, (Encoding.decode bytes >>= ofText) = .ok (OrderedMap.ofList marks, stamp) := by
  obtain ⟨entries, ⟨text, decoded, listed⟩, names⟩ := holds
  obtain ⟨stamp, understood⟩ := ofText_of_some listed
  refine ⟨stamp, ?_⟩
  rw [decoded]
  change ofText text = _
  rw [understood, read, readOnto_of_names names]
  rfl

theorem understood_of_runsOver (excess : RunsOver bytes) :
    (Encoding.decode bytes >>= ofText) = .error boundless := by
  obtain ⟨entries, ⟨text, decoded, listed⟩, overflows⟩ := excess
  obtain ⟨stamp, understood⟩ := ofText_of_some listed
  rw [decoded]
  change ofText text = _
  rw [understood, read, readOnto_of_overflows overflows]
  rfl

/-- Bytes that neither hold watermarks nor run over are rejected. -/
theorem understood_of_neither (unheld : ¬∃ marks, Holds bytes marks) (bounded : ¬RunsOver bytes) :
    ∃ fault, (Encoding.decode bytes >>= ofText) = .error fault ∧ IsIgnorable fault := by
  cases decoded : Encoding.decode bytes with
  | error fault =>
    unfold Encoding.decode at decoded
    split at decoded
    · contradiction
    · cases decoded
      exact ⟨_, rfl, isIgnorable_misuse_iff.mpr (by decide)⟩
  | ok text =>
    change ∃ fault, ofText text = .error fault ∧ IsIgnorable fault
    cases listed : entriesOf? text with
    | none => exact ofText_of_none listed
    | some entries =>
      have lists : Lists bytes entries := ⟨text, decoded, listed⟩
      obtain ⟨stamp, understood⟩ := ofText_of_some listed
      rcases readOnto_cases entries [] with ⟨marks, names⟩ | overflows | ⟨message, rejected⟩
      · exact absurd ⟨marks, entries, lists, names⟩ unheld
      · exact absurd ⟨entries, lists, overflows⟩ bounded
      · refine ⟨_, ?_, isIgnorable_invalidValue message⟩
        rw [understood, read, rejected]
        rfl

end Bytes

section Acts

variable {σ : Type} {access : FileAccess σ} {stage : Stage σ} {path : Path} {bytes : ByteArray}
  {text : String}

theorem there_of_kept
    (kept : OrderedMap.get? path.key (access.files stage.outside).contents = some bytes) :
    (access.files stage.outside).isThere path = true ∧
      (access.files stage.outside).readText path = Encoding.decode bytes := by
  unfold Files.isThere Files.isFile OrderedMap.hasKey Files.readText Files.readBytes
  rw [kept]
  exact ⟨rfl, rfl⟩

/-- Loading warns of a fault that makes a file count as empty, and fails with any other. -/
theorem runOn_load_of_fault {fault : Fault}
    (kept : OrderedMap.get? path.key (access.files stage.outside).contents = some bytes)
    (failed : (Encoding.decode bytes >>= ofText) = .error fault) :
    (IsIgnorable fault → ∃ message,
      Act.runOn (load access path) stage = (.ok [], noted stage .warning message)) ∧
    (¬IsIgnorable fault → Act.runOn (load access path) stage = (.error fault, stage)) := by
  obtain ⟨there, read⟩ := there_of_kept kept
  have reading : Act.runOn (do Act.settle (ofText (← access.readText path))) stage =
      (.error fault, stage) := by
    rw [Act.runOn_bind, FileAccess.runOn_readText, read, ← failed]
    cases Encoding.decode bytes with
    | error fault => rfl
    | ok text => exact Act.runOn_settle _ _
  unfold load
  simp only [Act.runOn_bind, FileAccess.runOn_isThere, there, Bool.not_true, Bool.false_eq_true,
    ↓reduceIte, Act.runOn_attempt, reading]
  constructor
  · intro ignorable
    unfold IsIgnorable at ignorable
    simp only [ignorable, ↓reduceIte, Act.runOn_bind, Act.runOn_note, Act.runOn_pure]
    exact ⟨_, rfl⟩
  · intro grave
    unfold IsIgnorable at grave
    simp only [grave, Bool.false_eq_true, ↓reduceIte, Act.runOn_throw]

theorem runOn_load_of_understood {found : Ledger} {updated : Json.Value}
    (kept : OrderedMap.get? path.key (access.files stage.outside).contents = some bytes)
    (understood : (Encoding.decode bytes >>= ofText) = .ok (found, updated)) :
    ∃ message, Act.runOn (load access path) stage = (.ok found, noted stage .debug message) := by
  obtain ⟨there, read⟩ := there_of_kept kept
  cases decoded : Encoding.decode bytes with
  | error fault =>
    rw [decoded] at understood
    contradiction
  | ok text =>
    rw [decoded] at read understood
    exact runOn_load_of_ok there read understood

/-- **A file of any bytes is loaded in one of three ways.** If its entries run into an infinite
number, the loading fails and nothing has been noted. Otherwise, if not all of the file is
understood, it counts as empty, with one warning. A file that holds watermarks is loaded as these,
the later of two for one name, with no warning; and nothing else is ever loaded but the empty map. -/
theorem load_outcome
    (kept : OrderedMap.get? path.key (access.files stage.outside).contents = some bytes) :
    (RunsOver bytes → Act.runOn (load access path) stage = (.error boundless, stage)) ∧
    ((¬∃ marks, Holds bytes marks) → ¬RunsOver bytes → ∃ message,
      Act.runOn (load access path) stage = (.ok [], noted stage .warning message)) ∧
    (∀ marks, Holds bytes marks → ∃ message,
      Act.runOn (load access path) stage =
        (.ok (OrderedMap.ofList marks), noted stage .debug message)) ∧
    (∀ found, (Act.runOn (load access path) stage).1 = .ok found → found ≠ [] →
      ∃ marks, Holds bytes marks ∧ found = OrderedMap.ofList marks) := by
  refine ⟨fun excess => ?_, fun unheld bounded => ?_, fun marks holds => ?_,
    fun found loaded some => ?_⟩
  · exact (runOn_load_of_fault kept (understood_of_runsOver excess)).2 not_isIgnorable_boundless
  · obtain ⟨fault, rejected, ignorable⟩ := understood_of_neither unheld bounded
    exact (runOn_load_of_fault kept rejected).1 ignorable
  · obtain ⟨stamp, understood⟩ := understood_of_holds holds
    exact runOn_load_of_understood kept understood
  · by_cases held : ∃ marks, Holds bytes marks
    · obtain ⟨marks, holds⟩ := held
      obtain ⟨stamp, understood⟩ := understood_of_holds holds
      obtain ⟨message, same⟩ := runOn_load_of_understood kept understood
      rw [same] at loaded
      exact ⟨marks, holds, (Except.ok.inj loaded).symm⟩
    · by_cases excess : RunsOver bytes
      · have understood := understood_of_runsOver excess
        rw [(runOn_load_of_fault kept understood).2 not_isIgnorable_boundless] at loaded
        contradiction
      · obtain ⟨fault, rejected, ignorable⟩ := understood_of_neither held excess
        obtain ⟨message, same⟩ := (runOn_load_of_fault kept rejected).1 ignorable
        rw [same] at loaded
        exact absurd (Except.ok.inj loaded).symm some

/-- Names that differ in half a surrogate pair are two names. -/
example :
    (ofText "\x7b\"watermarks\": \x7b\"a@\\ud800\": 4, \"a@\\ud801\": 5\x7d\x7d").toOption.map
      (fun found => OrderedMap.values found.1) = some [4, 5] := by
  decide +kernel

end Acts

/-- A file with an infinite watermark. -/
def endless : String := "\x7b\"watermarks\": \x7b\"sales@orders\": Infinity\x7d\x7d"

/-- A site with that file, before anything has happened. -/
def atEndless : Stage Site where
  outside := { files := { contents := [("marks.json", Encoding.encode endless)] } }

/-- The text has one entry, and its value is infinite. -/
theorem entriesOf?_endless : ∃ value,
    entriesOf? endless = some [(.ofText "sales@orders", value)] ∧ IsInfinite value := by
  have shape : ((entriesOf? endless).map fun entries =>
      entries.map fun entry => (entry.1, decide (IsInfinite entry.2))) =
        some [(.ofText "sales@orders", true)] := by
    decide +kernel
  obtain ⟨entries, listed, each⟩ := Option.map_eq_some_iff.mp shape
  obtain ⟨⟨urn, value⟩, others, rfl, first, none⟩ := List.map_eq_cons_iff.mp each
  obtain rfl := List.map_eq_nil_iff.mp none
  obtain ⟨rfl, infinite⟩ := Prod.mk.inj first
  exact ⟨value, listed, of_decide_eq_true infinite⟩

theorem runsOver_endless : RunsOver (Encoding.encode endless) := by
  have unreturned : '\r' ∉ endless.toList := by decide
  have named : Label.ofUrn? (.ofText "sales@orders") =
      some (.ofDataset ⟨"sales", "orders"⟩) := by
    decide
  obtain ⟨value, listed, infinite⟩ := entriesOf?_endless
  exact ⟨_, ⟨endless, Encoding.decode_encode unreturned, listed⟩, .here named infinite⟩

theorem kept_endless : OrderedMap.get? (Path.key ⟨false, ["marks.json"]⟩)
    (Site.fileAccess.files atEndless.outside).contents = some (Encoding.encode endless) := by
  have key_eq : Path.key ⟨false, ["marks.json"]⟩ = "marks.json" := by decide
  rw [key_eq]
  rfl

theorem endless_loaded :
    RunsOver (Encoding.encode endless) ∧
      Act.runOn (load Site.fileAccess ⟨false, ["marks.json"]⟩) atEndless =
        (.error boundless, atEndless) :=
  ⟨runsOver_endless, (load_outcome kept_endless).1 runsOver_endless⟩

/-- **Not every file is loaded**: an infinite watermark stops the host, although its file only has
to count as empty. -/
theorem not_every_file_loads :
    ¬∀ (stage : Stage Site) (path : Path) (bytes : ByteArray),
      OrderedMap.get? path.key stage.outside.files.contents = some bytes →
        ∃ found, (Act.runOn (load Site.fileAccess path) stage).1 = .ok found := by
  intro all
  obtain ⟨found, loaded⟩ := all atEndless _ _ kept_endless
  have understood := understood_of_runsOver runsOver_endless
  rw [(runOn_load_of_fault kept_endless understood).2 not_isIgnorable_boundless] at loaded
  contradiction

end CatalogDelta.Ledger
