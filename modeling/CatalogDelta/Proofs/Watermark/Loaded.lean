import CatalogDelta.Proofs.Files.Spared
import CatalogDelta.Proofs.Json.Bounded
import CatalogDelta.Proofs.Watermark.Load
import CatalogDelta.Proofs.Watermark.Basic

/-!
# Loaded watermarks can be stored

Watermarks that were loaded have distinct and proper labels that can be read again, and no number that
is too long for that. What is loaded depends on nothing but the bytes of the file. Main statements:
`isKeepable_of_loaded`, `load_agrees`.
-/

namespace CatalogDelta.Ledger

/-- Watermarks that are loaded again once they are stored. -/
structure IsKeepable (ledger : Ledger) : Prop where
  storable : ledger.IsStorable
  proper : ledger.AllProper

theorem isKeepable_nil : IsKeepable [] where
  storable := ⟨List.nodup_nil, fun _ member => absurd member List.not_mem_nil,
    fun _ member => absurd member List.not_mem_nil⟩
  proper := fun _ member => absurd member List.not_mem_nil

theorem isShort_of_denotes {value : Json.Value} {millis : Int} (bounded : Json.Bounded value)
    (denotes : Denotes value millis) : Decimal.IsShort millis := by
  cases denotes with
  | int =>
    cases bounded with
    | int short => exact short
  | float whole => exact Decimal.isShort_of_truncate? whole
  | text writes => exact Decimal.isShort_of_parseInteger writes

/-- The entries of a document are bounded. -/
theorem bounded_of_entriesOf? {text : String} {entries : List (Points × Json.Value)}
    (listed : entriesOf? text = some entries) : Json.Bounded (.map entries) := by
  have none : Json.Bounded (.map []) := .of_members fun _ member => absurd member List.not_mem_nil
  unfold entriesOf? at listed
  split at listed
  · rename_i document stored
    unfold entriesIn? at listed
    split at listed
    · rename_i members
      have members_bounded : ∀ entry ∈ members, Json.Bounded entry.2 := by
        cases Json.bounded_of_read stored with
        | map _ each => exact each
      split at listed
      · obtain rfl := Option.some.inj listed
        exact none
      · rename_i inside found
        obtain rfl := Option.some.inj listed
        exact members_bounded _ (OrderedMap.mem_of_get? found)
      · split at listed
        · contradiction
        · obtain rfl := Option.some.inj listed
          exact none
    · contradiction
  · contradiction

/-- Every watermark of a file comes from an entry. -/
theorem exists_names {entries : List (Points × Json.Value)} {marks : List (Label × Int)}
    (names : List.Forall₂ Names entries marks) {mark : Label × Int} (member : mark ∈ marks) :
    ∃ entry ∈ entries, Names entry mark := by
  induction names with
  | nil => exact absurd member List.not_mem_nil
  | cons first _ ih =>
    rcases List.mem_cons.mp member with rfl | later
    · exact ⟨_, List.mem_cons_self, first⟩
    · obtain ⟨entry, there, gives⟩ := ih later
      exact ⟨entry, List.mem_cons_of_mem _ there, gives⟩

/-- What a file holds can be stored. -/
theorem isKeepable_of_holds {bytes : ByteArray} {marks : List (Label × Int)}
    (holds : Holds bytes marks) : IsKeepable (OrderedMap.ofList marks) := by
  obtain ⟨entries, ⟨text, _, listed⟩, names⟩ := holds
  have given (mark : Label × Int) (member : mark ∈ OrderedMap.ofList marks) :
      ∃ entry ∈ entries, Names entry mark :=
    exists_names names (OrderedMap.mem_of_mem_ofList member)
  cases bounded_of_entriesOf? listed with
  | map named each =>
    refine ⟨⟨OrderedMap.nodup_keys_ofList marks, fun mark member => ?_, fun mark member => ?_⟩,
      fun mark member => ?_⟩
    · obtain ⟨entry, there, gives⟩ := given mark member
      rw [← (Label.of_ofUrn? gives.urn).2]
      exact named entry there
    · obtain ⟨entry, there, gives⟩ := given mark member
      exact isShort_of_denotes (each entry there) gives.value
    · obtain ⟨entry, there, gives⟩ := given mark member
      exact (Label.of_ofUrn? gives.urn).1

section Merging

variable {prior : Ledger} {reached : Watermarks}

/-- A merged watermark comes from one side or from the other. -/
theorem mem_of_mem_merge (distinct : (OrderedMap.keys prior).Nodup)
    (distinctReached : (OrderedMap.keys reached).Nodup) {entry : Label × Int}
    (member : entry ∈ prior.merge reached) :
    entry ∈ prior ∨ entry ∈ ofMarks reached := by
  obtain ⟨label, millis⟩ := entry
  have found := (OrderedMap.get?_eq_some_iff (nodup_keys_merge distinct _)).mpr member
  rw [get?_merge distinct distinctReached] at found
  have either : OrderedMap.get? label prior = some millis ∨
      OrderedMap.get? label (ofMarks reached) = some millis := by
    revert found
    cases OrderedMap.get? label prior with
    | none =>
      cases OrderedMap.get? label (ofMarks reached) with
      | none => exact .inl
      | some candidate => exact .inr
    | some current =>
      cases OrderedMap.get? label (ofMarks reached) with
      | none => exact .inl
      | some candidate =>
        intro found
        obtain rfl := Option.some.inj found
        rcases Int.le_total current candidate with below | above
        · exact .inr (congrArg some (Int.max_eq_right below).symm)
        · exact .inl (congrArg some (Int.max_eq_left above).symm)
  exact either.imp OrderedMap.mem_of_get? OrderedMap.mem_of_get?

/-- What can be stored and what has been reached can be stored together. -/
theorem IsKeepable.merge (keepable : IsKeepable prior) (storable : reached.IsStorable)
    (proper : reached.AllProper) : IsKeepable (prior.merge reached) := by
  have new := storable.ofMarks
  have either {entry : Label × Int} :
      entry ∈ prior.merge reached →
        entry ∈ prior ∨ entry ∈ ofMarks reached :=
    mem_of_mem_merge keepable.storable.distinct storable.distinct
  refine ⟨⟨nodup_keys_merge keepable.storable.distinct _, fun entry member => ?_,
    fun entry member => ?_⟩, fun entry member => ?_⟩
  · exact (either member).elim (keepable.storable.readable entry) (new.readable entry)
  · exact (either member).elim (keepable.storable.short entry) (new.short entry)
  · exact (either member).elim (keepable.proper entry)
      (Watermarks.allProper_ofMarks_iff.mpr proper entry)

end Merging

section Acts

variable {σ : Type} {access : FileAccess σ} {path : Path} {stage : Stage σ}

/-- **Watermarks that stand in a file are loaded**, in the order of their labels. -/
theorem runOn_load_of_stored {ledger : Ledger} {stamp : String} (keepable : IsKeepable ledger)
    (stored : OrderedMap.get? path.key (access.files stage.outside).contents =
      some (Encoding.encode (ledger.toText stamp))) :
    (Act.runOn (load access path) stage).1 = .ok ledger.sorted := by
  have goesOn (text : String) : (Except.ok text >>= ofText) = ofText text := rfl
  have understood : (Encoding.decode (Encoding.encode (ledger.toText stamp)) >>= ofText) =
      .ok (ledger.sorted, .text (.ofText stamp)) := by
    rw [Encoding.decode_encode (keepable.storable.unreturned stamp), goesOn]
    exact keepable.storable.ofText_of_proper keepable.proper stamp
  obtain ⟨message, loaded⟩ := runOn_load_of_understood stored understood
  rw [loaded]

/-- Watermarks with anything but gaps behind them are not loaded. -/
theorem runOn_load_of_spoilt {ledger : Ledger} {stamp behind : String} {c : Char}
    {others : List Char} (storable : ledger.IsStorable)
    (stored : OrderedMap.get? path.key (access.files stage.outside).contents =
      some (Encoding.encode (ledger.toText stamp ++ behind)))
    (begins : behind.toList = c :: others) (solid : Json.isGap c = false)
    (parts : Json.Parts (c :: others)) (unreturned : '\r' ∉ behind.toList) :
    (Act.runOn (load access path) stage).1 = .ok [] := by
  have whole : '\r' ∉ (ledger.toText stamp ++ behind).toList := by
    rw [String.toList_append, List.mem_append, not_or]
    exact ⟨storable.unreturned stamp, unreturned⟩
  obtain ⟨there, readable⟩ := there_of_kept stored
  rw [Encoding.decode_encode whole] at readable
  obtain ⟨_, misunderstood⟩ := storable.ofText_append begins solid parts stamp
  obtain ⟨_, loaded⟩ := runOn_load_of_error there readable misunderstood
  rw [loaded]

/-- Without a file nothing is loaded; where a folder is, loading fails. -/
theorem runOn_load_of_missing
    (missing : OrderedMap.get? path.key (access.files stage.outside).contents = none) :
    ((access.files stage.outside).isFolder path = false → ∃ message,
      Act.runOn (load access path) stage = (.ok [], noted stage .debug message)) ∧
    ((access.files stage.outside).isFolder path = true → ∃ fault,
      Act.runOn (load access path) stage = (.error fault, stage)) := by
  have there_eq : (access.files stage.outside).isThere path =
      (access.files stage.outside).isFolder path := by
    unfold Files.isThere Files.isFile OrderedMap.hasKey
    rw [missing]
    rfl
  constructor
  · intro free
    unfold load
    simp only [Act.runOn_bind, FileAccess.runOn_isThere, there_eq, free, Bool.not_false, ↓reduceIte,
      Act.runOn_note, Act.runOn_pure]
    exact ⟨_, rfl⟩
  · intro folder
    have read : (access.files stage.outside).readText path = .error (Files.folderFault path) := by
      unfold Files.readText Files.readBytes
      rw [missing]
      dsimp only
      rw [if_pos folder]
      rfl
    have grave : ignorableKinds.any (Files.folderFault path).kind.isA = false :=
      Bool.eq_false_iff.mpr (isIgnorable_misuse_iff.not.mpr (by decide))
    unfold load
    simp only [Act.runOn_bind, FileAccess.runOn_isThere, there_eq, folder, Bool.not_true,
      Bool.false_eq_true, ↓reduceIte, Act.runOn_attempt, FileAccess.runOn_readText, read, grave,
      Act.runOn_throw]
    exact ⟨_, rfl⟩

/-- **What was loaded can be stored.** -/
theorem isKeepable_of_loaded {found : Ledger}
    (loaded : (Act.runOn (load access path) stage).1 = .ok found) : IsKeepable found := by
  by_cases empty : found = []
  · rw [empty]
    exact isKeepable_nil
  · cases kept : OrderedMap.get? path.key (access.files stage.outside).contents with
    | none =>
      obtain ⟨free, blocked⟩ := runOn_load_of_missing kept
      cases folder : (access.files stage.outside).isFolder path with
      | false =>
        obtain ⟨message, same⟩ := free folder
        rw [same] at loaded
        exact absurd (Except.ok.inj loaded).symm empty
      | true =>
        obtain ⟨fault, same⟩ := blocked folder
        rw [same] at loaded
        contradiction
    | some bytes =>
      obtain ⟨marks, holds, rfl⟩ := (load_outcome kept).2.2.2 found loaded empty
      exact isKeepable_of_holds holds

/-- **What is loaded was there before** as long as the file stays and no folder is unmade. -/
theorem load_agrees {earlier later : Stage σ} {found : Ledger}
    (spares : Files.Spares path (access.files earlier.outside) (access.files later.outside))
    (loaded : (Act.runOn (load access path) later).1 = .ok found) :
    (Act.runOn (load access path) earlier).1 = .ok found := by
  cases kept : OrderedMap.get? path.key (access.files earlier.outside).contents with
  | none =>
    have missing := spares.kept.trans kept
    cases folder : (access.files later.outside).isFolder path with
    | true =>
      obtain ⟨fault, same⟩ := (runOn_load_of_missing missing).2 folder
      rw [same] at loaded
      contradiction
    | false =>
      obtain ⟨message, same⟩ := (runOn_load_of_missing missing).1 folder
      have free : (access.files earlier.outside).isFolder path = false := by
        by_contra there
        have still := spares.folder (Bool.not_eq_false _ ▸ there)
        rw [folder] at still
        contradiction
      obtain ⟨note, before⟩ := (runOn_load_of_missing kept).1 free
      rw [same] at loaded
      rw [before]
      exact loaded
  | some bytes =>
    have still := spares.kept.trans kept
    cases read : Encoding.decode bytes >>= ofText with
    | ok understood =>
      obtain ⟨marks, stamp⟩ := understood
      obtain ⟨message, after⟩ := runOn_load_of_understood still read
      obtain ⟨note, before⟩ := runOn_load_of_understood kept read
      rw [after] at loaded
      rw [before]
      exact loaded
    | error fault =>
      obtain ⟨ignored, thrown⟩ := runOn_load_of_fault still read
      obtain ⟨ignoredBefore, thrownBefore⟩ := runOn_load_of_fault kept read
      by_cases ignorable : IsIgnorable fault
      · obtain ⟨message, after⟩ := ignored ignorable
        obtain ⟨note, before⟩ := ignoredBefore ignorable
        rw [after] at loaded
        rw [before]
        exact loaded
      · rw [thrown ignorable] at loaded
        contradiction

end Acts

end CatalogDelta.Ledger
