import CatalogDelta.Handle
import CatalogDelta.Proofs.Act.Gives
import CatalogDelta.Proofs.OrderedMap
import CatalogDelta.Proofs.Text.Pieces
import Mathlib.Algebra.GroupWithZero.Nat
import Mathlib.Data.List.Perm.Subperm
import Mathlib.Logic.Basic

/-!
# Partition names are read back

A partition name is read exactly if each of its segments has a key, and what is read makes up the
name segment by segment. It is read back as the keys and values for which it was written if the keys
are distinct, and if neither they nor the values hold a separator. Nothing less will do. Main
statement: `names_correspond`.
-/

namespace CatalogDelta.PartitionName

/-- The key is there, and it holds no separator of names. -/
def IsPlain (key : String) : Prop := key ≠ "" ∧ '/' ∉ key.toList ∧ '=' ∉ key.toList

/-- The characters of a segment. -/
def segmentChars (entry : String × String) : List Char := entry.1.toList ++ '=' :: entry.2.toList

theorem toList_segmentText (key value : String) :
    (segmentText key value).toList = segmentChars (key, value) := by
  simp only [segmentText, segmentChars, String.toList_append, List.append_assoc]
  rfl

theorem toList_render (keys values : List String) :
    (render keys values).toList = ['/'].intercalate ((assign keys values).map segmentChars) := by
  unfold render
  rw [String.toList_intercalate, List.map_map]
  congr 2
  funext entry
  exact toList_segmentText entry.1 entry.2

/-- Texts that stand among keys are found there. -/
theorem get?_texts {key : String} {keys : List String} (member : key ∈ keys) :
    OrderedMap.get? (.text key) (keys.map fun key => (Data.Key.text key, Data.text key)) =
      some (.text key) := by
  induction keys with
  | nil => exact absurd member List.not_mem_nil
  | cons first others ih =>
    rw [List.map_cons, OrderedMap.get?]
    by_cases same : first = key
    · rw [if_pos (congrArg Data.Key.text same), same]
    · rw [if_neg fun one => same (Data.Key.text.inj one)]
      exact ih ((List.mem_cons.mp member).resolve_left fun one => same one.symm)

/-- Texts are the same key just if they are the same text. -/
theorem spec_texts {partition : Partition} {keys : List String}
    (even : keys.length = partition.values.length) :
    partition.spec (keys.map .text) =
      .ok ((assign keys partition.values).map (Prod.map Data.text id)) := by
  let naming (key : Data) : Except Fault (Data.Key × Data) := do return (← key.asKey, key)
  have back (key : String) : naming (.text key) = .ok (.text key, .text key) := rfl
  have zipped : (OrderedMap.keys (keys.map fun key => (Data.Key.text key, Data.text key))).zip
      partition.values = (keys.zip partition.values).map (Prod.map Data.Key.text id) := by
    rw [OrderedMap.keys, List.map_map, ← List.zip_map_left]
    rfl
  have spec_eq : partition.spec (keys.map .text) = .ok (Partition.underKeys
      (keys.map fun key => (Data.Key.text key, Data.text key)) partition.values) := by
    unfold Partition.spec
    rw [List.length_map, if_neg (not_not.mpr even)]
    change (do return Partition.underKeys (← (keys.map Data.text).mapM naming) _) = _
    rw [Act.mapM_map_eq_ok back]
    rfl
  rw [spec_eq, Partition.underKeys, zipped, OrderedMap.ofList_map fun _ _ => Data.Key.text.inj,
    List.map_map]
  refine congrArg Except.ok (List.map_congr_left fun entry member => ?_)
  have known : entry.1 ∈ keys := (List.of_mem_zip (OrderedMap.mem_of_mem_ofList member)).1
  change ((OrderedMap.get? (Data.Key.text entry.1) _).getD Data.null, entry.2) = _
  rw [get?_texts known]
  rfl

/-- A partition has a name under as many keys as it has values. -/
theorem nameFor_eq_ok_iff {partition : Partition} {keys : List String} {name : String} :
    partition.nameFor (keys.map .text) = .ok name ↔
      keys.length = partition.values.length ∧ render keys partition.values = name := by
  by_cases even : keys.length = partition.values.length
  · have back (entry : String × String) : Partition.segment (Prod.map Data.text id entry) =
        .ok (segmentText entry.1 entry.2) := rfl
    have named : partition.nameFor (keys.map .text) = .ok (render keys partition.values) := by
      unfold Partition.nameFor
      rw [spec_texts even]
      change (do return "/".intercalate (← List.mapM Partition.segment _)) = _
      rw [Act.mapM_map_eq_ok back]
      rfl
    rw [named, and_iff_right even]
    exact ⟨Except.ok.inj, congrArg Except.ok⟩
  · have differ : partition.nameFor (keys.map .text) =
        .error (partition.keysDiffer (keys.map .text)) := by
      unfold Partition.nameFor Partition.spec
      rw [List.length_map, if_pos even]
      rfl
    rw [differ]
    exact iff_of_false nofun fun named => even named.1

theorem segment?_eq_some_iff {segment key value : List Char} :
    segment? segment = some (key, value) ↔
      key ≠ [] ∧ '=' ∉ key ∧ segment = key ++ '=' :: value := by
  unfold segment?
  constructor
  · intro read
    split at read
    · rename_i first second cut
      obtain ⟨free, whole⟩ := Text.cutFirst_eq_some_iff.mp cut
      split at read
      · contradiction
      · rename_i some
        cases read
        exact ⟨fun none => some (List.isEmpty_iff.mpr none), free, whole⟩
    · contradiction
  · rintro ⟨some, free, rfl⟩
    rw [Text.cutFirst_append_cons free]
    dsimp only
    rw [if_neg fun none => some (List.isEmpty_iff.mp none)]

/-- Segments are read one by one. -/
theorem parseSegments_eq_ok_iff {segments : List (List Char)}
    {entries : List (List Char × List Char)} :
    parseSegments segments = .ok entries ↔
      segments = entries.map (fun entry => entry.1 ++ '=' :: entry.2) ∧
        ∀ entry ∈ entries, entry.1 ≠ [] ∧ '=' ∉ entry.1 := by
  induction segments generalizing entries with
  | nil =>
    simp only [parseSegments, Except.ok.injEq]
    constructor
    · rintro rfl
      exact ⟨rfl, fun _ member => absurd member List.not_mem_nil⟩
    · rintro ⟨none, _⟩
      exact (List.map_eq_nil_iff.mp none.symm).symm
  | cons segment others ih =>
    constructor
    · intro read
      unfold parseSegments at read
      split at read
      · contradiction
      · rename_i entry found
        obtain ⟨some, free, whole⟩ := segment?_eq_some_iff.mp found
        cases rest : parseSegments others with
        | error segment =>
          rw [rest] at read
          contradiction
        | ok later =>
          rw [rest] at read
          cases read
          obtain ⟨same, plain⟩ := ih.mp rest
          exact ⟨congrArg₂ List.cons whole same,
            List.forall_mem_cons.mpr ⟨⟨some, free⟩, plain⟩⟩
    · rintro ⟨same, plain⟩
      cases entries with
      | nil => contradiction
      | cons entry later =>
        obtain ⟨whole, rest⟩ := List.cons.inj same
        obtain ⟨⟨some, free⟩, plainLater⟩ := List.forall_mem_cons.mp plain
        rw [parseSegments, segment?_eq_some_iff.mpr ⟨some, free, whole⟩,
          ih.mpr ⟨rest, plainLater⟩]
        rfl

/-- What is read from a name are the keys and values of which it is made up. -/
theorem parse_eq_ok_iff {name : String} {keys values : List String} :
    parse name = .ok (keys, values) ↔
      ∃ entries : List (String × String),
        Text.pieces '/' name.toList = entries.map segmentChars ∧
          (∀ entry ∈ entries, IsPlain entry.1) ∧
          entries.map (·.1) = keys ∧ entries.map (·.2) = values := by
  constructor
  · intro read
    unfold parse at read
    split at read
    · rename_i chars found
      obtain ⟨same, plain⟩ := parseSegments_eq_ok_iff.mp found
      cases read
      refine ⟨chars.map fun entry => (String.ofList entry.1, String.ofList entry.2), ?_, ?_, ?_, ?_⟩
      · rw [same, List.map_map]
        refine List.map_congr_left fun entry _ => ?_
        simp only [Function.comp_apply, segmentChars, String.toList_ofList]
      · intro entry member
        obtain ⟨read, known, rfl⟩ := List.mem_map.mp member
        obtain ⟨some, free⟩ := plain read known
        have whole : '/' ∉ read.1 ++ '=' :: read.2 :=
          Text.not_mem_of_mem_pieces (same ▸ List.mem_map_of_mem known)
        refine ⟨fun none => some (String.ofList_injective none), ?_, ?_⟩
        · rw [String.toList_ofList]
          exact fun inside => whole (List.mem_append_left _ inside)
        · rwa [String.toList_ofList]
      · rw [List.map_map]
        rfl
      · rw [List.map_map]
        rfl
    · contradiction
  · rintro ⟨entries, same, plain, rfl, rfl⟩
    have found : parseSegments (Text.pieces '/' name.toList) =
        .ok (entries.map fun entry => (entry.1.toList, entry.2.toList)) := by
      refine parseSegments_eq_ok_iff.mpr ⟨?_, fun read member => ?_⟩
      · rw [same, List.map_map]
        rfl
      · obtain ⟨entry, known, rfl⟩ := List.mem_map.mp member
        obtain ⟨some, _, free⟩ := plain entry known
        exact ⟨fun none => some (String.toList_injective none), free⟩
    unfold parse
    rw [found]
    simp only [List.map_map, Function.comp_def, String.ofList_toList]

/-- What is read from a name holds no separator between segments. -/
theorem not_mem_of_parse {name : String} {keys values : List String}
    (read : parse name = .ok (keys, values)) :
    (∀ key ∈ keys, IsPlain key) ∧ ∀ value ∈ values, '/' ∉ value.toList := by
  obtain ⟨entries, same, plain, rfl, rfl⟩ := parse_eq_ok_iff.mp read
  constructor
  · intro key member
    obtain ⟨entry, known, rfl⟩ := List.mem_map.mp member
    exact plain entry known
  · intro value member inside
    obtain ⟨entry, known, rfl⟩ := List.mem_map.mp member
    have whole : '/' ∉ segmentChars entry :=
      Text.not_mem_of_mem_pieces (same ▸ List.mem_map_of_mem known)
    exact whole (List.mem_append_right _ (List.mem_cons_of_mem _ inside))

section Distinct

variable {keys values : List String}

/-- Distinct keys are assigned their values one by one. -/
theorem assign_of_nodup (distinct : keys.Nodup) (even : keys.length = values.length) :
    assign keys values = keys.zip values := by
  refine OrderedMap.ofList_of_nodup ?_
  have keys_eq : OrderedMap.keys (keys.zip values) = keys := List.map_fst_zip (Nat.le_of_eq even)
  rw [keys_eq]
  exact distinct

theorem mem_keys_assign (even : keys.length = values.length) {key : String} (member : key ∈ keys) :
    key ∈ OrderedMap.keys (assign keys values) := by
  refine OrderedMap.mem_keys_ofList ?_
  rw [OrderedMap.keys, List.map_fst_zip (Nat.le_of_eq even)]
  exact member

theorem assign_ne_nil (some : keys ≠ []) (even : keys.length = values.length) :
    assign keys values ≠ [] := by
  obtain ⟨key, others, rfl⟩ := List.exists_cons_of_ne_nil some
  intro none
  have member := mem_keys_assign even List.mem_cons_self
  rw [none] at member
  exact List.not_mem_nil member

theorem render_ne_empty (some : keys ≠ []) (even : keys.length = values.length) :
    render keys values ≠ "" := by
  intro none
  have empty := congrArg String.toList none
  rw [toList_render] at empty
  obtain ⟨entry, others, entries_eq⟩ := List.exists_cons_of_ne_nil (assign_ne_nil some even)
  have sign : '=' ∈ segmentChars entry := List.mem_append_right _ List.mem_cons_self
  have first : segmentChars entry = [] := by
    rw [entries_eq, List.map_cons] at empty
    cases others with
    | nil => rwa [List.map_nil, List.intercalate_singleton] at empty
    | cons next others =>
      rw [List.map_cons, List.intercalate_cons_cons] at empty
      exact (List.append_eq_nil_iff.mp (List.append_eq_nil_iff.mp empty).1).1
  rw [first] at sign
  exact List.not_mem_nil sign

/-- **A name is read back** if the keys are distinct, and neither they nor the values hold a
separator. -/
theorem parse_render (some : keys ≠ []) (even : keys.length = values.length)
    (distinct : keys.Nodup) (plain : ∀ key ∈ keys, IsPlain key)
    (free : ∀ value ∈ values, '/' ∉ value.toList) :
    parse (render keys values) = .ok (keys, values) := by
  refine parse_eq_ok_iff.mpr ⟨keys.zip values, ?_, fun entry member => ?_, ?_, ?_⟩
  · have cut : assign keys values ≠ [] := assign_ne_nil some even
    rw [assign_of_nodup distinct even] at cut
    rw [toList_render, assign_of_nodup distinct even]
    refine Text.pieces_intercalate (fun segment member => ?_)
      fun none => cut (List.map_eq_nil_iff.mp none)
    obtain ⟨entry, known, rfl⟩ := List.mem_map.mp member
    obtain ⟨key, value⟩ := List.of_mem_zip known
    rw [segmentChars, List.mem_append, List.mem_cons, not_or, not_or]
    exact ⟨(plain _ key).2.1, by decide, free _ value⟩
  · exact plain _ (List.of_mem_zip member).1
  · exact List.map_fst_zip (Nat.le_of_eq even)
  · exact List.map_snd_zip (Nat.le_of_eq even.symm)

/-- A name has a segment for every key that is assigned a value, and one more for every separator in
a value. -/
theorem length_pieces_render (plain : ∀ key ∈ keys, IsPlain key) (some : assign keys values ≠ []) :
    (Text.pieces '/' (render keys values).toList).length =
      (assign keys values).length +
        ((assign keys values).map fun entry => entry.2.toList.count '/').sum := by
  have each (entries : List (String × String)) (plain : ∀ entry ∈ entries, IsPlain entry.1) :
      ((entries.map segmentChars).flatMap (Text.pieces '/')).length =
        entries.length + (entries.map fun entry => entry.2.toList.count '/').sum := by
    induction entries with
    | nil => rfl
    | cons entry others ih =>
      obtain ⟨first, later⟩ := List.forall_mem_cons.mp plain
      have key : entry.1.toList.count '/' = 0 := List.count_eq_zero.mpr first.2.1
      have sign : List.count '/' ('=' :: entry.2.toList) = entry.2.toList.count '/' :=
        List.count_cons_of_ne (by decide)
      rw [List.map_cons, List.flatMap_cons, List.length_append, ih later, Text.length_pieces,
        segmentChars, List.count_append, key, sign, List.map_cons, List.sum_cons, List.length_cons]
      omega
  rw [toList_render,
    Text.pieces_intercalate_flatMap '/' fun none => some (List.map_eq_nil_iff.mp none)]
  exact each _ fun entry member =>
    plain _ (List.of_mem_zip (OrderedMap.mem_of_mem_ofList member)).1

theorem length_pieces_of_parse {name : String} (read : parse name = .ok (keys, values)) :
    (Text.pieces '/' name.toList).length = keys.length ∧ keys.length = values.length := by
  obtain ⟨entries, same, _, rfl, rfl⟩ := parse_eq_ok_iff.mp read
  rw [same]
  simp only [List.length_map, and_self]

/-- Keys that are assigned values as often as they come are distinct. -/
theorem nodup_of_length_assign (every : keys.length ≤ (assign keys values).length) :
    keys.Nodup := by
  have distinct := OrderedMap.nodup_keys_ofList (keys.zip values)
  have subset : OrderedMap.keys (assign keys values) ⊆ keys := by
    intro key member
    obtain ⟨entry, known, rfl⟩ := List.mem_map.mp member
    exact (List.of_mem_zip (OrderedMap.mem_of_mem_ofList known)).1
  have length_eq : (OrderedMap.keys (assign keys values)).length = (assign keys values).length :=
    List.length_map _
  exact ((distinct.subperm subset).perm_of_length_le (length_eq ▸ every)).nodup_iff.mp distinct

/-- **Nothing less will do.** If a name is read as its keys, and the values that are read with them
give the same name, then the keys are distinct and the values hold no separator. -/
theorem distinct_of_parse_render {parts : List String} (some : keys ≠ [])
    (even : keys.length = values.length) (read : parse (render keys values) = .ok (keys, parts))
    (same : render keys parts = render keys values) :
    keys.Nodup ∧ ∀ value ∈ values, '/' ∉ value.toList := by
  obtain ⟨plain, freeParts⟩ := not_mem_of_parse read
  obtain ⟨cut, evenParts⟩ := length_pieces_of_parse read
  have segments := length_pieces_render plain (assign_ne_nil some evenParts)
  have whole : ((assign keys parts).map fun entry => entry.2.toList.count '/').sum = 0 := by
    rw [List.sum_eq_zero_iff_forall_eq_nat]
    intro count member
    obtain ⟨entry, known, rfl⟩ := List.mem_map.mp member
    exact List.count_eq_zero.mpr
      (freeParts _ (List.of_mem_zip (OrderedMap.mem_of_mem_ofList known)).2)
  rw [same, cut, whole, Nat.add_zero] at segments
  have distinct : keys.Nodup := nodup_of_length_assign (Nat.le_of_eq segments)
  have written := length_pieces_render plain (assign_ne_nil some even)
  rw [cut, assign_of_nodup distinct even, List.length_zip, even, Nat.min_self] at written
  have none := List.sum_eq_zero_iff_forall_eq_nat.mp (Nat.left_eq_add.mp written)
  refine ⟨distinct, fun value member => ?_⟩
  rw [← List.map_snd_zip (Nat.le_of_eq even.symm)] at member
  obtain ⟨entry, known, rfl⟩ := List.mem_map.mp member
  exact List.count_eq_zero.mp (none _ (List.mem_map_of_mem known))

/-- Keys that hold no separator are found again in the name, whatever the values hold. -/
theorem subset_of_parse_render {names parts : List String} (plain : ∀ key ∈ keys, IsPlain key)
    (even : keys.length = values.length)
    (read : parse (render keys values) = .ok (names, parts)) : keys ⊆ names := by
  intro key member
  obtain ⟨entries, same, plainRead, rfl, rfl⟩ := parse_eq_ok_iff.mp read
  obtain ⟨entry, known, rfl⟩ := List.mem_map.mp (mem_keys_assign even member)
  have free : '/' ∉ entry.1.toList ++ ['='] := by
    rw [List.mem_append, not_or]
    exact ⟨(plain _ member).2.1, by decide⟩
  obtain ⟨piece, others, _, first⟩ := Text.pieces_append_of_not_mem free entry.2.toList
  -- The segment up to the first separator in the value begins with the whole key.
  have found : entry.1.toList ++ '=' :: piece ∈ entries.map segmentChars := by
    have some : (assign keys values).map segmentChars ≠ [] :=
      List.ne_nil_of_mem (List.mem_map_of_mem known)
    rw [← same, toList_render, Text.pieces_intercalate_flatMap '/' some]
    refine List.mem_flatMap.mpr ⟨_, List.mem_map_of_mem known, ?_⟩
    rw [List.append_assoc, List.singleton_append, List.append_assoc, List.singleton_append] at first
    rw [segmentChars, first]
    exact List.mem_cons_self
  obtain ⟨read, inside, whole⟩ := List.mem_map.mp found
  have cut := Text.cutFirst_append_cons (plain _ member).2.2 piece
  rw [← whole, segmentChars, Text.cutFirst_append_cons (plainRead _ inside).2.2] at cut
  have key_eq : read.1 = entry.1 :=
    String.toList_injective (Prod.mk.inj (Option.some.inj cut)).1
  exact key_eq ▸ List.mem_map_of_mem inside

end Distinct

section Reading

/-- The segment has the sign `=`, and a key before the first one. -/
def HasKey (segment : List Char) : Prop :=
  ∃ key value, key ≠ [] ∧ '=' ∉ key ∧ segment = key ++ '=' :: value

variable {segment : List Char} {name : String} {keys values : List String}

theorem hasKey_segmentChars {entry : String × String} (plain : IsPlain entry.1) :
    HasKey (segmentChars entry) :=
  ⟨entry.1.toList, entry.2.toList, fun none => plain.1 (String.toList_injective none), plain.2.2,
    rfl⟩

/-- The key and value of a segment, or else the segment. -/
def entryOf (segment : List Char) : Except (List Char) (List Char × List Char) :=
  (segment? segment).elim (.error segment) .ok

theorem parseSegments_eq_mapM (segments : List (List Char)) :
    parseSegments segments = segments.mapM entryOf := by
  induction segments with
  | nil => rfl
  | cons segment others ih =>
    rw [parseSegments, ih, List.mapM_cons, entryOf]
    cases segment? segment with
    | none => rfl
    | some _ => rfl

theorem exists_entryOf_iff : (∃ entry, entryOf segment = .ok entry) ↔ HasKey segment := by
  constructor
  · rintro ⟨entry, given⟩
    unfold entryOf at given
    cases found : segment? segment with
    | none =>
      rw [found] at given
      contradiction
    | some parts => exact ⟨parts.1, parts.2, segment?_eq_some_iff.mp found⟩
  · rintro ⟨key, value, parts⟩
    refine ⟨(key, value), ?_⟩
    rw [entryOf, segment?_eq_some_iff.mpr parts]
    rfl

theorem entryOf_eq_error_iff {cause : List Char} :
    entryOf segment = .error cause ↔ ¬HasKey segment ∧ segment = cause := by
  rw [← exists_entryOf_iff, entryOf]
  cases segment? segment with
  | none => exact ⟨fun told => ⟨nofun, Except.error.inj told⟩, fun told => congrArg _ told.2⟩
  | some entry => exact iff_of_false nofun fun told => told.1 ⟨entry, rfl⟩

/-- A name that cannot be read is reported with its first segment that has no key. -/
theorem read_eq_error_iff {fault : Fault} :
    read name = .error fault ↔
      ∃ before segment after, name.toList.splitOn '/' = before ++ segment :: after ∧
        (∀ earlier ∈ before, HasKey earlier) ∧ ¬HasKey segment ∧
        keyless (String.ofList segment) = fault := by
  have told : read name = .error fault ↔ ∃ cause,
      (name.toList.splitOn '/').mapM entryOf = .error cause ∧
        keyless (String.ofList cause) = fault := by
    unfold read parse
    rw [Text.pieces_eq_splitOn, parseSegments_eq_mapM]
    cases (name.toList.splitOn '/').mapM entryOf with
    | ok _ => exact iff_of_false nofun nofun
    | error cause =>
      constructor
      · exact fun failed => ⟨cause, rfl, Except.error.inj failed⟩
      · rintro ⟨_, same, rfl⟩
        cases same
        rfl
  simp only [told, Act.mapM_eq_error_iff, exists_entryOf_iff, entryOf_eq_error_iff]
  constructor
  · rintro ⟨_, ⟨before, segment, after, whole, keyed, without, rfl⟩, same⟩
    exact ⟨before, segment, after, whole, keyed, without, same⟩
  · rintro ⟨before, segment, after, whole, keyed, without, same⟩
    exact ⟨segment, ⟨before, segment, after, whole, keyed, without, rfl⟩, same⟩

/-- What is read are the keys and values that make up the name. -/
theorem read_eq_ok_iff :
    read name = .ok (keys, values) ↔
      keys.length = values.length ∧ (∀ key ∈ keys, IsPlain key) ∧
        name.toList.splitOn '/' = (keys.zip values).map segmentChars := by
  rw [read, Act.mapError_eq_ok_iff, parse_eq_ok_iff, Text.pieces_eq_splitOn]
  constructor
  · rintro ⟨entries, same, plain, rfl, rfl⟩
    refine ⟨(List.length_map _).trans (List.length_map _).symm, List.forall_mem_map.mpr plain, ?_⟩
    rw [same, ← List.zip_of_prod rfl rfl]
  · rintro ⟨even, plain, same⟩
    exact ⟨keys.zip values, same, fun entry member => plain _ (List.of_mem_zip member).1,
      List.map_fst_zip (Nat.le_of_eq even), List.map_snd_zip (Nat.le_of_eq even.symm)⟩

/-- A name is read exactly if every segment has a key. -/
theorem exists_read_iff :
    (∃ keys values, read name = .ok (keys, values)) ↔
      ∀ segment ∈ name.toList.splitOn '/', HasKey segment := by
  constructor
  · rintro ⟨keys, values, found⟩ segment member
    obtain ⟨_, plain, same⟩ := read_eq_ok_iff.mp found
    rw [same] at member
    obtain ⟨entry, known, rfl⟩ := List.mem_map.mp member
    exact hasKey_segmentChars (plain _ (List.of_mem_zip known).1)
  · intro keyed
    cases found : read name with
    | ok parts => exact ⟨parts.1, parts.2, rfl⟩
    | error fault =>
      obtain ⟨before, segment, after, whole, _, keyless, _⟩ := read_eq_error_iff.mp found
      refine absurd (keyed segment ?_) keyless
      rw [whole]
      exact List.mem_append_right _ List.mem_cons_self

theorem keys_ne_nil_of_read (found : read name = .ok (keys, values)) : keys ≠ [] := by
  rintro rfl
  obtain ⟨_, _, same⟩ := read_eq_ok_iff.mp found
  exact List.splitOnP_ne_nil _ _ same

end Reading

section Writing

variable {name : String} {keys values : List String}

/-- What is read from a name is written as the same name exactly if no key comes twice. -/
theorem render_eq_iff_of_read (found : read name = .ok (keys, values)) :
    render keys values = name ↔ keys.Nodup := by
  obtain ⟨even, _, same⟩ := read_eq_ok_iff.mp found
  constructor
  · rintro rfl
    have parsed := Act.mapError_eq_ok_iff.mp found
    exact (distinct_of_parse_render (keys_ne_nil_of_read found) even parsed rfl).1
  · intro distinct
    refine String.toList_injective ?_
    rw [toList_render, assign_of_nodup distinct even, ← same, List.intercalate_splitOn]

/-- A name is read as the keys and values for which it was written exactly if the keys are there and
distinct, and neither they nor the values hold a separator. -/
theorem read_render_iff (even : keys.length = values.length) :
    read (render keys values) = .ok (keys, values) ↔
      keys ≠ [] ∧ keys.Nodup ∧ (∀ key ∈ keys, IsPlain key) ∧
        ∀ value ∈ values, '/' ∉ value.toList := by
  constructor
  · intro found
    have parsed := Act.mapError_eq_ok_iff.mp found
    have some := keys_ne_nil_of_read found
    obtain ⟨distinct, free⟩ := distinct_of_parse_render some even parsed rfl
    exact ⟨some, distinct, (not_mem_of_parse parsed).1, free⟩
  · rintro ⟨some, distinct, plain, free⟩
    exact Act.mapError_eq_ok_iff.mpr (parse_render some even distinct plain free)

end Writing

/-- **Names correspond to keys with values.** A name is read exactly if every segment has a key. The
segments are then the keys with their values, and the name that is written for them is the same
exactly if no key comes twice. The name that is written for keys and values is read as these exactly
if the keys are there and distinct, and neither they nor the values hold a separator. -/
theorem names_correspond (name : String) (partition : Partition) (keys : List String) :
    ((∃ found values, read name = .ok (found, values)) ↔
      ∀ segment ∈ name.toList.splitOn '/', HasKey segment) ∧
    (read name = .ok (keys, partition.values) →
      keys.length = partition.values.length ∧ (∀ key ∈ keys, IsPlain key) ∧
        name.toList.splitOn '/' = (keys.zip partition.values).map segmentChars ∧
        ∃ written, partition.nameFor (keys.map .text) = .ok written ∧
          (written = name ↔ keys.Nodup)) ∧
    ((∃ written, partition.nameFor (keys.map .text) = .ok written ∧
        read written = .ok (keys, partition.values)) ↔
      keys.length = partition.values.length ∧ keys ≠ [] ∧ keys.Nodup ∧
        (∀ key ∈ keys, IsPlain key) ∧ ∀ value ∈ partition.values, '/' ∉ value.toList) := by
  refine ⟨exists_read_iff, fun found => ?_, ⟨?_, ?_⟩⟩
  · obtain ⟨even, plain, same⟩ := read_eq_ok_iff.mp found
    exact ⟨even, plain, same, _, nameFor_eq_ok_iff.mpr ⟨even, rfl⟩, render_eq_iff_of_read found⟩
  · rintro ⟨written, named, found⟩
    obtain ⟨even, rfl⟩ := nameFor_eq_ok_iff.mp named
    exact ⟨even, (read_render_iff even).mp found⟩
  · rintro ⟨even, parts⟩
    exact ⟨_, nameFor_eq_ok_iff.mpr ⟨even, rfl⟩, (read_render_iff even).mpr parts⟩

/-- A partition with a sign in one value, and with an empty one. -/
def rushHour : Partition where
  table := ⟨"sales", "orders"⟩
  values := ["2025-01-15", "rush=03", ""]

/-- A partition with two values for one key. -/
def doubleDay : Partition where
  table := ⟨"sales", "orders"⟩
  values := ["2025-01-15", "2025-01-16"]

/-- The name of the one is read back; the name of the other loses a segment. -/
theorem rushHour_corresponds :
    (∃ written, rushHour.nameFor [.text "ds", .text "hr", .text "note"] = .ok written ∧
      read written = .ok (["ds", "hr", "note"], rushHour.values)) ∧
    read "ds=2025-01-15/ds=2025-01-16" = .ok (["ds", "ds"], doubleDay.values) ∧
    ∃ written, doubleDay.nameFor [.text "ds", .text "ds"] = .ok written ∧
      written ≠ "ds=2025-01-15/ds=2025-01-16" := by
  have found : read "ds=2025-01-15/ds=2025-01-16" = .ok (["ds", "ds"], doubleDay.values) := rfl
  refine ⟨?_, found, ?_⟩
  · obtain ⟨_, _, back⟩ := names_correspond "" rushHour ["ds", "hr", "note"]
    refine back.mpr ⟨rfl, nofun, by decide, ?_, by decide⟩
    unfold IsPlain
    decide
  · obtain ⟨_, again, _⟩ :=
      names_correspond "ds=2025-01-15/ds=2025-01-16" doubleDay ["ds", "ds"]
    obtain ⟨_, _, _, written, named, same⟩ := again found
    exact ⟨written, named, fun equal => absurd (same.mp equal) (by decide)⟩

end CatalogDelta.PartitionName
