import CatalogDelta.OrderedMap
import Mathlib.Data.List.Nodup
import Mathlib.Order.Lattice

/-!
# Keys of insertion-ordered maps

Putting a value keeps the keys distinct, and a key that is not there has no value. A map that is
made of entries with distinct keys is the list of them. Entries in the order of distinct keys do not
depend on the order in which they were given.
-/

namespace CatalogDelta.OrderedMap

variable {κ ν : Type} [DecidableEq κ]

theorem get?_single (key other : κ) (value : ν) :
    get? key [(other, value)] = if other = key then some value else none := rfl

theorem get?_eq_none_iff {key : κ} {map : OrderedMap κ ν} :
    get? key map = none ↔ key ∉ keys map := by
  rw [← hasKey_iff_mem_keys, hasKey, Option.not_isSome_iff_eq_none]

/-- What is found under a key stands among the entries. -/
theorem mem_of_get? {key : κ} {value : ν} {map : OrderedMap κ ν}
    (found : get? key map = some value) : (key, value) ∈ map := by
  induction map with
  | nil => exact nomatch found
  | cons entry rest ih =>
    obtain ⟨first, kept⟩ := entry
    by_cases same : first = key
    · simp only [get?, same, ↓reduceIte, Option.some.injEq] at found
      rw [same, found]
      exact List.mem_cons_self
    · simp only [get?, same, ↓reduceIte] at found
      exact List.mem_cons_of_mem _ (ih found)

/-- With distinct keys, what stands among the entries is what is found. -/
theorem get?_eq_some_iff {map : OrderedMap κ ν} (distinct : (keys map).Nodup) {key : κ}
    {value : ν} : get? key map = some value ↔ (key, value) ∈ map := by
  refine ⟨mem_of_get?, fun member => ?_⟩
  induction map with
  | nil => exact absurd member List.not_mem_nil
  | cons entry rest ih =>
    obtain ⟨first, kept⟩ := entry
    obtain ⟨absent, distinct⟩ := List.nodup_cons.mp distinct
    rw [get?]
    by_cases same : first = key
    · subst same
      rcases List.mem_cons.mp member with whole | later
      · rw [if_pos rfl, (Prod.mk.inj whole).2]
      · exact absurd (List.mem_map_of_mem later) absent
    · rw [if_neg same]
      rcases List.mem_cons.mp member with whole | later
      · exact absurd (Prod.mk.inj whole).1.symm same
      · exact ih distinct later

/-- The order of entries with distinct keys does not matter to what is found. -/
theorem get?_of_perm {map other : OrderedMap κ ν} (distinct : (keys map).Nodup)
    (same : List.Perm other map) (key : κ) : get? key other = get? key map := by
  have distinctOther : (keys other).Nodup := (same.map Prod.fst).nodup_iff.mpr distinct
  refine Option.ext fun value => ?_
  rw [get?_eq_some_iff distinctOther, get?_eq_some_iff distinct]
  exact same.mem_iff

theorem get?_append (key : κ) (map others : OrderedMap κ ν) :
    get? key (map ++ others) = (get? key map).or (get? key others) := by
  induction map with
  | nil => rfl
  | cons entry rest ih =>
    rw [List.cons_append, get?, get?]
    split
    · rfl
    · exact ih

theorem erase_cons (key first : κ) (kept : ν) (rest : OrderedMap κ ν) :
    erase key ((first, kept) :: rest) =
      if first = key then erase key rest else (first, kept) :: erase key rest := by
  simp only [erase, List.filter_cons, ne_eq, decide_eq_true_eq, ite_not]

theorem get?_erase (key other : κ) (map : OrderedMap κ ν) :
    get? other (erase key map) = if key = other then none else get? other map := by
  induction map with
  | nil => exact (ite_self none).symm
  | cons entry rest ih =>
    obtain ⟨first, kept⟩ := entry
    rw [erase_cons]
    by_cases hit : first = key
    · subst hit
      rw [if_pos rfl, ih, get?]
      split
      · rfl
      · rfl
    · rw [if_neg hit, get?, get?, ih]
      by_cases same : first = other
      · subst same
        rw [if_pos rfl, if_pos rfl, if_neg (Ne.symm hit)]
      · rw [if_neg same, if_neg same]

theorem keys_put (key : κ) (value : ν) (map : OrderedMap κ ν) :
    keys (put key value map) = if key ∈ keys map then keys map else keys map ++ [key] := by
  induction map with
  | nil => rfl
  | cons entry rest ih =>
    obtain ⟨first, kept⟩ := entry
    by_cases same : first = key
    · simp [put, keys, same]
    · have other : key ≠ first := fun equal => same equal.symm
      unfold keys at ih ⊢
      simp only [put, same, ↓reduceIte, List.map_cons, ih, List.mem_cons, other, false_or]
      split
      · rfl
      · rfl

/-- Putting a value keeps the keys distinct. -/
theorem nodup_keys_put {map : OrderedMap κ ν} (distinct : (keys map).Nodup) (key : κ) (value : ν) :
    (keys (put key value map)).Nodup := by
  rw [keys_put]
  split
  · exact distinct
  · rename_i absent
    rw [← List.concat_eq_append]
    exact distinct.concat absent

/-- A new key comes last. -/
theorem put_of_not_mem {key : κ} {map : OrderedMap κ ν} (new : key ∉ keys map) (value : ν) :
    put key value map = map ++ [(key, value)] := by
  induction map with
  | nil => rfl
  | cons entry rest ih =>
    obtain ⟨first, kept⟩ := entry
    rw [keys, List.map_cons, List.mem_cons, not_or] at new
    rw [put, if_neg (Ne.symm new.1), ih new.2, List.cons_append]

theorem get?_last {key : κ} {map : OrderedMap κ ν} (new : key ∉ keys map) (value : ν) :
    get? key (map ++ [(key, value)]) = some value := by
  rw [get?_append, get?_eq_none_iff.mpr new, Option.none_or, get?, if_pos rfl]

/-- Putting the last key again replaces the last value. -/
theorem put_last {key : κ} {map : OrderedMap κ ν} (new : key ∉ keys map) (earlier value : ν) :
    put key value (map ++ [(key, earlier)]) = map ++ [(key, value)] := by
  induction map with
  | nil => exact if_pos rfl
  | cons entry rest ih =>
    obtain ⟨first, kept⟩ := entry
    rw [keys, List.map_cons, List.mem_cons, not_or] at new
    rw [List.cons_append, put, if_neg (Ne.symm new.1), ih new.2, List.cons_append]

/-- A key that is there keeps its place, and the other entries are left alone. -/
theorem put_of_mem {key : κ} {map : OrderedMap κ ν} (distinct : (keys map).Nodup)
    (there : key ∈ keys map) (value : ν) :
    put key value map = map.map fun entry => if entry.1 = key then (key, value) else entry := by
  induction map with
  | nil => exact absurd there List.not_mem_nil
  | cons entry rest ih =>
    obtain ⟨first, kept⟩ := entry
    obtain ⟨absent, distinct⟩ := List.nodup_cons.mp distinct
    rw [put, List.map_cons]
    by_cases same : first = key
    · subst same
      have others : (rest.map fun entry => if entry.1 = first then (first, value) else entry)
          = rest := by
        rw [← List.map_id rest, List.map_map]
        apply List.map_congr_left
        intro entry member
        exact if_neg fun equal => absent (List.mem_map.mpr ⟨entry, member, equal⟩)
      rw [if_pos rfl, if_pos rfl, others]
    · rw [if_neg same, if_neg same, ih distinct]
      exact (List.mem_cons.mp there).resolve_left (Ne.symm same)

theorem mem_put {key : κ} {value : ν} {map : OrderedMap κ ν} {entry : κ × ν}
    (member : entry ∈ put key value map) : entry = (key, value) ∨ entry ∈ map := by
  induction map with
  | nil => exact .inl (List.mem_singleton.mp member)
  | cons held rest ih =>
    obtain ⟨first, kept⟩ := held
    rw [put] at member
    split at member
    · rename_i same
      subst same
      rcases List.mem_cons.mp member with first | later
      · exact .inl first
      · exact .inr (List.mem_cons_of_mem _ later)
    · rcases List.mem_cons.mp member with rfl | later
      · exact .inr List.mem_cons_self
      · exact (ih later).imp_right (List.mem_cons_of_mem _)

/-- What entries are put over a map, one after the other, keeps the keys distinct and adds nothing
but the entries. -/
theorem putAll_keeps (map entries : OrderedMap κ ν) (distinct : (keys map).Nodup) :
    (keys (putAll map entries)).Nodup ∧ ∀ entry ∈ putAll map entries, entry ∈ map ++ entries := by
  induction entries generalizing map with
  | nil => exact ⟨distinct, fun _ member => List.mem_append_left _ member⟩
  | cons entry others ih =>
    obtain ⟨still, within⟩ := ih _ (nodup_keys_put distinct entry.1 entry.2)
    refine ⟨still, fun other member => ?_⟩
    rcases List.mem_append.mp (within other member) with put | later
    · rcases mem_put put with rfl | before
      · exact List.mem_append_right _ List.mem_cons_self
      · exact List.mem_append_left _ before
    · exact List.mem_append_right _ (List.mem_cons_of_mem _ later)

/-- The key of every entry that is put is there. -/
theorem mem_keys_putAll {key : κ} {map entries : OrderedMap κ ν}
    (member : key ∈ keys map ∨ key ∈ keys entries) : key ∈ keys (putAll map entries) := by
  induction entries generalizing map with
  | nil => exact member.resolve_right List.not_mem_nil
  | cons entry others ih =>
    refine ih ?_
    have put : key ∈ keys map ∨ key = entry.1 → key ∈ keys (put entry.1 entry.2 map) := by
      rw [keys_put]
      rintro (before | rfl)
      · split
        · exact before
        · exact List.mem_append_left _ before
      · split
        · assumption
        · exact List.mem_append_right _ (List.mem_singleton_self _)
    rcases member with before | inside
    · exact .inl (put (.inl before))
    · exact (List.mem_cons.mp inside).imp (fun same => put (.inr same)) id

theorem mem_keys_ofList {key : κ} {entries : List (κ × ν)} (member : key ∈ keys entries) :
    key ∈ keys (ofList entries) := mem_keys_putAll (.inr member)

theorem nodup_keys_ofList (entries : List (κ × ν)) : (keys (ofList entries)).Nodup :=
  (putAll_keeps [] entries List.nodup_nil).1

theorem mem_of_mem_ofList {entries : List (κ × ν)} {entry : κ × ν}
    (member : entry ∈ ofList entries) : entry ∈ entries :=
  (putAll_keeps [] entries List.nodup_nil).2 entry member

/-- Entries with new and distinct keys are added as they are. -/
theorem putAll_of_nodup {map entries : OrderedMap κ ν} (distinct : (keys (map ++ entries)).Nodup) :
    putAll map entries = map ++ entries := by
  induction entries generalizing map with
  | nil => exact (List.append_nil map).symm
  | cons entry others ih =>
    obtain ⟨key, value⟩ := entry
    have together : map ++ (key, value) :: others = map ++ [(key, value)] ++ others :=
      (List.append_assoc map [(key, value)] others).symm
    have new : key ∉ keys map := by
      unfold keys at distinct ⊢
      rw [List.map_append, List.map_cons] at distinct
      exact fun member => (List.nodup_append.mp distinct).2.2 key member key List.mem_cons_self rfl
    change putAll (put key value map) others = _
    rw [put_of_not_mem new, together]
    rw [together] at distinct
    exact ih distinct

theorem ofList_of_nodup {entries : List (κ × ν)} (distinct : (keys entries).Nodup) :
    ofList entries = entries := putAll_of_nodup distinct

/-- Putting entries keeps to a change of keys that leaves different keys different. -/
theorem ofList_map {κ' : Type} [DecidableEq κ'] {change : κ → κ'}
    (apart : Function.Injective change) (entries : List (κ × ν)) :
    ofList (entries.map (Prod.map change id)) = (ofList entries).map (Prod.map change id) := by
  have put_map (key : κ) (value : ν) (map : OrderedMap κ ν) :
      put (change key) value (map.map (Prod.map change id)) =
        (put key value map).map (Prod.map change id) := by
    induction map with
    | nil => rfl
    | cons entry rest ih =>
      obtain ⟨first, kept⟩ := entry
      by_cases same : first = key
      · subst same
        simp [put]
      · simp [put, same, apart.ne same, ih]
  have putAll_map (map : OrderedMap κ ν) :
      putAll (map.map (Prod.map change id)) (entries.map (Prod.map change id)) =
        (putAll map entries).map (Prod.map change id) := by
    induction entries generalizing map with
    | nil => rfl
    | cons entry rest ih =>
      change putAll (put (change entry.1) entry.2 _) _ = (putAll (put entry.1 entry.2 map) rest).map _
      rw [← ih, ← put_map]
  exact putAll_map []

/-- What is found after putting entries with distinct keys: one of them, or what was there. -/
theorem get?_putAll {map entries : OrderedMap κ ν} (distinct : (keys entries).Nodup) (key : κ) :
    get? key (putAll map entries) = (get? key entries).or (get? key map) := by
  induction entries generalizing map with
  | nil => rfl
  | cons entry others ih =>
    obtain ⟨first, value⟩ := entry
    obtain ⟨absent, distinct⟩ := List.nodup_cons.mp distinct
    change get? key (putAll (put first value map) others) = _
    rw [ih distinct, get?_put, get?]
    by_cases same : first = key
    · subst same
      have unseen : get? first others = none := get?_eq_none_iff.mpr absent
      simp only [unseen, ↓reduceIte, Option.none_or, Option.some_or]
    · simp only [same, ↓reduceIte]

/-! ## Reading entries -/

section Reading

variable {ε ι : Type} {read : ι → Except ε (κ × ν)}

/-- Items that are all read are put in their order. -/
theorem readOnto_of_forall₂ {items : List ι} {entries : List (κ × ν)}
    (each : List.Forall₂ (fun item entry => read item = .ok entry) items entries)
    (found : OrderedMap κ ν) : readOnto read found items = .ok (putAll found entries) := by
  induction each generalizing found with
  | nil => rfl
  | @cons item entry others _ first _ ih =>
    rw [readOnto, first]
    exact ih (put entry.1 entry.2 found)

theorem readOnto_cons_of_error {item : ι} {fault : ε} (failed : read item = .error fault)
    (found : OrderedMap κ ν) (others : List ι) :
    readOnto read found (item :: others) = .error fault := by
  rw [readOnto, failed]
  rfl

theorem readOnto_cons_of_ok {item : ι} {entry : κ × ν} (first : read item = .ok entry)
    (found : OrderedMap κ ν) (others : List ι) :
    readOnto read found (item :: others) =
      readOnto read (put entry.1 entry.2 found) others := by
  rw [readOnto, first]
  rfl

end Reading

/-! ## Entries in order -/

section Sorting

omit [DecidableEq κ]

variable {ω : Type} [LinearOrder ω] {map other : OrderedMap κ ν}

variable {precedes : κ → κ → Bool} {place : κ → ω}

theorem sortedBy_perm (precedes : κ → κ → Bool) (map : OrderedMap κ ν) :
    (map.sortedBy precedes).Perm map :=
  List.mergeSort_perm _ _

end Sorting

end CatalogDelta.OrderedMap
