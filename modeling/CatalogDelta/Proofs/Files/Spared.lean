import CatalogDelta.Proofs.Files.Replace

/-!
# Files that are left alone

Writing a file changes no other one and unmakes no folder, and neither does making a folder. A draft
never stands at the path that it is for; once it has been moved, what it held stands there.
-/

namespace CatalogDelta

namespace Path

variable {path draft : Path}

/-- One name more makes a text no shorter. -/
theorem length_intercalate_le (separator : String) (names : List String) (last : String) :
    (separator.intercalate names).length ≤ (separator.intercalate (names ++ [last])).length := by
  induction names with
  | nil => exact Nat.zero_le _
  | cons name others ih =>
    cases others with
    | nil =>
      simp only [List.cons_append, List.nil_append, String.intercalate_singleton,
        String.intercalate_cons_cons, String.length_append]
      omega
    | cons next rest =>
      rw [List.cons_append] at ih
      rw [List.cons_append, List.cons_append, String.intercalate_cons_cons,
        String.intercalate_cons_cons]
      simp only [String.length_append]
      omega

/-- A pair of points takes the last name away. -/
theorem climbed_concat_points (names : List String) :
    climbed (names ++ [".."]) = (climbed names).dropLast := by
  unfold climbed
  rw [List.foldl_append, List.foldl_cons, List.foldl_nil, if_pos rfl]
  cases names.foldl (fun found name => if name = ".." then found.drop 1 else name :: found) [] with
  | nil => rfl
  | cons name others => rw [List.drop_one, List.tail_cons, List.reverse_cons, List.dropLast_concat]

/-- With a name of its own a text is longer than without the name before it. -/
theorem length_intercalate_dropLast_lt (separator : String) (names : List String) {name : String}
    (some : 0 < name.length) :
    (separator.intercalate names.dropLast).length <
      (separator.intercalate (names ++ [name])).length := by
  have shorter : (separator.intercalate names.dropLast).length ≤
      (separator.intercalate names).length := by
    rcases List.eq_nil_or_concat names with rfl | ⟨before, last, rfl⟩
    · exact Nat.le_refl _
    · rw [List.concat_eq_append, List.dropLast_concat]
      exact length_intercalate_le separator before last
  have longer := length_intercalate_le separator names ""
  have longest := congrArg String.length (intercalate_longer separator names "" name)
  rw [String.empty_append, String.length_append] at longest
  omega

/-- A draft never stands at the path that it is for. -/
theorem key_draft_ne (extended : path.extended? ".tmp" = some draft) : draft.key ≠ path.key := by
  by_cases points : path.names.getLast? = some ".."
  · have names_eq : path.names.dropLast ++ [".."] = path.names :=
      List.dropLast_append_getLast? ".." points
    have draft_eq : draft = { path with names := path.names.dropLast ++ ["...tmp"] } := by
      unfold extended? at extended
      rw [points] at extended
      exact (Option.some.inj extended).symm
    have path_eq : climbed path.names = (climbed path.names.dropLast).dropLast := by
      rw [← climbed_concat_points, names_eq]
    have named : ("...tmp" : String) ≠ ".." := by decide
    have longer : (climbed draft.names) = climbed path.names.dropLast ++ ["...tmp"] := by
      rw [draft_eq, climbed_concat _ named]
    have rooted : draft.rooted = path.rooted := by rw [draft_eq]
    intro same
    -- The draft keeps the name that the points take away, and adds one of its own.
    have lengths := congrArg String.length same
    have more := length_intercalate_dropLast_lt "/" (climbed path.names.dropLast)
      (show 0 < "...tmp".length by decide)
    rw [key, key, longer, path_eq, rooted, String.length_append, String.length_append] at lengths
    omega
  · exact (apart_of_key_eq (key_of_extended? extended points (by decide)).1).1

end Path

namespace Files

variable {path draft other : Path} {before files after : Files} {bytes : ByteArray}

/-- The file at a path is as it was before, and the path is still a folder if it was one. -/
structure Spares (path : Path) (before after : Files) : Prop where
  kept : OrderedMap.get? path.key after.contents = OrderedMap.get? path.key before.contents
  folder : before.isFolder path = true → after.isFolder path = true

theorem Spares.refl (path : Path) (files : Files) : Spares path files files := ⟨rfl, id⟩

/-- Contents under another key do not matter. -/
theorem Spares.put (spares : Spares path before files) {key : String} (apart : key ≠ path.key)
    (bytes : ByteArray) :
    Spares path before { files with contents := OrderedMap.put key bytes files.contents } where
  kept := by
    rw [OrderedMap.get?_put, if_neg apart]
    exact spares.kept
  folder there := by
    unfold isFolder
    rw [isFolderKey_put]
    exact Bool.or_eq_true_iff.mpr (.inl (spares.folder there))

theorem eq_of_write (written : files.write path bytes = .ok after) :
    after = { files with contents := OrderedMap.put path.key bytes files.contents } := by
  unfold write at written
  split at written
  · contradiction
  · split at written
    · contradiction
    · exact (Except.ok.inj written).symm

theorem Spares.write (spares : Spares path before files) (apart : other.key ≠ path.key)
    (written : files.write other bytes = .ok after) :
    Spares path before after ∧ after.held = files.held := by
  obtain rfl := eq_of_write written
  exact ⟨spares.put apart bytes, rfl⟩

theorem Spares.makeFolder (spares : Spares path before files)
    (made : files.makeFolder other = .ok after) :
    Spares path before after ∧ after.held = files.held := by
  unfold Files.makeFolder at made
  split at made
  · obtain rfl := Except.ok.inj made
    exact ⟨spares, rfl⟩
  · split at made
    · contradiction
    · split at made
      · contradiction
      · obtain rfl := Except.ok.inj made
        refine ⟨⟨spares.kept, fun there => ?_⟩, rfl⟩
        have still := spares.folder there
        unfold isFolder isFolderKey at still ⊢
        simp only [Bool.or_eq_true, List.contains_iff_mem, List.mem_append] at still ⊢
        tauto

/-- More text in the file that is held open does not matter to another file. -/
theorem Spares.appendHeld (spares : Spares path before files)
    (apart : ∀ key ∈ files.held, key ≠ path.key) (text : String) :
    Spares path before (files.appendHeld text) ∧ (files.appendHeld text).held = files.held := by
  unfold Files.appendHeld
  split
  · exact ⟨spares, rfl⟩
  · rename_i key held
    exact ⟨spares.put (apart key held) _, rfl⟩

/-- Opening a file holds it and does not matter to another file. -/
theorem Spares.hold (spares : Spares path before files) (apart : other.key ≠ path.key)
    (opened : files.hold other = .ok after) :
    Spares path before after ∧ after.held = some other.key := by
  unfold Files.hold at opened
  obtain ⟨made, written, same⟩ := Act.exists_of_bind_eq_ok opened
  obtain rfl := Except.ok.inj same
  obtain ⟨kept, folder⟩ := (spares.write apart written).1
  exact ⟨⟨kept, folder⟩, rfl⟩

/-- What a draft holds stands at the path once the draft has been moved there; a file that is held
open stays where it is unless it is one of the two. -/
theorem eq_of_move (apart : draft.key ≠ path.key) (moved : files.move draft path = .ok after) :
    OrderedMap.get? path.key after.contents = OrderedMap.get? draft.key files.contents ∧
      ((∀ key ∈ files.held, key ≠ draft.key ∧ key ≠ path.key) → after.held = files.held) := by
  unfold move at moved
  obtain ⟨bytes, read, moved⟩ := Act.exists_of_bind_eq_ok moved
  obtain ⟨placed, written, same⟩ := Act.exists_of_bind_eq_ok moved
  obtain rfl := Except.ok.inj same
  obtain rfl := eq_of_write written
  have stored : OrderedMap.get? draft.key files.contents = some bytes := by
    unfold readBytes at read
    split at read
    · rename_i found
      rw [found, Except.ok.inj read]
    · contradiction
  constructor
  · rw [OrderedMap.get?_erase, if_neg apart, OrderedMap.get?_put, if_pos rfl, stored]
  · intro elsewhere
    dsimp only
    cases held : files.held with
    | none => rfl
    | some key =>
      obtain ⟨notDraft, notPath⟩ := elsewhere key held
      rw [Option.bind_some, keyAfter, if_neg notDraft, if_neg notPath]

end Files
end CatalogDelta
