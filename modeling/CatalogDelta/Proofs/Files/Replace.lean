import CatalogDelta.Files.Access
import CatalogDelta.Proofs.Act.Gives
import CatalogDelta.Proofs.OrderedMap

/-!
# Files that are replaced

A file is replaced by way of a neighbour with a longer name, which is gone in the end. No other file
changes, and what was written is read back. Main statements: `Files.Accepts.replaced`,
`Files.Replaced.readText`, `FileAccess.Lawful.runOn_replace`.
-/

namespace CatalogDelta

namespace Path

/-- More characters at the end of the last text are more characters at the end of all. -/
theorem intercalate_longer (separator : String) (names : List String) (last ending : String) :
    separator.intercalate (names ++ [last ++ ending]) =
      separator.intercalate (names ++ [last]) ++ ending := by
  induction names with
  | nil =>
    rw [List.nil_append, List.nil_append, String.intercalate_singleton,
      String.intercalate_singleton]
  | cons name others ih =>
    cases others with
    | nil =>
      simp only [List.cons_append, List.nil_append, String.intercalate_cons_cons,
        String.intercalate_singleton, String.append_assoc]
    | cons next rest =>
      rw [List.cons_append, List.cons_append] at ih ⊢
      rw [List.cons_append, List.cons_append, String.intercalate_cons_cons, ih,
        String.intercalate_cons_cons, ← String.append_assoc]

theorem climbed_concat (names : List String) {name : String} (plain : name ≠ "..") :
    climbed (names ++ [name]) = climbed names ++ [name] := by
  unfold climbed
  rw [List.foldl_append, List.foldl_cons, List.foldl_nil, if_neg plain, List.reverse_cons]

variable {path draft : Path} {name ending : String}

/-- A longer path has a longer key, in the same folder. -/
theorem key_of_extended? (extended : path.extended? ending = some draft)
    (plain : path.names.getLast? ≠ some "..") (long : 2 < ending.length) :
    draft.key = path.key ++ ending ∧ draft.parent = path.parent := by
  unfold extended? at extended
  split at extended
  · contradiction
  · rename_i name last
    cases extended
    have names_eq : path.names.dropLast ++ [name] = path.names :=
      List.dropLast_append_getLast? name last
    have unclimbed : name ≠ ".." := by
      rintro rfl
      exact plain last
    have longer : name ++ ending ≠ ".." := by
      intro same
      have lengths := congrArg String.length same
      rw [String.length_append] at lengths
      have two : "..".length = 2 := rfl
      omega
    constructor
    · rw [key, key]
      dsimp only
      rw [climbed_concat _ longer, intercalate_longer, ← climbed_concat _ unclimbed, names_eq,
        ← String.append_assoc]
    · rw [parent, parent]
      dsimp only
      rw [List.dropLast_concat]

/-- A draft is neither at the path nor below it. -/
theorem apart_of_key_eq (key_eq : draft.key = path.key ++ ".tmp") :
    draft.key ≠ path.key ∧ (path.key ++ "/").toList.isPrefixOf draft.key.toList = false := by
  rw [key_eq]
  constructor
  · intro same
    have lengths := congrArg String.length same
    rw [String.length_append] at lengths
    have four : ".tmp".length = 4 := rfl
    omega
  · -- The draft goes on with a point where what is below the path goes on with a slash.
    rw [Bool.eq_false_iff]
    intro inside
    rw [List.isPrefixOf_iff_prefix, String.toList_append, String.toList_append,
      List.prefix_append_right_inj] at inside
    exact absurd inside (by decide)

end Path

namespace Encoding

theorem plainLines_of_not_mem {text : List Char} (unreturned : '\r' ∉ text) :
    plainLines text = text := by
  induction text with
  | nil => rfl
  | cons c rest ih =>
    rw [List.mem_cons, not_or] at unreturned
    obtain ⟨other, unreturned⟩ := unreturned
    rw [plainLines.eq_def]
    split
    · contradiction
    · rename_i same
      exact absurd (List.cons.inj same).1.symm other
    · rename_i same
      exact absurd (List.cons.inj same).1.symm other
    · rename_i same
      obtain ⟨rfl, rfl⟩ := List.cons.inj same
      rw [ih unreturned]

/-- A text without carriage returns is read back from its bytes. -/
theorem decode_encode {text : String} (unreturned : '\r' ∉ text.toList) :
    decode (encode text) = .ok text := by
  have read : String.fromUTF8? text.toUTF8 = some text := by
    unfold String.fromUTF8?
    rw [String.toUTF8_eq_toByteArray, dif_pos text.isValidUTF8]
    rfl
  unfold decode encode
  rw [read]
  dsimp only
  rw [plainLines_of_not_mem unreturned, String.ofList_toList]

end Encoding

namespace Files

variable {files ready : Files} {path draft : Path} {text : String}

/-- What writing a file makes a folder: what was one before, and what is on the way to the file. -/
theorem isFolderKey_put (files : Files) (stored key : String) (bytes : ByteArray) :
    isFolderKey { files with contents := OrderedMap.put stored bytes files.contents } key =
      (files.isFolderKey key || (key ++ "/").toList.isPrefixOf stored.toList) := by
  have folder_eq (map : OrderedMap String ByteArray) :
      isFolderKey { files with contents := map } key =
        (key.isEmpty || key = "/" || files.folders.contains key ||
          (OrderedMap.keys map).any fun stored => (key ++ "/").toList.isPrefixOf stored.toList) := by
    unfold isFolderKey
    rw [OrderedMap.keys, List.any_map]
    rfl
  have any_put : ((OrderedMap.keys (OrderedMap.put stored bytes files.contents)).any
        fun stored => (key ++ "/").toList.isPrefixOf stored.toList) =
      (((OrderedMap.keys files.contents).any fun stored =>
        (key ++ "/").toList.isPrefixOf stored.toList) ||
          (key ++ "/").toList.isPrefixOf stored.toList) := by
    rw [OrderedMap.keys_put]
    split
    · rename_i there
      cases inside : (key ++ "/").toList.isPrefixOf stored.toList with
      | false => rw [Bool.or_false]
      | true => rw [Bool.or_true, List.any_eq_true.mpr ⟨stored, there, inside⟩]
    · rw [List.any_append, List.any_cons, List.any_nil, Bool.or_false]
  rw [folder_eq, folder_eq files.contents, any_put, ← Bool.or_assoc]

/-- Making a folder changes no file. -/
theorem makeFolder_eq_ok (made : files.makeFolder path = .ok ready) :
    ready.contents = files.contents ∧ ready.isFolder path = true := by
  unfold makeFolder at made
  split at made
  · rename_i there
    cases made
    exact ⟨rfl, there⟩
  · split at made
    · contradiction
    · split at made
      · contradiction
      · cases made
        refine ⟨rfl, ?_⟩
        have kept : path.key ∈ files.folders ++ ((wayTo path).drop 1 ++ [path]).map Path.key := by
          rw [List.map_append]
          exact List.mem_append_right _ (List.mem_append_right _ List.mem_cons_self)
        simp only [isFolder, isFolderKey, List.contains_iff_mem.mpr kept, Bool.or_true,
          Bool.true_or]

theorem write_eq_ok (free : files.isFolder path = false)
    (folder : files.isFolder path.parent = true) (bytes : ByteArray) :
    files.write path bytes =
      .ok { files with contents := OrderedMap.put path.key bytes files.contents } := by
  unfold write
  rw [free, folder]
  rfl

/-- A text stands at a path in place of what was there; its draft is gone, and no other file has
changed. -/
structure Replaced (before after : Files) (path draft : Path) (text : String) : Prop where
  stored : OrderedMap.get? path.key after.contents = some (Encoding.encode text)
  gone : OrderedMap.get? draft.key after.contents = none
  others : ∀ key, key ≠ path.key → key ≠ draft.key →
    OrderedMap.get? key after.contents = OrderedMap.get? key before.contents

/-- A text can be put in place at a path by way of a draft, which has a longer name: the path ends
in a name of its own, the folders on the way to it are there or can be made, and neither the path
nor the draft is a folder then. -/
structure Accepts (files : Files) (path draft : Path) : Prop where
  extended : path.extended? ".tmp" = some draft
  named : path.names.getLast? ≠ some ".."
  room : ∃ ready, files.makeFolder path.parent = .ok ready ∧ ready.isFolder path = false ∧
    ready.isFolder draft = false

/-- **A file is replaced** by writing a draft and moving it, once its folder is there. -/
theorem Accepts.replaced (accepts : files.Accepts path draft) (text : String) :
    ∃ ready written after, files.makeFolder path.parent = .ok ready ∧
      ready.writeText draft text = .ok written ∧ written.move draft path = .ok after ∧
        Replaced files after path draft text := by
  obtain ⟨extended, plain, ready, made, free, draftFree⟩ := accepts
  obtain ⟨key_eq, parent_eq⟩ := Path.key_of_extended? extended plain (by decide)
  obtain ⟨kept, folder⟩ := makeFolder_eq_ok made
  obtain ⟨apart, outside⟩ := Path.apart_of_key_eq key_eq
  let bytes := Encoding.encode text
  let written : Files := { ready with contents := OrderedMap.put draft.key bytes ready.contents }
  let placed : Files := { written with contents := OrderedMap.put path.key bytes written.contents }
  let after : Files := { placed with
    contents := OrderedMap.erase draft.key placed.contents
    held := placed.held.bind (keyAfter draft.key path.key) }
  have wrote : ready.writeText draft text = .ok written :=
    write_eq_ok draftFree (parent_eq ▸ folder) bytes
  have stillFree : written.isFolder path = false := by
    unfold isFolder at free ⊢
    rw [isFolderKey_put, free, outside]
    rfl
  have stillFolder : written.isFolder path.parent = true := by
    unfold isFolder at folder ⊢
    rw [isFolderKey_put, folder, Bool.true_or]
  have read : written.readBytes draft = .ok bytes := by
    unfold readBytes
    rw [OrderedMap.get?_put, if_pos rfl]
  have moved : written.move draft path = .ok after := by
    unfold move
    rw [read]
    change (written.write path bytes >>= _) = _
    rw [write_eq_ok stillFree stillFolder bytes]
    rfl
  refine ⟨ready, written, after, made, wrote, moved, ?_, ?_, ?_⟩
  · rw [OrderedMap.get?_erase, if_neg apart, OrderedMap.get?_put, if_pos rfl]
  · rw [OrderedMap.get?_erase, if_pos rfl]
  · intro key other different
    rw [OrderedMap.get?_erase, if_neg (Ne.symm different), OrderedMap.get?_put,
      if_neg (Ne.symm other), OrderedMap.get?_put, if_neg (Ne.symm different), kept]

/-- A text without carriage returns that was put in place is there and is read back. -/
theorem Replaced.readText {before after : Files} (replaced : Replaced before after path draft text)
    (unreturned : '\r' ∉ text.toList) :
    after.isThere path = true ∧ after.readText path = .ok text := by
  constructor
  · unfold isThere isFile OrderedMap.hasKey
    rw [replaced.stored]
    rfl
  · unfold Files.readText readBytes
    rw [replaced.stored]
    exact Encoding.decode_encode unreturned

end Files

namespace FileAccess

variable {σ : Type} {access : FileAccess σ} {stage : Stage σ} {files : Files} {path draft : Path}

/-- Setting the files sets them, and of two settings the later one stands. -/
structure Lawful (access : FileAccess σ) : Prop where
  files_setFiles : ∀ files outside, access.files (access.setFiles files outside) = files
  setFiles_setFiles : ∀ later earlier outside,
    access.setFiles later (access.setFiles earlier outside) = access.setFiles later outside

/-- The stage with other files. -/
def staged (access : FileAccess σ) (stage : Stage σ) (files : Files) : Stage σ :=
  { stage with outside := access.setFiles files stage.outside }

theorem runOn_step {step : Files → Except Fault Files}
    (done : step (access.files stage.outside) = .ok files) :
    Act.runOn (access.step step) stage = (.ok (), access.staged stage files) := by
  unfold FileAccess.step
  simp only [Act.runOn_bind, Act.runOn_view, Act.runOn_settle, done, Act.runOn_change]
  rfl

theorem runOn_isThere (access : FileAccess σ) (path : Path) (stage : Stage σ) :
    Act.runOn (access.isThere path) stage =
      (.ok ((access.files stage.outside).isThere path), stage) := by
  unfold FileAccess.isThere
  simp only [Act.runOn_bind, Act.runOn_view, Act.runOn_pure]

theorem runOn_readText (access : FileAccess σ) (path : Path) (stage : Stage σ) :
    Act.runOn (access.readText path) stage =
      ((access.files stage.outside).readText path, stage) := by
  unfold FileAccess.readText
  simp only [Act.runOn_bind, Act.runOn_view, Act.runOn_settle]

end FileAccess
end CatalogDelta
