import CatalogDelta.Proofs.UpdateTime.Memory
import Mathlib.Data.List.Perm.Basic

/-!
# The time of a directory

A directory counts by its newest child that has a time, and by its own time if no child has one.
Neither the order of the children counts, nor do children that are no newer than that.
-/

namespace CatalogDelta

open Act

/-- What the value tells is a finite number of milliseconds. A moment that there is always is. -/
def Data.Scales : Data → Prop
  | .moment value => value.isValid = true
  | value => ∀ seconds, value.seconds? = some seconds → Decimal.IsFinite (seconds * 1000)

/-- Lists with the same members but for some that are bounded by them have the same maximum. -/
theorem max?_eq_of_bounded {times others : List Int} (part : ∀ time ∈ times, time ∈ others)
    (bounded : ∀ time ∈ others, ∃ best ∈ times, time ≤ best) : others.max? = times.max? := by
  cases newest : times.max? with
  | none =>
    rw [List.max?_eq_none_iff] at newest
    subst newest
    rw [List.max?_eq_none_iff, List.eq_nil_iff_forall_not_mem]
    intro time member
    obtain ⟨best, inside, -⟩ := bounded time member
    exact List.not_mem_nil inside
  | some best =>
    obtain ⟨member, most⟩ := List.max?_eq_some_iff.mp newest
    refine List.max?_eq_some_iff.mpr ⟨part best member, fun time inside => ?_⟩
    obtain ⟨above, memberToo, le⟩ := bounded time inside
    exact le.trans (most above memberToo)

namespace Storage

/-- The time of an entry in milliseconds: what its first usable value tells, if it is finite. -/
def entryTime? (entry : Data) : Option Int :=
  (stamp? entry).bind fun seconds => (millis seconds).toOption

/-- The time that an entry tells, if it tells one, is a finite number of milliseconds. -/
def Scales (entry : Data) : Prop := ∀ value, telling? entry = some value → value.Scales

theorem exists_millis_of_scales {value : Data} {seconds : Float} (scales : value.Scales)
    (told : value.seconds? = some seconds) : ∃ time, millis seconds = .ok time := by
  cases value with
  | moment value =>
    obtain rfl := Option.some.inj told
    exact exists_millis_of_moment scales
  | null | bool | int | float | text | list | map | span =>
    exact exists_millis_iff.mpr (scales seconds told)

/-- The stamps of entries that scale are read without a fault. -/
theorem mapM_millis_of_scales {listing : List Data} (scales : ∀ entry ∈ listing, Scales entry) :
    (listing.filterMap stamp?).mapM millis = .ok (listing.filterMap entryTime?) := by
  induction listing with
  | nil => rfl
  | cons entry others ih =>
    obtain ⟨first, rest⟩ := List.forall_mem_cons.mp scales
    rw [List.filterMap_cons, List.filterMap_cons]
    unfold entryTime?
    cases stamped : stamp? entry with
    | none => exact ih rest
    | some seconds =>
      obtain ⟨value, telling, told⟩ := Option.bind_eq_some_iff.mp stamped
      obtain ⟨time, read⟩ := exists_millis_of_scales (first value telling) told
      rw [List.mapM_cons, read, ih rest, Option.bind_some, read]
      rfl

theorem newest_of_scales {listing : List Data} (scales : ∀ entry ∈ listing, Scales entry) :
    newest none listing = .ok (listing.filterMap entryTime?).max? := by
  have told := mapError_newest none listing
  rw [mapM_millis_of_scales scales] at told
  exact mapError_eq_ok_iff.mp told

/-- Neither the order of entries counts for the latest time, nor do entries that are no newer. -/
theorem max?_entryTime?_of_perm {listing listed additions : List Data}
    (same : listed.Perm (listing ++ additions))
    (older : ∀ addition ∈ additions, ∀ time, entryTime? addition = some time →
      ∃ best ∈ listing.filterMap entryTime?, time ≤ best) :
    (listed.filterMap entryTime?).max? = (listing.filterMap entryTime?).max? := by
  have times : (listed.filterMap entryTime?).Perm
      (listing.filterMap entryTime? ++ additions.filterMap entryTime?) := by
    rw [← List.filterMap_append]
    exact same.filterMap entryTime?
  refine max?_eq_of_bounded (fun time member => ?_) fun time member => ?_
  · exact times.mem_iff.mpr (List.mem_append_left _ member)
  · rcases List.mem_append.mp (times.mem_iff.mp member) with before | added
    · exact ⟨time, before, le_rfl⟩
    · obtain ⟨addition, inside, told⟩ := List.mem_filterMap.mp added
      exact older addition inside time told

/-- What comes of a directory with children that scale. -/
theorem time_of_scales (entries : List (String × Data)) {listing : List Data}
    (scales : ∀ entry ∈ listing, Scales entry) :
    Shown.time ⟨entries, some listing⟩ =
      (listing.filterMap entryTime?).max?.elim (timeOf entries) (.ok ∘ some) := by
  unfold Shown.time
  dsimp only [Option.getD_some]
  rw [newest_of_scales scales]
  cases (listing.filterMap entryTime?).max? <;> rfl

theorem timeOf_of_silent {entries : List (String × Data)} (silent : telling? (.map entries) = none) :
    timeOf entries = .ok none := by
  have told := mapError_timeOf entries
  rw [stamp?, silent] at told
  exact mapError_eq_ok_iff.mp told

theorem timeOf_of_entryTime? {entries : List (String × Data)} {own : Int}
    (has : entryTime? (.map entries) = some own) : timeOf entries = .ok (some own) := by
  obtain ⟨seconds, stamped, read⟩ := Option.bind_eq_some_iff.mp has
  have counted : millis seconds = .ok own := by
    cases found : millis seconds with
    | error kind => rw [found] at read; contradiction
    | ok time => exact congrArg Except.ok (Option.some.inj (found ▸ read :))
  have told := mapError_timeOf entries
  rw [stamped, Option.elim_some, counted] at told
  exact mapError_eq_ok_iff.mp told

variable {σ : Type}

/-- Storage shows a directory with its children at a path. -/
structure ShowsDirectory (storage : Storage σ) (ready : σ → Prop) (source : Nat)
    (options : List (String × Data)) (path : String) (entries : List (String × Data))
    (listing : List Data) : Prop where
  reached : Gives ready (storage.ensure source options (protocolOf path)) (.ok ())
  there : Gives ready (storage.isThere (protocolOf path) path) (.ok true)
  known : Gives ready (storage.info (protocolOf path) path) (.ok (.map entries))
  directory : isDirectory entries = true
  listed : Gives ready (storage.children (protocolOf path) path) (.ok (.list listing))

variable {storage : Storage σ} {ready : σ → Prop} {source : Nat} {options : List (String × Data)}
  {entity : Entity} {path : String} {entries : List (String × Data)} {listing : List Data}

/-- Systems with fixed replies show a directory if that is what they reply. -/
theorem Replying.showsDirectory {replies : Replies} {base : σ → Prop}
    {attempts : σ → List (String × List (String × Data))}
    (replying : storage.Replying replies base attempts)
    (once : OrderedMap.hasKey "protocol" options = false)
    (connects : replies.connect (protocolOf path) options = .ok ())
    (there : replies.isThere (protocolOf path) path = .ok true)
    (known : replies.info (protocolOf path) path = .ok (.map entries))
    (directory : isDirectory entries = true)
    (listed : replies.children (protocolOf path) path = .ok (.list listing)) :
    storage.ShowsDirectory
      (fun outside => ∃ books : Books, books.Sound replies source options ∧
        books.Hold storage base attempts outside) source options path entries listing where
  directory := directory
  reached := by
    rintro stage ⟨books, sound, holds⟩
    obtain ⟨given, held⟩ := ensure_moves replying sound once (protocolOf path) stage holds
    exact ⟨given.trans connects, _, sound_askFor sound once (protocolOf path), held⟩
  there := by
    rintro stage ⟨books, sound, holds⟩
    obtain ⟨given, held⟩ := replying.isThere (protocolOf path) path books stage holds
    exact ⟨given.trans there, books, sound, held⟩
  known := by
    rintro stage ⟨books, sound, holds⟩
    obtain ⟨given, held⟩ := replying.info (protocolOf path) path books stage holds
    exact ⟨given.trans known, books, sound, held⟩
  listed := by
    rintro stage ⟨books, sound, holds⟩
    obtain ⟨given, held⟩ := replying.children (protocolOf path) path books stage holds
    exact ⟨given.trans listed, books, sound, held⟩

theorem ShowsDirectory.gather
    (shows : storage.ShowsDirectory ready source options path entries listing) (entity : Entity) :
    Gives ready (storage.gather source options entity path) (.ok ⟨entries, some listing⟩) := by
  refine shows.reached.bind (shows.there.bind (shows.known.bind ?_))
  simp only [shows.directory, ↓reduceIte]
  exact shows.listed.bind (Gives.bind (gives_settle _) (gives_pure _))

theorem ShowsDirectory.lookUp
    (shows : storage.ShowsDirectory ready source options path entries listing)
    (located : entity.location = .text path) (present : path ≠ "") :
    Gives ready (storage.lookUp source options entity)
      (answerFor entity (Shown.time ⟨entries, some listing⟩)) := by
  have truthy : entity.location.isTruthy = true := located ▸ isTruthy_text present
  have asked : Gives ready (storage.asked source options entity)
      (Shown.time ⟨entries, some listing⟩) := by
    unfold Storage.asked
    rw [located]
    dsimp only
    rw [ask_eq]
    exact (shows.gather entity).bind (gives_settle _)
  intro stage met
  obtain ⟨given, kept⟩ := asked stage met
  obtain ⟨ended, outside⟩ := storage.runOn_lookUp source options entity truthy stage
  rw [ended, outside, given]
  exact ⟨rfl, kept⟩

/-- **A directory counts by its newest child.** The time of a directory is the latest time of its
children; its own time if none of them has one; and if that is missing too, there is no time. The same
comes of every directory with these children in another order, and with further ones that have no
time or are no newer. -/
theorem directory_time
    (shows : storage.ShowsDirectory ready source options path entries listing)
    (located : entity.location = .text path) (present : path ≠ "")
    (scales : ∀ entry ∈ listing, Scales entry) :
    ∃ answer, Gives ready (storage.lookUp source options entity) answer ∧
      (∀ newest, (listing.filterMap entryTime?).max? = some newest → answer = .ok newest) ∧
      (listing.filterMap entryTime? = [] → ∀ own, entryTime? (.map entries) = some own →
        answer = .ok own) ∧
      (listing.filterMap entryTime? = [] → telling? (.map entries) = none →
        answer = .error (noTime entity path)) ∧
      (∀ fault, answer = .error fault →
        listing.filterMap entryTime? = [] ∧ entryTime? (.map entries) = none) ∧
      ∀ {τ : Type} (other : Storage τ) (readyToo : τ → Prop) (sourceToo : Nat)
        (optionsToo : List (String × Data)) (listed additions : List Data),
        other.ShowsDirectory readyToo sourceToo optionsToo path entries listed →
        listed.Perm (listing ++ additions) →
        (∀ addition ∈ additions, Scales addition ∧ ∀ time, entryTime? addition = some time →
          ∃ best ∈ listing.filterMap entryTime?, time ≤ best) →
        Gives readyToo (other.lookUp sourceToo optionsToo entity) answer := by
  have answers := shows.lookUp located present
  rw [time_of_scales entries scales] at answers
  have newest_counts (newest : Int) (latest : (listing.filterMap entryTime?).max? = some newest) :
      answerFor entity ((listing.filterMap entryTime?).max?.elim (timeOf entries) (.ok ∘ some)) =
        .ok newest := by
    rw [latest]
    rfl
  have own_counts (none : listing.filterMap entryTime? = []) :
      answerFor entity ((listing.filterMap entryTime?).max?.elim (timeOf entries) (.ok ∘ some)) =
        answerFor entity (timeOf entries) := by
    rw [none]
    rfl
  refine ⟨_, answers, newest_counts, fun none own told => ?_, fun none silent => ?_,
    fun fault failed => ?_, ?_⟩
  · rw [own_counts none, timeOf_of_entryTime? told]
    rfl
  · rw [own_counts none, timeOf_of_silent silent, answerFor, located]
    rfl
  · have none : listing.filterMap entryTime? = [] := by
      rw [← List.max?_eq_none_iff, Option.eq_none_iff_forall_ne_some]
      intro newest latest
      exact nomatch failed.symm.trans (newest_counts newest latest)
    refine ⟨none, Option.eq_none_iff_forall_ne_some.mpr fun own told => ?_⟩
    rw [own_counts none, timeOf_of_entryTime? told] at failed
    contradiction
  · intro τ other readyToo sourceToo optionsToo listed additions showsToo same older
    have scalesToo : ∀ entry ∈ listed, Scales entry := by
      intro entry member
      rcases List.mem_append.mp (same.mem_iff.mp member) with before | added
      · exact scales entry before
      · exact (older entry added).1
    have latest := max?_entryTime?_of_perm same fun addition member => (older addition member).2
    rw [← latest, ← time_of_scales entries scalesToo]
    exact showsToo.lookUp located present

end Storage

namespace Site

/-- What is known of a directory. -/
def lake : List (String × Data) := [("type", .text "directory"), ("mtime", .int 9)]

/-- A file that says at first something else than when it was changed, and one that says when. -/
def lakeFiles : List Data :=
  [.map [("mtime", .null), ("LastModified", .int 7)], .map [("mtime", .int (-5))]]

/-- Something that is no information, and a file that is older. -/
def lakeRemains : List Data := [.text "lock", .map [("last_modified", .int 3)]]

/-- A drive with the directory on it. -/
def lakeDrive (listing : List Data) : Drive.Rack :=
  [("file", .reachable
    { info := [("/lake", .ok (.map lake))], children := [("/lake", .ok (.list listing))] })]

theorem lakeDrive_shows (listing : List Data) :
    storage.ShowsDirectory
      (fun site => ∃ books : Storage.Books, books.Sound (replies (lakeDrive listing)) 1 [] ∧
        books.Hold storage (fun site => site.drives = lakeDrive listing) Site.connections site)
      1 [] "/lake" lake listing :=
  have protocol : Storage.protocolOf "/lake" = "file" := by decide +kernel
  (storage_replying (lakeDrive listing)).showsDirectory rfl (by rw [protocol]; rfl)
    (by rw [protocol]; rfl) (by rw [protocol]; rfl) rfl (by rw [protocol]; rfl)

theorem scales_of_whole {entry : Data} {whole : Int} (time : Int)
    (telling : Storage.telling? entry = some (.int whole))
    (finite : Storage.millis (Float.ofInt whole) = .ok time) : Storage.Scales entry := by
  intro value told
  obtain rfl := Option.some.inj (telling.symm.trans told)
  intro seconds same
  obtain rfl := Option.some.inj same
  exact Storage.exists_millis_iff.mp ⟨time, finite⟩

/-- The lake counts by its newest file; it makes no difference what else is there and in which
order. -/
theorem lake_time :
    (∀ entry ∈ lakeFiles, Storage.Scales entry) ∧
      (runOn (storage.lookUp 1 [] (storedAt "/lake"))
        { outside := { drives := lakeDrive lakeFiles } }).1 = .ok 7000 ∧
      (runOn (storage.lookUp 1 [] (storedAt "/lake"))
        { outside := { drives := lakeDrive (lakeRemains ++ lakeFiles) } }).1 = .ok 7000 := by
  have scales : ∀ entry ∈ lakeFiles, Storage.Scales entry := by
    refine List.forall_mem_cons.mpr ⟨?_, List.forall_mem_cons.mpr ⟨?_, nofun⟩⟩
    · exact scales_of_whole 7000 rfl (by decide +kernel)
    · exact scales_of_whole (-5000) rfl (by decide +kernel)
  have unconnected (listing : List Data) : ∃ books : Storage.Books,
      books.Sound (replies (lakeDrive listing)) 1 [] ∧
        books.Hold storage (fun site => site.drives = lakeDrive listing) Site.connections
          { drives := lakeDrive listing } :=
    ⟨.of storage Site.connections { drives := lakeDrive listing },
      Storage.Books.sound_of_fresh _ _ _ fun _ => rfl, rfl, rfl, fun _ _ => rfl⟩
  obtain ⟨answer, given, latest, -, -, -, alike⟩ := Storage.directory_time
    (lakeDrive_shows lakeFiles) (show (storedAt "/lake").location = .text "/lake" from rfl)
    (by decide) scales
  have newest : (lakeFiles.filterMap Storage.entryTime?).max? = some 7000 := by decide +kernel
  have older : ∀ addition ∈ lakeRemains, Storage.Scales addition ∧
      ∀ time, Storage.entryTime? addition = some time →
        ∃ best ∈ lakeFiles.filterMap Storage.entryTime?, time ≤ best := by
    have seven : (7000 : Int) ∈ lakeFiles.filterMap Storage.entryTime? := by decide +kernel
    refine List.forall_mem_cons.mpr ⟨⟨nofun, nofun⟩, List.forall_mem_cons.mpr ⟨⟨?_, ?_⟩, nofun⟩⟩
    · exact scales_of_whole 3000 rfl (by decide +kernel)
    · intro time told
      have three : Storage.entryTime? (.map [("last_modified", .int 3)]) = some 3000 := by
        decide +kernel
      obtain rfl := Option.some.inj (three.symm.trans told)
      exact ⟨7000, seven, by decide⟩
  have more := alike storage _ 1 [] (lakeRemains ++ lakeFiles) lakeRemains
    (lakeDrive_shows (lakeRemains ++ lakeFiles)) List.perm_append_comm older
  rw [latest 7000 newest] at given more
  exact ⟨scales, (given { outside := { drives := lakeDrive lakeFiles } } (unconnected _)).1,
    (more { outside := { drives := lakeDrive (lakeRemains ++ lakeFiles) } } (unconnected _)).1⟩

end Site
end CatalogDelta
