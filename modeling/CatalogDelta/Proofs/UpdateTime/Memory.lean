import CatalogDelta.Proofs.Act.Yields
import CatalogDelta.Proofs.UpdateTime.Asking
import CatalogDelta.Proofs.UpdateTime.Replies

/-!
# What a source remembers

A source remembers the systems it is connected to, and asks them without connecting again. Where
systems give fixed replies, this shows in the attempts to connect and nowhere else: every look-up
ends as if it were the first one. A system that can be connected to is connected to once, and a
failed attempt is made again whenever the system is needed.
-/

namespace CatalogDelta

open Act

namespace Act

variable {σ ι α β : Type} {readies : ι → σ → Prop} {before between after : σ → Prop}

/-- The act ends in the same answer under each of the conditions, and keeps them. -/
def Fixed (readies : ι → σ → Prop) (act : Act σ α) : Prop :=
  ∃ answer, ∀ i, Gives (readies i) act answer

theorem fixed_pure (answer : α) : Fixed readies (pure answer) := ⟨_, fun _ => gives_pure answer⟩

theorem fixed_throw (fault : Fault) : Fixed readies (throw fault : Act σ α) :=
  ⟨_, fun _ => gives_throw fault⟩

theorem fixed_settle (settled : Except Fault α) : Fixed readies (settle settled) :=
  ⟨_, fun _ => gives_settle settled⟩

theorem Fixed.bind {act : Act σ α} {next : α → Act σ β} (first : Fixed readies act)
    (rest : ∀ value, Fixed readies (next value)) : Fixed readies (act >>= next) := by
  obtain ⟨outcome, given⟩ := first
  cases outcome with
  | error fault => exact ⟨_, fun i => (given i).bind_error⟩
  | ok value =>
    obtain ⟨answer, follows⟩ := rest value
    exact ⟨answer, fun i => (given i).bind (follows i)⟩

/-- Wherever the outside meets the first condition, the act ends in the outcome and the outside meets
the second. -/
def Moves (before : σ → Prop) (act : Act σ α) (outcome : Except Fault α) (after : σ → Prop) : Prop :=
  Leads before act fun ended outside => ended = outcome ∧ after outside

theorem Moves.bind {act : Act σ α} {next : α → Act σ β} {value : α} {outcome : Except Fault β}
    (first : Moves before act (.ok value) between)
    (rest : Moves between (next value) outcome after) : Moves before (act >>= next) outcome after := by
  intro stage met
  obtain ⟨given, reached⟩ := first stage met
  rw [runOn_bind_of_ok given]
  exact rest _ reached

theorem Moves.bind_error {act : Act σ α} {next : α → Act σ β} {fault : Fault}
    (first : Moves before act (.error fault) after) :
    Moves before (act >>= next) (.error fault) after := by
  intro stage met
  obtain ⟨given, reached⟩ := first stage met
  rw [runOn_bind_of_error given]
  exact ⟨rfl, reached⟩

theorem Moves.attempt {act : Act σ α} {outcome : Except Fault α}
    (moves : Moves before act outcome after) : Moves before (attempt act) (.ok outcome) after := by
  intro stage met
  obtain ⟨ended, reached⟩ := moves stage met
  rw [runOn_attempt, ended]
  exact ⟨rfl, reached⟩

end Act

namespace Storage

variable {σ : Type} {storage : Storage σ} {replies : Replies} {base : σ → Prop}
  {attempts : σ → List (String × List (String × Data))} {source : Nat}
  {options : List (String × Data)} {entity : Entity} {protocol : String}

/-- The protocol of the system that is asked about a location, if one is. -/
def protocolFor : Data → Option String
  | .text path => some (protocolOf path)
  | other =>
    match other.mentions (String.ofList mark) with
    | .ok false => some "file"
    | _ => none

/-- The protocol of the system that a source connects to for an entity, unless it is connected. -/
def protocolAsked (options : List (String × Data)) (entity : Entity) : Option String :=
  if OrderedMap.hasKey "protocol" options || !entity.location.isTruthy then none
  else protocolFor entity.location

/-- A system can be connected to. -/
def Replies.creates (replies : Replies) (options : List (String × Data)) (protocol : String) : Bool :=
  (replies.connect protocol options).isOk

/-- Look up entities one after the other, whatever comes of each. -/
def lookUpAll (storage : Storage σ) (source : Nat) (options : List (String × Data))
    (entities : List Entity) : Act σ (List (Except Fault Int)) :=
  entities.mapM fun entity => Act.attempt (storage.lookUp source options entity)

namespace Books

variable (replies) (source) (options)

/-- The books after a system has been asked: an attempt to connect unless the source is connected,
and what is remembered if it succeeds. -/
def askFor (books : Books) (protocol : String) : Books :=
  if books.linked source protocol then books
  else if replies.creates options protocol then (books.addAttempt protocol options).link source protocol
  else books.addAttempt protocol options

/-- What a source is connected to can be connected to. -/
def Sound (books : Books) : Prop :=
  ∀ protocol, books.linked source protocol = true →
    OrderedMap.hasKey "protocol" options = false ∧ replies.connect protocol options = .ok ()

end Books

/-! ## One look-up -/

section LookUp

variable {books : Books}

theorem ensure_moves (replying : storage.Replying replies base attempts)
    (sound : books.Sound replies source options)
    (once : OrderedMap.hasKey "protocol" options = false) (protocol : String) :
    Moves (books.Hold storage base attempts) (storage.ensure source options protocol)
      (replies.connect protocol options)
      ((books.askFor replies source options protocol).Hold storage base attempts) := by
  unfold Books.askFor
  by_cases linked : books.linked source protocol = true
  · rw [if_pos linked, (sound protocol linked).2]
    intro stage holds
    unfold ensure
    rw [runOn_bind, runOn_view, holds.2.2, linked]
    exact ⟨rfl, holds⟩
  · rw [if_neg linked]
    have connects : Moves (books.Hold storage base attempts) (do
          storage.connect protocol options
          Act.change (storage.remember source protocol))
        (replies.connect protocol options)
        ((if replies.creates options protocol = true
          then (books.addAttempt protocol options).link source protocol
          else books.addAttempt protocol options).Hold storage base attempts) := by
      have tried : Moves (books.Hold storage base attempts) (storage.connect protocol options)
          (replies.connect protocol options)
          ((books.addAttempt protocol options).Hold storage base attempts) :=
        replying.connect protocol options books
      unfold Replies.creates
      cases reply : replies.connect protocol options with
      | error fault =>
        rw [reply] at tried
        exact tried.bind_error
      | ok _ =>
        rw [reply] at tried
        refine tried.bind fun stage holds => ⟨rfl, ?_⟩
        exact replying.remember source protocol _ _ holds
    intro stage holds
    unfold ensure
    rw [runOn_bind, runOn_view, holds.2.2, Bool.eq_false_iff.mpr linked]
    simp only [once, Bool.not_false, Bool.false_eq_true, ↓reduceIte]
    exact connects stage holds

theorem ensure_moves_of_twice (sound : books.Sound replies source options)
    (twice : OrderedMap.hasKey "protocol" options = true) (protocol : String) :
    Moves (books.Hold storage base attempts) (storage.ensure source options protocol)
      (.error protocolTwice) (books.Hold storage base attempts) := by
  intro stage holds
  have unlinked : books.linked source protocol = false := by
    rw [Bool.eq_false_iff]
    intro linked
    exact nomatch twice.symm.trans (sound protocol linked).1
  unfold ensure
  rw [runOn_bind, runOn_view, holds.2.2, unlinked]
  simp only [twice, Bool.not_false, ↓reduceIte]
  exact ⟨rfl, holds⟩

theorem question_fixed (replying : storage.Replying replies base attempts) (entity : Entity)
    (location : String) :
    Fixed (Books.Hold storage base attempts) (storage.question entity location) := by
  have isThere (protocol : String) : Fixed _ (storage.isThere protocol location) :=
    ⟨_, replying.isThere protocol location⟩
  have info (protocol : String) : Fixed _ (storage.info protocol location) :=
    ⟨_, replying.info protocol location⟩
  have children (protocol : String) : Fixed _ (storage.children protocol location) :=
    ⟨_, replying.children protocol location⟩
  refine (isThere _).bind fun there => ?_
  cases there with
  | false => exact fixed_throw _
  | true =>
    refine (info _).bind fun known => ?_
    cases known with
    | map entries =>
      dsimp only
      split
      · exact (children _).bind fun _ => (fixed_settle _).bind fun _ => fixed_pure _
      · exact fixed_pure _
    | null | bool | int | float | text | list | moment | span => exact fixed_throw _

/-- What is asked for an entity is settled at once, or it is a question to one system. -/
theorem asked_cases (replying : storage.Replying replies base attempts) (source : Nat)
    (options : List (String × Data)) (entity : Entity) :
    (protocolFor entity.location = none ∧
        ∃ fault, storage.asked source options entity = Act.settle (.error fault)) ∨
      ∃ protocol rest, protocolFor entity.location = some protocol ∧
        Fixed (Books.Hold storage base attempts) rest ∧
        storage.asked source options entity =
          storage.ensure source options protocol >>= fun _ => rest := by
  unfold asked protocolFor
  cases entity.location with
  | text path =>
    refine .inr ⟨protocolOf path, storage.question entity path >>= (Act.settle ·.time), rfl, ?_, ?_⟩
    · exact (question_fixed replying entity path).bind fun _ => fixed_settle _
    · dsimp only
      rw [ask_eq, gather, bind_assoc]
  | null | bool | int | float | list | map | moment | span =>
    unfold askOdd
    dsimp only
    cases Data.mentions _ _ with
    | error fault => exact .inl ⟨rfl, fault, rfl⟩
    | ok marked =>
      cases marked with
      | true => exact .inl ⟨rfl, _, rfl⟩
      | false => exact .inr ⟨"file", _, rfl, fixed_throw _, rfl⟩

/-- The books after what is asked for an entity. -/
def Books.after (replies : Replies) (source : Nat) (options : List (String × Data)) (books : Books)
    (entity : Entity) : Books :=
  (protocolAsked options entity).elim books (books.askFor replies source options)

theorem exists_asked (replying : storage.Replying replies base attempts) (source : Nat)
    (options : List (String × Data)) (placed : entity.location.isTruthy = true) :
    ∃ answer, ∀ books : Books, books.Sound replies source options →
      Moves (books.Hold storage base attempts) (storage.asked source options entity) answer
        ((books.after replies source options entity).Hold storage base attempts) := by
  unfold Books.after protocolAsked
  rw [placed, Bool.not_true, Bool.or_false]
  rcases asked_cases replying source options entity with
    ⟨unasked, fault, asks⟩ | ⟨protocol, rest, named, ⟨answer, given⟩, asks⟩
  · rw [asks, unasked, ite_self]
    exact ⟨_, fun books _ => gives_settle _⟩
  · rw [asks, named]
    by_cases twice : OrderedMap.hasKey "protocol" options = true
    · rw [if_pos twice]
      exact ⟨_, fun books sound => (ensure_moves_of_twice sound twice protocol).bind_error⟩
    · simp only [if_neg twice, Option.elim_some]
      have ensured {books : Books} (sound : books.Sound replies source options) :=
        ensure_moves replying sound (Bool.eq_false_iff.mpr twice) protocol
      cases reply : replies.connect protocol options with
      | error fault =>
        refine ⟨.error fault, fun books sound => ?_⟩
        have moved := ensured sound
        rw [reply] at moved
        exact moved.bind_error
      | ok _ =>
        refine ⟨answer, fun books sound => ?_⟩
        have moved := ensured sound
        rw [reply] at moved
        exact moved.bind (given _)

/-- **A look-up ends in one way whatever is remembered.** -/
theorem exists_lookUp (replying : storage.Replying replies base attempts) (source : Nat)
    (options : List (String × Data)) (entity : Entity) :
    ∃ answer, ∀ books : Books, books.Sound replies source options →
      Moves (books.Hold storage base attempts) (storage.lookUp source options entity) answer
        ((books.after replies source options entity).Hold storage base attempts) := by
  by_cases placed : entity.location.isTruthy = true
  · obtain ⟨answer, moves⟩ := exists_asked replying source options placed
    refine ⟨answerFor entity answer, fun books sound stage holds => ?_⟩
    obtain ⟨same, reached⟩ := moves books sound stage holds
    obtain ⟨given, outside⟩ := storage.runOn_lookUp source options entity placed stage
    rw [given, outside, same]
    exact ⟨rfl, reached⟩
  · have nowhere := Bool.eq_false_iff.mpr placed
    refine ⟨.error (noLocation entity), fun books _ stage holds => ?_⟩
    rw [runOn_lookUp_of_nowhere _ _ _ _ nowhere]
    unfold Books.after protocolAsked
    rw [nowhere, Bool.not_false, Bool.or_true]
    exact ⟨rfl, holds⟩

end LookUp

/-! ## Many look-ups -/

section Books

variable {books : Books}

theorem sound_askFor (sound : books.Sound replies source options)
    (once : OrderedMap.hasKey "protocol" options = false) (protocol : String) :
    (books.askFor replies source options protocol).Sound replies source options := by
  unfold Books.askFor Replies.creates
  split
  · exact sound
  · cases reply : replies.connect protocol options with
    | error fault => exact sound
    | ok _ =>
      intro other linked
      change (books.linked source other || (source = source && other = protocol)) = true at linked
      rw [Bool.or_eq_true] at linked
      rcases linked with before | now
      · exact sound other before
      · obtain rfl : other = protocol := by simpa using now
        exact ⟨once, reply⟩

/-- The attempts that are made for systems asked one after the other. -/
structure Books.Asked (replies : Replies) (source : Nat) (options : List (String × Data))
    (books result : Books) (asked made : List String) : Prop where
  attempts : result.attempts = books.attempts ++ made.map (·, options)
  sound : result.Sound replies source options
  linked : ∀ protocol, result.linked source protocol =
    (books.linked source protocol || (asked.contains protocol && replies.creates options protocol))
  once : ∀ protocol, replies.creates options protocol = true →
    made.count protocol =
      if books.linked source protocol then 0 else min 1 (asked.count protocol)
  again : ∀ protocol, replies.creates options protocol = false →
    made.count protocol = asked.count protocol

namespace Books.Asked

theorem nil (sound : books.Sound replies source options) :
    Books.Asked replies source options books books [] [] where
  attempts := (List.append_nil _).symm
  sound := sound
  linked protocol := by rw [List.contains_nil, Bool.false_and, Bool.or_false]
  once protocol _ := by simp
  again protocol _ := rfl

/-- Of one system it is tried to connect to it, unless it is connected. -/
theorem single (sound : books.Sound replies source options)
    (once : OrderedMap.hasKey "protocol" options = false) (protocol : String) :
    Books.Asked replies source options books (books.askFor replies source options protocol)
      [protocol] (if books.linked source protocol then [] else [protocol]) where
  sound := sound_askFor sound once protocol
  attempts := by
    unfold Books.askFor
    split
    · exact (List.append_nil _).symm
    · split <;> rfl
  linked other := by
    unfold Books.askFor
    by_cases same : other = protocol
    · subst same
      cases before : books.linked source other <;> cases creates : replies.creates options other <;>
        simp [Books.addAttempt, Books.link, before]
    · cases books.linked source protocol <;> cases replies.creates options protocol <;>
        simp [Books.addAttempt, Books.link, same]
  once other _ := by
    by_cases same : other = protocol
    · subst same
      cases books.linked source other <;> simp
    · cases books.linked source protocol <;> simp [Ne.symm same]
  again other fails := by
    by_cases same : other = protocol
    · subst same
      have unlinked : books.linked source other = false := by
        rw [Bool.eq_false_iff]
        intro linked
        rw [Replies.creates, (sound other linked).2] at fails
        contradiction
      rw [unlinked]
      rfl
    · cases books.linked source protocol <;> simp [Ne.symm same]

theorem append {middle result : Books} {asked made more further : List String}
    (first : Books.Asked replies source options books middle asked made)
    (second : Books.Asked replies source options middle result more further) :
    Books.Asked replies source options books result (asked ++ more) (made ++ further) where
  attempts := by
    rw [second.attempts, first.attempts, List.map_append, List.append_assoc]
  sound := second.sound
  linked protocol := by
    rw [second.linked, first.linked, List.contains_append, Bool.and_or_distrib_right, Bool.or_assoc]
  once protocol creates := by
    rw [List.count_append, List.count_append, first.once protocol creates,
      second.once protocol creates, first.linked, creates, Bool.and_true]
    cases books.linked source protocol with
    | true => simp
    | false =>
      cases before : asked.contains protocol with
      | true =>
        have some : 0 < asked.count protocol :=
          List.count_pos_iff.mpr (List.contains_iff_mem.mp before)
        simp
        omega
      | false =>
        have none : asked.count protocol = 0 := by
          rw [List.count_eq_zero, ← List.contains_iff_mem, before]
          exact Bool.false_ne_true
        simp [none]
  again protocol fails := by
    rw [List.count_append, List.count_append, first.again protocol fails,
      second.again protocol fails]

/-- A system is connected to anew unless it has been asked for and can be connected to. -/
theorem filter_unlinked {result : Books} {asked made : List String}
    (done : Books.Asked replies source options books result asked made)
    (fresh : ∀ protocol, books.linked source protocol = false) (protocol : String) :
    [protocol].filter (!result.linked source ·) =
      if protocol ∈ asked ∧ replies.creates options protocol = true then [] else [protocol] := by
  have linked : result.linked source protocol = true ↔
      protocol ∈ asked ∧ replies.creates options protocol = true := by
    rw [done.linked, fresh, Bool.false_or, Bool.and_eq_true, List.contains_iff_mem]
  by_cases known : protocol ∈ asked ∧ replies.creates options protocol = true
  · rw [if_pos known, List.filter_singleton, linked.mpr known]
    rfl
  · rw [if_neg known, List.filter_singleton, Bool.eq_false_iff.mpr (mt linked.mp known)]
    rfl

end Books.Asked

/-- What is asked for an entity adds one attempt, or none. -/
theorem asked_after (sound : books.Sound replies source options) (entity : Entity) :
    Books.Asked replies source options books (books.after replies source options entity)
      (protocolAsked options entity).toList
      ((protocolAsked options entity).toList.filter (!books.linked source ·)) := by
  unfold Books.after
  cases asks : protocolAsked options entity with
  | none => exact .nil sound
  | some protocol =>
    have once : OrderedMap.hasKey "protocol" options = false := by
      rw [Bool.eq_false_iff]
      intro twice
      rw [protocolAsked, twice, Bool.true_or, if_pos rfl] at asks
      contradiction
    have single := Books.Asked.single sound once protocol
    have made : (if books.linked source protocol then [] else [protocol]) =
        [protocol].filter (!books.linked source ·) := by
      cases linked : books.linked source protocol <;> simp [linked]
    rw [made] at single
    exact single

end Books

section History

variable {answer : Entity → Except Fault Int}

theorem lookUpAll_moves
    (each : ∀ (entity : Entity) (books : Books), books.Sound replies source options →
      Moves (books.Hold storage base attempts) (storage.lookUp source options entity) (answer entity)
        ((books.after replies source options entity).Hold storage base attempts))
    (history : List Entity) {books : Books} (sound : books.Sound replies source options) :
    ∃ result made,
      Books.Asked replies source options books result
        (history.filterMap (protocolAsked options)) made ∧
      Moves (books.Hold storage base attempts) (storage.lookUpAll source options history)
        (.ok (history.map answer)) (result.Hold storage base attempts) := by
  induction history generalizing books with
  | nil => exact ⟨books, [], .nil sound, gives_pure _⟩
  | cons entity others ih =>
    have first := asked_after sound entity
    obtain ⟨result, made, second, moves⟩ := ih first.sound
    have asked : (entity :: others).filterMap (protocolAsked options) =
        (protocolAsked options entity).toList ++ others.filterMap (protocolAsked options) := by
      rw [List.filterMap_cons]
      cases protocolAsked options entity <;> rfl
    refine ⟨result, _, asked ▸ first.append second, ?_⟩
    unfold lookUpAll
    rw [List.mapM_cons]
    exact (each entity books sound).attempt.bind (moves.bind (gives_pure _))

end History

theorem Books.sound_of_fresh (replies : Replies) (options : List (String × Data))
    (attempts : σ → List (String × List (String × Data))) {outside : σ}
    (fresh : ∀ protocol, storage.isConnected source protocol outside = false) :
    (Books.of storage attempts outside).Sound replies source options :=
  fun protocol linked => nomatch (fresh protocol).symm.trans linked

/-- **What a source remembers does not show in its answers**, but in its attempts to connect. Let the
systems give fixed replies, and let a source look up entities one after the other, connected to
nothing at first. Every answer is the one that the source would give without having looked up
anything. To a system that can be connected to the source connects at most once; and an attempt is
made at every further look-up as long as none has succeeded. -/
theorem lookUps_independent (replying : storage.Replying replies base attempts)
    {stage ended : Stage σ} (met : base stage.outside)
    (fresh : ∀ protocol, storage.isConnected source protocol stage.outside = false)
    (history : List Entity) {answers : Except Fault (List (Except Fault Int))}
    (ran : runOn (storage.lookUpAll source options history) stage = (answers, ended)) :
    (∀ alone : Stage σ, base alone.outside →
      (∀ protocol, storage.isConnected source protocol alone.outside = false) →
      answers = .ok (history.map fun entity =>
        (runOn (storage.lookUp source options entity) alone).1)) ∧
    (∃ made : List String,
      attempts ended.outside = attempts stage.outside ++ made.map (·, options) ∧
      (∀ protocol, replies.creates options protocol = true →
        made.count protocol = min 1 ((history.filterMap (protocolAsked options)).count protocol)) ∧
      ∀ protocol, replies.creates options protocol = false →
        made.count protocol = (history.filterMap (protocolAsked options)).count protocol) ∧
    ∀ (entity : Entity) (protocol : String), protocolAsked options entity = some protocol →
      attempts (runOn (storage.lookUp source options entity) ended).2.outside =
        attempts ended.outside ++
          if protocol ∈ history.filterMap (protocolAsked options) ∧
            replies.creates options protocol = true then [] else [(protocol, options)] := by
  choose answer each using exists_lookUp replying source options
  have hold (start : Stage σ) (met : base start.outside) :
      (Books.of storage attempts start.outside).Hold storage base attempts start.outside :=
    ⟨met, rfl, fun _ _ => rfl⟩
  obtain ⟨result, made, asked, moves⟩ :=
    lookUpAll_moves each history (Books.sound_of_fresh replies options attempts fresh)
  obtain ⟨given, holds⟩ := moves stage (hold stage met)
  rw [ran] at given holds
  refine ⟨fun alone metToo freshToo => ?_, ⟨made, ?_, fun protocol creates => ?_, asked.again⟩, ?_⟩
  · have same (entity : Entity) :
        (runOn (storage.lookUp source options entity) alone).1 = answer entity :=
      (each entity _ (Books.sound_of_fresh replies options attempts freshToo) alone
        (hold alone metToo)).1
    simp only [same]
    exact given
  · exact holds.2.1.trans asked.attempts
  · have unlinked : (Books.of storage attempts stage.outside).linked source protocol = false :=
      fresh protocol
    rw [asked.once protocol creates, unlinked, if_neg Bool.false_ne_true]
  · intro entity protocol asks
    obtain ⟨-, -, later, -⟩ := each entity result asked.sound ended holds
    have tried := (asked_after asked.sound entity).attempts
    rw [asks, Option.toList_some, asked.filter_unlinked fresh] at tried
    rw [later, tried, holds.2.1]
    split <;> rfl

end Storage

namespace Site

/-- A drive with one file on it, and one that cannot be reached. -/
def twoDrives : Drive.Rack :=
  [("file", .reachable { info := [("/lake/a", .ok (.map [("mtime", .int 5)]))] }),
    ("s3", .unreachable (.foreign .system "The bucket is closed"))]

def fourPaths : List Entity := ["/lake/a", "s3://b", "/lake/a", "s3://c"].map storedAt

/-- Of four look-ups the first connects, the third need not, and the others try in vain. -/
theorem fourPaths_independent :
    ∃ answers ended,
      runOn (storage.lookUpAll 1 [] fourPaths) { outside := { drives := twoDrives } } =
        (answers, ended) ∧
      answers = .ok (fourPaths.map fun entity =>
        (runOn (storage.lookUp 1 [] entity) { outside := { drives := twoDrives } }).1) ∧
      (ended.outside.connections.map Prod.fst).count "file" = 1 ∧
      (ended.outside.connections.map Prod.fst).count "s3" = 2 := by
  obtain ⟨answers, ended, ran⟩ : ∃ answers ended,
      runOn (storage.lookUpAll 1 [] fourPaths) { outside := { drives := twoDrives } } =
        (answers, ended) := ⟨_, _, (Prod.eta _).symm⟩
  obtain ⟨alike, ⟨made, connections, once, again⟩, -⟩ :=
    Storage.lookUps_independent (storage_replying twoDrives) rfl (fun _ => rfl) fourPaths ran
  have asked : fourPaths.filterMap (Storage.protocolAsked []) = ["file", "s3", "file", "s3"] := by
    decide +kernel
  rw [asked] at once again
  have protocols : ended.outside.connections.map Prod.fst = made := by
    rw [connections]
    change (made.map (·, [])).map Prod.fst = made
    rw [List.map_map]
    exact List.map_id made
  refine ⟨answers, ended, ran, alike _ rfl fun _ => rfl, ?_, ?_⟩
  · rw [protocols, once "file" rfl]
    decide
  · rw [protocols, again "s3" rfl]
    decide

end Site
end CatalogDelta
