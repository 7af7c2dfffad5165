import CatalogDelta.Proofs.Scan.Specification
import Mathlib.Data.List.Perm.Basic

/-!
# What is asked and answered

A scan puts questions to a catalog, to the maker of its clients and to the source of update times.
An exchange is one such question with its answer, and a talk is what has been exchanged, oldest
first. Of every exchange it is said which fault it ends a scan with, which failure a result records
of it, and to which further questions it leads. The account of a talk collects the failures, and
says which questions have come up and not been asked yet.
-/

namespace CatalogDelta

/-- What a scan may ask. -/
inductive Question where
  | databases
  | tables (database : String)
  | partitions (table : Table)
  | updateTime (entity : Entity)

/-- A question with its answer, or the making of a client. -/
inductive Exchange where
  | making (answer : Except Fault Unit)
  | databases (answer : Except Fault (List String))
  | tables (database : String) (answer : Except Fault (List Table))
  | partitions (table : Table) (answer : Except Fault (List Partition))
  | updateTime (entity : Entity) (answer : Except Fault Int)

/-- A partition of a table has not as many values as the table has keys. -/
def Table.misfit? (table : Table) (partitions : List Partition) : Option Partition :=
  partitions.find? fun partition => partition.values.length ≠ table.partitionKeys.length

/-- What a scan asks about a partition. -/
def Partition.questions (rules : ScanRules) (partition : Partition) : List Question :=
  if rules.passesOver partition.location then [] else [.updateTime (.partition partition)]

/-- What a scan asks about a table to begin with. -/
def Table.questions (rules : ScanRules) (table : Table) : List Question :=
  if rules.passesOver table.location then []
  else if table.isPartitioned then [.partitions table] else [.updateTime (.table table)]

theorem View.eq_error_of_lostConnection {α : Type} {answer : Except Fault α} {fault : Fault}
    (lost : lostConnection answer = some fault) : answer = .error fault := by
  cases answer with
  | ok value => exact nomatch lost
  | error cause =>
    obtain ⟨_, same⟩ := Option.ite_none_right_eq_some.mp lost
    exact congrArg Except.error (Option.some.inj same)

namespace Exchange

def question? : Exchange → Option Question
  | making _ => none
  | databases _ => some .databases
  | tables database _ => some (.tables database)
  | partitions table _ => some (.partitions table)
  | updateTime entity _ => some (.updateTime entity)

/-- The fault with which an exchange ends a scan: a client cannot be made, or the connection of one
is lost. -/
def loss? : Exchange → Option Fault
  | making (.error cause) => some (Pool.Host.makingFault cause)
  | making (.ok _) => none
  | databases answer => View.lostConnection answer
  | tables _ answer => View.lostConnection answer
  | partitions _ answer => View.lostConnection answer
  | updateTime _ _ => none

/-- The failure that a result records of an exchange: one for the whole catalog, for a database, for
a table, or for an entity without update time. -/
def failure? : Exchange → Option ScanFailure
  | databases (.error cause) => some (View.catalogFailure cause)
  | tables database (.error cause) =>
    some (Scan.listingFailure (Selector.databaseFailure database cause))
  | partitions table (.error cause) =>
    some ⟨table.dataset.urn, .catalogListingFailure, (Scan.listingFault table cause).described⟩
  | partitions table (.ok listed) => (table.misfit? listed).map fun partition =>
    ⟨table.dataset.urn, .catalogListingFailure, (Scan.mismatch table partition).described⟩
  | updateTime entity (.error cause) => some (Scan.timeFailure entity cause)
  | making _ | databases (.ok _) | tables _ (.ok _) | updateTime _ (.ok _) => none

/-- The questions to which an exchange leads. -/
def leadsTo (selector : Selector) (rules : ScanRules) : Exchange → List Question
  | databases (.ok listed) => (listed.filter selector.databases.covers).map .tables
  | tables _ (.ok listed) =>
    (listed.filter fun table => selector.coversTable table.dataset).flatMap (·.questions rules)
  | partitions table (.ok listed) =>
    if (table.misfit? listed).isSome then [] else listed.flatMap (·.questions rules)
  | making _ | databases (.error _) | tables _ (.error _) | partitions _ (.error _)
  | updateTime _ _ => []

/-- What is listed is stored where things can be stored, and a source of update times fails only for
want of one. -/
def Sound : Exchange → Prop
  | tables _ (.ok listed) => ∀ table ∈ listed, Placed table.location
  | partitions _ (.ok listed) => ∀ partition ∈ listed, Placed partition.location
  | updateTime _ (.error fault) => fault.kind.isA .updateTimeNotFound = true
  | making _ | databases _ | tables _ (.error _) | partitions _ (.error _)
  | updateTime _ (.ok _) => True

/-- Only lost connections and clients that cannot be made end a scan. -/
theorem isA_of_loss? {exchange : Exchange} {fault : Fault} (lost : exchange.loss? = some fault) :
    fault.kind.isA .connectionFailure = true := by
  cases exchange with
  | making answer =>
    cases answer with
    | ok made => exact nomatch lost
    | error cause =>
      obtain rfl := Option.some.inj lost
      rfl
  | databases answer => exact View.lostConnection_isA lost
  | tables database answer => exact View.lostConnection_isA lost
  | partitions table answer => exact View.lostConnection_isA lost
  | updateTime entity answer => exact nomatch lost

end Exchange

/-- No exchange of a talk ends a scan. -/
def Calm (talk : List Exchange) : Prop := ∀ exchange ∈ talk, exchange.loss? = none

/-- The last exchange of a talk, and no other one, ends a scan with the fault. -/
def Lost (talk : List Exchange) (fault : Fault) : Prop :=
  ∃ before last, talk = before ++ [last] ∧ Calm before ∧ last.loss? = some fault

/-- At most the making of a client is heard. -/
def AtMostMaking (talk : List Exchange) : Prop := talk = [] ∨ talk = [.making (.ok ())]

theorem AtMostMaking.calm {talk : List Exchange} (made : AtMostMaking talk) : Calm talk := by
  intro exchange member
  rcases made with rfl | rfl
  · exact absurd member List.not_mem_nil
  · rw [List.mem_singleton.mp member]
    rfl

theorem Calm.append {talk more : List Exchange} (calm : Calm talk) (still : Calm more) :
    Calm (talk ++ more) := by
  intro exchange member
  rcases List.mem_append.mp member with before | after
  · exact calm exchange before
  · exact still exchange after

theorem Calm.append_lost {talk more : List Exchange} {fault : Fault} (calm : Calm talk)
    (lost : Lost more fault) : Lost (talk ++ more) fault := by
  obtain ⟨before, last, rfl, still, ends⟩ := lost
  exact ⟨talk ++ before, last, (List.append_assoc ..).symm, calm.append still, ends⟩

theorem Lost.exists_loss?_iff {talk : List Exchange} {fault : Fault} (lost : Lost talk fault)
    (other : Fault) : (∃ exchange ∈ talk, exchange.loss? = some other) ↔ other = fault := by
  obtain ⟨before, last, rfl, calm, ends⟩ := lost
  constructor
  · rintro ⟨exchange, member, loss⟩
    rcases List.mem_append.mp member with earlier | final
    · rw [calm exchange earlier] at loss
      contradiction
    · rw [List.mem_singleton.mp final, ends] at loss
      exact (Option.some.inj loss).symm
  · rintro rfl
    exact ⟨last, List.mem_append_right before List.mem_cons_self, ends⟩

/-- The account of a talk that starts with some questions to ask: the failures that it gives, and
the questions left when it ends. Every question is asked once. -/
structure Account (selector : Selector) (rules : ScanRules) (asked : List Question)
    (talk : List Exchange) (failures : List ScanFailure) (left : List Question) : Prop where
  failures_eq : talk.filterMap Exchange.failure? = failures
  questions : (talk.filterMap Exchange.question? ++ left).Perm
    (asked ++ talk.flatMap (Exchange.leadsTo selector rules))

namespace Account

variable {selector : Selector} {rules : ScanRules} {asked left : List Question}
  {talk : List Exchange} {failures : List ScanFailure}

theorem nil (asked : List Question) : Account selector rules asked [] [] asked where
  failures_eq := rfl
  questions := by simp

theorem append {more : List Exchange} {further : List ScanFailure} {last : List Question}
    (first : Account selector rules asked talk failures left)
    (rest : Account selector rules left more further last) :
    Account selector rules asked (talk ++ more) (failures ++ further) last where
  failures_eq := by rw [List.filterMap_append, first.failures_eq, rest.failures_eq]
  questions := by
    have spoken := (rest.questions.append_left (talk.filterMap Exchange.question?)).trans
      (List.Perm.of_eq (List.append_assoc ..).symm)
    have opened := first.questions.append_right (more.flatMap (Exchange.leadsTo selector rules))
    simpa only [List.filterMap_append, List.flatMap_append, List.append_assoc] using
      spoken.trans opened

/-- Two talks about questions of their own, one after the other. -/
theorem beside {others last : List Question} {more : List Exchange}
    {further : List ScanFailure} (first : Account selector rules asked talk failures left)
    (second : Account selector rules others more further last) :
    Account selector rules (asked ++ others) (talk ++ more) (failures ++ further)
      (left ++ last) where
  failures_eq := by rw [List.filterMap_append, first.failures_eq, second.failures_eq]
  questions := by
    have exchanged (one two three four : List Question) :
        (one ++ two ++ (three ++ four)).Perm (one ++ three ++ (two ++ four)) := by
      simp only [List.append_assoc]
      exact (List.perm_append_comm_assoc two three four).append_left one
    rw [List.filterMap_append, List.flatMap_append]
    exact ((exchanged _ _ _ _).trans (first.questions.append second.questions)).trans
      (exchanged _ _ _ _)

/-- The making of a client is neither a question nor a failure that is recorded. -/
theorem after_making {made : List Exchange} (mostly : AtMostMaking made)
    (first : Account selector rules asked talk failures left) :
    Account selector rules asked (made ++ talk) failures left := by
  rcases mostly with rfl | rfl
  · exact first
  · exact ⟨first.failures_eq, first.questions⟩

/-- An exchange settles its question and leaves those to which it leads. -/
theorem single {exchange : Exchange} {question : Question}
    (asks : exchange.question? = some question) :
    Account selector rules [question] [exchange] exchange.failure?.toList
      (exchange.leadsTo selector rules) where
  failures_eq := by cases known : exchange.failure? <;> simp [known]
  questions := by simp [asks]

section Partitions

variable {table : Table} {listed : List Partition}

/-- Partitions that fit their table are left to be asked about. -/
theorem fitting (fits : table.misfit? listed = none) :
    Account selector rules [.partitions table] [.partitions table (.ok listed)] []
      (listed.flatMap (·.questions rules)) := by
  have settled : Account selector rules [.partitions table] [.partitions table (.ok listed)] _ _ :=
    single rfl
  simpa only [Exchange.failure?, Exchange.leadsTo, fits, Option.map_none, Option.toList_none,
    Option.isSome_none, Bool.false_eq_true, ↓reduceIte] using settled

/-- If a partition does not fit its table, none is asked about. -/
theorem misfitting {partition : Partition} (misfits : table.misfit? listed = some partition) :
    Account selector rules [.partitions table] [.partitions table (.ok listed)]
      [⟨table.dataset.urn, .catalogListingFailure, (Scan.mismatch table partition).described⟩]
      [] := by
  have settled : Account selector rules [.partitions table] [.partitions table (.ok listed)] _ _ :=
    single rfl
  simpa only [Exchange.failure?, Exchange.leadsTo, misfits, Option.map_some, Option.toList_some,
    Option.isSome_some, ↓reduceIte] using settled

end Partitions

end Account
end CatalogDelta
