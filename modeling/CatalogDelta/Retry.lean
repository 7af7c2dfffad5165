import CatalogDelta.Catalog.Client
import CatalogDelta.Decimal.Layout

/-!
# Retries

A call that fails with one of the faults to retry on is made again after a wait, until it has been
made as often as allowed; a call is always made once. The last outcome stands as it is.

Repeating calls and telling how long to wait is the work of a repeater, which this library is given
from outside. `Repeater.Lawful` lists what it relies on: after a fault that is to be retried on a
call is made again, as long as attempts are left, and the waits are equal or double.
-/

namespace CatalogDelta

/-- How often a call is made and how long is waited in between. -/
structure RetryConfig where
  maxAttempts : Int := 3
  /-- Seconds before the second attempt. -/
  backoff : Span.Amount := .real 1
  /-- Each wait is twice the wait before it; otherwise all are equal. -/
  exponential : Bool := true
  /-- Each wait is longer by a random part of half the first one. -/
  jitter : Bool := true

namespace RetryConfig

def once : RetryConfig := { maxAttempts := 1 }

/-- A number of seconds as written in a configuration. -/
def amountText : Span.Amount → String
  | .whole n => String.ofList (Decimal.showInteger n)
  | .real x => Decimal.Style.plain.render x

def literal (config : RetryConfig) : String :=
  "RetryConfig(max_attempts=" ++ String.ofList (Decimal.showInteger config.maxAttempts) ++
    ", backoff_seconds=" ++ amountText config.backoff ++ ")"

/-- A number of seconds as a float. -/
def seconds : Span.Amount → Float
  | .whole n => Float.ofInt n
  | .real x => x

end RetryConfig

section Repeaters

variable {σ α : Type}

/-- What a repeater is told about a call. -/
structure Repetition (σ : Type) where
  /-- The number of the attempt after which the call is given up. -/
  limit : Int
  /-- The call is made again after this fault. -/
  covers : Fault → Bool
  /-- The wait in seconds after the attempt of a number, the first being one. -/
  wait : Nat → Float
  /-- What is done before a wait, about the attempt, its fault and the seconds. -/
  announce : Nat → Fault → Float → Act σ Unit
  /-- Wait so many seconds. -/
  pause : Float → Act σ Unit

/-- What is done between the first attempt, which has failed, and the second. -/
def Repetition.turn (repetition : Repetition σ) (fault : Fault) : Act σ Unit := do
  repetition.announce 1 fault (repetition.wait 1)
  repetition.pause (repetition.wait 1)

/-- What is left of a repetition after its first attempt. -/
def Repetition.later (repetition : Repetition σ) : Repetition σ :=
  { repetition with
    limit := repetition.limit - 1
    wait := fun attempt => repetition.wait (attempt + 1)
    announce := fun attempt => repetition.announce (attempt + 1) }

/-- Whatever repeats calls and tells how long to wait. -/
structure Repeater where
  repeated : {σ α : Type} → Repetition σ → Act σ α → Act σ α
  /-- A wait that doubles with each attempt and is never below the first one. -/
  doubling : Span.Amount → Nat → Float
  /-- A wait that is always the same. -/
  steady : Span.Amount → Nat → Float
  /-- A random number of seconds up to a bound, drawn after an attempt. -/
  scattered : Float → Nat → Float

namespace Repeater

/-- The longest wait in seconds. -/
def longestWait : Float := 4611686018427387904

/-- The larger of two floats; the first of two that do not compare. -/
def larger (first second : Float) : Float := if first < second then second else first

/-- The smaller of two floats; the first of two that do not compare. -/
def smaller (first second : Float) : Float := if second < first then second else first

/-- What this library relies on. -/
structure Lawful (repeater : Repeater) : Prop where
  /-- A call is made. After a covered fault, if attempts are left, there is an announcement and a
  wait, and what is left is done; any other outcome stands. -/
  repeated_eq : ∀ {σ α : Type} (repetition : Repetition σ) (call : Act σ α),
    repeater.repeated repetition call = do
      match ← Act.attempt call with
      | .ok answer => return answer
      | .error fault =>
        if 1 < repetition.limit ∧ repetition.covers fault = true then
          repetition.turn fault
          repeater.repeated repetition.later call
        else throw fault
  /-- The first wait of a whole number of seconds is doubled up to the longest wait. -/
  doubling_eq : ∀ backoff attempt : Nat, repeater.doubling (.whole backoff) (attempt + 1) =
    larger (Float.ofNat backoff) (smaller (Float.ofNat (backoff * Nat.pow 2 attempt)) longestWait)
  steady_eq : ∀ backoff attempt : Nat,
    repeater.steady (.whole backoff) attempt = Float.ofNat backoff

/-- Make a call, and make it again so many times at most. -/
def repeatedUpTo : Nat → Repetition σ → Act σ α → Act σ α
  | 0, _, call => call
  | left + 1, repetition, call => do
    match ← Act.attempt call with
    | .ok answer => return answer
    | .error fault =>
      if repetition.covers fault then
        repetition.turn fault
        repeatedUpTo left repetition.later call
      else throw fault

/-- A number of seconds doubled so many times; the longest wait if the doubling is too large. -/
def doubled (times : Nat) : Span.Amount → Float
  | .whole n => Float.ofInt (n * Nat.pow 2 times)
  | .real x =>
    if times < 1024 then x * Float.ofScientific (Nat.pow 2 times) false 0 else longestWait

/-- The usual repeater; what is drawn at random is always zero. -/
def usual : Repeater where
  repeated repetition call := repeatedUpTo (repetition.limit - 1).toNat repetition call
  doubling backoff attempt :=
    larger (larger 0 (RetryConfig.seconds backoff))
      (smaller (doubled (attempt - 1) backoff) longestWait)
  steady backoff _ := RetryConfig.seconds backoff
  scattered _ _ := 0

end Repeater
end Repeaters

/-- The wait in seconds after the attempt of a number, the first being one. -/
def RetryConfig.wait (config : RetryConfig) (repeater : Repeater) (attempt : Nat) : Float :=
  let even :=
    if config.exponential then repeater.doubling config.backoff attempt
    else repeater.steady config.backoff attempt
  if config.jitter then even + repeater.scattered (seconds config.backoff * 0.5) attempt else even

namespace Retry

variable {σ α : Type}

/-- How a call is repeated. -/
structure Rule (σ : Type) where
  config : RetryConfig
  /-- The kinds of fault after which a call is made again. -/
  kinds : List FaultKind
  /-- Wait so many seconds. -/
  pause : Float → Act σ Unit

/-- A fault after which a call is made again. -/
def Rule.covers (rule : Rule σ) (fault : Fault) : Bool := rule.kinds.any fault.kind.isA

/-- What is said before a call is made again. -/
def notice (rule : Rule σ) (name : String) (attempt : Nat) (fault : Fault) (seconds : Float) :
    String :=
  name ++ " attempt " ++ toString attempt ++ "/" ++
    String.ofList (Decimal.showInteger rule.config.maxAttempts) ++ " failed: " ++ fault.text ++
    ". Retrying in " ++ Decimal.fixed 1 seconds ++ "s..."

def passingKinds : List FaultKind := [.system, .timeout]

section Repeating

variable (repeater : Repeater) (rule : Rule σ)

/-- What the repeater is told about the calls of a name. -/
def Rule.repetition (name : String) : Repetition σ where
  limit := rule.config.maxAttempts
  covers := rule.covers
  wait := rule.config.wait repeater
  announce attempt fault seconds :=
    Act.note Level.warning Author.resilience (notice rule name attempt fault seconds)
  pause := rule.pause

def call (name : String) (made : Act σ α) : Act σ α :=
  repeater.repeated (rule.repetition repeater name) made

def client (inner : Client σ) : Client σ where
  kind := "RetryingCatalogClient"
  listDatabases := call repeater rule CatalogCall.databases.operation inner.listDatabases
  listTables database :=
    call repeater rule (CatalogCall.tables database).operation (inner.listTables database)
  listPartitions table :=
    call repeater rule (CatalogCall.partitions table.dataset).operation
      (inner.listPartitions table)
  close := inner.close

end Repeating
end Retry
end CatalogDelta
