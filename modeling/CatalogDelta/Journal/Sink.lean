import CatalogDelta.Journal.Layout

/-!
# Where entries go

A sink keeps the entries at its level or above. It writes them to the error stream, and to a file if
one is named, as lines of text or of JSON.
-/

namespace CatalogDelta

/-- What becomes of entries. -/
structure Sink where
  level : Level := Level.info
  asJson : Bool := false
  file : Option String := none

namespace Sink

/-- The sink that the options of a run ask for; an empty file name names no file. -/
def ofOptions (verbose asJson : Bool) (file : Option String) : Sink :=
  { level := if verbose then Level.debug else Level.info
    asJson
    file := file.filter (!·.isEmpty) }

def outlets (sink : Sink) : Nat := if sink.file.isSome then 2 else 1

/-- The level that entries of storage drivers need. -/
def driverLevel : Level := Level.warning

def body (sink : Sink) (entry : Entry) : String :=
  if sink.asJson then Layout.jsonBody entry else Layout.textBody entry

def stamp (sink : Sink) (moment : Moment) : String :=
  if sink.asJson then "\x7b\"timestamp\": \"" ++ moment.stamp ++ "\", "
  else moment.clockText " " ++ " "

def line (sink : Sink) (moment : Moment) (entry : Entry) : String :=
  sink.stamp moment ++ sink.body entry ++ "\n"

def kept (sink : Sink) (journal : Journal) : Journal := journal.atLeast sink.level

end Sink
end CatalogDelta
