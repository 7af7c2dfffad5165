import CatalogDelta.Journal.Layout

/-!
# Entries about a dataset

A dataset logger stamps its context on every entry it writes. Its own context wins over the context
of a single call.
-/

namespace CatalogDelta

/-- An author together with the context of what it writes. -/
structure DatasetLogger where
  author : String
  context : List (String × Data) := []

namespace DatasetLogger

/-- The logger with more context, which wins over the context it has. -/
def bind (logger : DatasetLogger) (context : List (String × Data)) : DatasetLogger :=
  { logger with context := OrderedMap.putAll logger.context context }

def contextOf (logger : DatasetLogger) (extra : List (String × Data)) : List (String × Data) :=
  OrderedMap.putAll extra logger.context

def entry (logger : DatasetLogger) (level : Level) (message : String) : Entry :=
  ⟨level, logger.author, message, logger.context⟩

/-- The entry of a call, if entries of its level are wanted at all. A context that uses a reserved
name is refused. -/
def write (logger : DatasetLogger) (wanted level : Level) (template : String)
    (arguments : List Data) (extra : List (String × Data)) : Except Fault (Option Entry) := do
  if level < wanted then return none
  let context := logger.contextOf extra
  match context.find? fun (name, _) => LogRecord.reservedNames.contains name with
  | some (name, _) =>
    throw (.missingKey ("Attempt to overwrite " ++ Text.quoted name ++ " in LogRecord"))
  | none => return some ⟨level, logger.author, ← Template.fillCall template arguments, context⟩

end DatasetLogger
end CatalogDelta
