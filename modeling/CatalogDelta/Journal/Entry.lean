import CatalogDelta.Fault

/-!
# Journal entries

What a computation reports about itself is a list of entries. An entry has a level, the name of the
part that wrote it, a message and the context in which it was written.
-/

namespace CatalogDelta

/-- How serious an entry is; larger is more serious. -/
abbrev Level := Int

namespace Level

/-- Of interest when something is looked into. -/
def debug : Level := 10

def info : Level := 20

/-- Something was skipped or tried again. -/
def warning : Level := 30

def error : Level := 40

def words : List (Level × String) :=
  [(0, "NOTSET"), (10, "DEBUG"), (20, "INFO"), (30, "WARNING"), (40, "ERROR"), (50, "CRITICAL")]

def word (level : Level) : String :=
  (words.lookup level).getD ("Level " ++ String.ofList (Decimal.showInteger level))

def ofWord? (word : String) : Option Level := (words.find? (·.2 = word)).map (·.1)

end Level

/-! The parts that write entries, by the names they write under. -/

namespace Author

/-- The name under which all the parts stand. -/
def root : String := "changescan"

def part (name : String) : String := root ++ ".lib." ++ name

def command : String := root ++ ".__main__"

def catalog : String := part "catalog"

def resilience : String := part "resilience"

def selector : String := part "selector"

def updateTime : String := part "providers.base"

def storage : String := part "providers.filesystem"

def watermark : String := part "watermark"

def scheduler : String := part "scheduler"

def config : String := part "config"

end Author

/-- One entry of a journal. -/
structure Entry where
  level : Level
  author : String
  message : String
  context : List (String × Data) := []
  deriving Inhabited

/-- Entries in the order in which they were written. -/
abbrev Journal := List Entry

def Journal.atLeast (level : Level) (journal : Journal) : Journal :=
  journal.filter (level ≤ ·.level)

end CatalogDelta
