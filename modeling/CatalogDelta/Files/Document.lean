import CatalogDelta.Files.Access
import CatalogDelta.Json.Reader

/-!
# Documents in files

How documents are written is for a reader to say, which this library is given from outside. A
document is read whole; a malformed one is a fault that names the file. The usual reader takes JSON
with stricter numerals: an exponent needs a point before it and a sign of its own, and what does not
have them is taken as text. A blank document holds null.
-/

namespace CatalogDelta

/-- Why a text is no document. -/
inductive DocumentError where
  | malformed (reason : String)
  /-- The reader fails in another way. -/
  | failed (fault : Fault)

/-- How documents are read. -/
abbrev DocumentReader := String → Except DocumentError Data

namespace FileAccess

variable {σ : Type}

/-- What is said of a document that cannot be read. -/
def malformedDocument (subject : String) (path : Path) (reason : String) : Fault :=
  .configuration ("Invalid YAML in " ++ subject ++ path.text ++ ": " ++ reason)

/-- Read the document in a file; `subject` says what it holds, before its path. -/
def readDocument (access : FileAccess σ) (reader : DocumentReader) (subject : String)
    (path : Path) : Act σ Data := do
  match reader (← access.readText path) with
  | .ok document => return document
  | .error (.malformed reason) => throw (malformedDocument subject path reason)
  | .error (.failed fault) => throw fault

end FileAccess

/-! ## The usual reader -/

namespace Json

def Numeral.documentValue (numeral : Numeral) : Except Complaint Value :=
  match numeral.exponent with
  | none => numeral.value
  | some exponent =>
    if numeral.fraction.isSome && exponent.sign.isSome then numeral.value
    else .ok (.text (.ofText numeral.written))

/-- The dialect of documents: the words for unusual numbers are plain text. -/
def Dialect.document : Dialect :=
  ⟨Numeral.documentValue,
    plainWords ++ numberWords.map fun (word, _) => (word, .text (.ofText word))⟩

/-- What is said of every text that is no document. -/
def malformed : DocumentError := .malformed "the document is malformed"

/-- Read a document; a blank one holds null, and one with a unit that stands alone is refused. -/
def readDocument : DocumentReader := fun text =>
  if text.toList.all Text.isBlank then .ok .null
  else
    match readAs .document text.toList with
    | .error _ => .error malformed
    | .ok document => (document.toData?.map .ok).getD (.error malformed)

end Json
end CatalogDelta
