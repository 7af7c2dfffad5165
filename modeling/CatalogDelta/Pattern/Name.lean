import CatalogDelta.Fault
import CatalogDelta.Pattern.Glob
import CatalogDelta.Pattern.Regex.Match
import CatalogDelta.Text.Pieces

/-!
# Name patterns

A name pattern is a list of globs, separated by commas or bars, or a regular expression after the
mark `regex:`. It covers whole names, and letter case does not count unless it is asked to.
-/

namespace CatalogDelta

/-- The rule by which a pattern covers names. -/
inductive NameRule where
  | globs (alternatives : List (List GlobToken))
  | regex (expression : Regex.Expression)

/-- A pattern over names, with the text it was read from. -/
structure NamePattern where
  text : String
  caseRule : CaseRule
  rule : NameRule

/-- The fault of an expression that cannot be compiled. -/
def Regex.Problem.fault (pattern : String) (expression : List Char) : Regex.Problem → Fault
  | .malformed message position =>
    .configuration ("Invalid regular expression: " ++ placedMessage expression message position)
      (some "pattern") (.text pattern)
  | .countTooLarge => .outOfRange "the repetition number is too large"
  | .unusable message => .invalidValue message

namespace NamePattern

def regexMark : String := "regex:"

/-- The text that covers every name. -/
def everything : String := "*"

/-- A pattern without the blanks around it; nothing means everything. -/
def normalized (pattern : Option String) : String :=
  let text := Text.trimmed (pattern.getD everything)
  if text.isEmpty then everything else text

/-- The globs of a pattern: its pieces without the blanks around them, the empty ones left out. -/
def globTexts (pattern : List Char) : List (List Char) :=
  ((Text.piecesAt (fun c => c = ',' || c = '|') pattern).map Text.trim).filter (!·.isEmpty)

/-- The rule that a pattern without blanks around it writes. -/
def ruleOf (caseRule : CaseRule) (pattern : String) : Except Fault NameRule :=
  if regexMark.toList.isPrefixOf pattern.toList then
    let expression := pattern.toList.drop regexMark.length
    match Regex.Expression.compile expression (caseRule = .ignored) with
    | .ok compiled => .ok (.regex compiled)
    | .error problem => .error (problem.fault pattern expression)
  else .ok (.globs ((globTexts pattern.toList).map Glob.tokens))

def parse (pattern : Option String) (caseRule : CaseRule := .ignored) :
    Except Fault NamePattern := do
  let text := normalized pattern
  return ⟨text, caseRule, ← ruleOf caseRule text⟩

def covers (pattern : NamePattern) (name : String) : Bool :=
  match pattern.rule with
  | .globs alternatives =>
    alternatives.any fun tokens => Glob.covers pattern.caseRule tokens name.toList
  | .regex expression => expression.covers name.toList

def literal (pattern : NamePattern) : String :=
  "NamePattern(" ++ Text.quoted pattern.text ++ ")"

end NamePattern
end CatalogDelta
