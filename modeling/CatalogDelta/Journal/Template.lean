import CatalogDelta.Data.Integer

/-!
# Message templates

A template holds places that begin with a percent sign and are filled from a row of arguments or,
by key, from a map. A place may ask for a width, a sign, padding and a precision.
-/

namespace CatalogDelta.Template

/-- What a place asks for. -/
structure Place where
  left : Bool := false
  plus : Bool := false
  blank : Bool := false
  alternate : Bool := false
  zero : Bool := false
  width : Nat := 0
  precision : Option Nat := none
  conversion : Char := 's'
  deriving Inhabited

/-- The arguments not yet used. -/
structure Supply where
  /-- The value that keys are looked up in, which need not be used otherwise. -/
  source : Option Data
  pending : List Data
  deriving Inhabited

namespace Supply

def ofRow (arguments : List Data) : Supply := ⟨none, arguments⟩

/-- A single value, looked up in by key if it is a map or a list. -/
def ofValue (value : Data) : Supply :=
  match value with
  | .map _ | .list _ => ⟨some value, [value]⟩
  | _ => ⟨none, [value]⟩

def next (supply : Supply) : Except Fault (Data × Supply) :=
  match supply.pending with
  | [] => .error (.wrongType "not enough arguments for format string")
  | value :: rest => .ok (value, { supply with pending := rest })

/-- A place has a key but there is no map. -/
def needsMap : Fault := .wrongType "format requires a mapping"

def select (key : String) (supply : Supply) : Except Fault Supply :=
  match supply.source with
  | none => .error needsMap
  | some (.map entries) =>
    match OrderedMap.get? key entries with
    | none => .error (.missingKey key)
    | some value => .ok { supply with pending := [value] }
  | some other => .error (.wrongType (other.typeName ++ " indices must be integers"))

end Supply

def incomplete : Fault := .invalidValue "incomplete format"

/-- The characters of a key and what follows its closing parenthesis; parentheses may nest. -/
def keyBody : Nat → List Char → Option (List Char × List Char)
  | _, [] => none
  | depth, c :: rest =>
    if c = ')' then
      match depth with
      | 0 => some ([], rest)
      | depth + 1 => (keyBody depth rest).map fun (key, after) => (c :: key, after)
    else
      (keyBody (if c = '(' then depth + 1 else depth) rest).map fun (key, after) =>
        (c :: key, after)

/-- Read the key of a place, if it has one. -/
def readKey (text : List Char) (supply : Supply) : Except Fault (List Char × Supply) :=
  match text with
  | '(' :: rest =>
    if supply.source.isNone then .error Supply.needsMap
    else
      match keyBody 0 rest with
      | none => .error (.invalidValue "incomplete format key")
      | some (key, after) => do return (after, ← supply.select (String.ofList key))
  | text => .ok (text, supply)

def readFlags (place : Place) : List Char → Place × List Char
  | [] => (place, [])
  | c :: rest =>
    if c = '-' then readFlags { place with left := true } rest
    else if c = '+' then readFlags { place with plus := true } rest
    else if c = ' ' then readFlags { place with blank := true } rest
    else if c = '#' then readFlags { place with alternate := true } rest
    else if c = '0' then readFlags { place with zero := true } rest
    else (place, c :: rest)

def starred (limit : Nat) (supply : Supply) : Except Fault (Int × Supply) := do
  let (value, supply) ← supply.next
  match value with
  | .int n =>
    if limit < n.natAbs then throw (.outOfRange "int too large for a width or a precision")
    return (n, supply)
  | .bool b => return (if b then 1 else 0, supply)
  | _ => throw (.wrongType "* wants int")

/-- The number written by the digits at the front; none if it is beyond a limit. -/
def readNumber (limit : Nat) (text : List Char) : Option (Nat × List Char) :=
  let digits := text.takeWhile Char.isDigit
  let value := Text.digitsValue digits
  if limit < value then none else some (value, text.dropWhile Char.isDigit)

/-- The greatest width. -/
def widthLimit : Nat := 9223372036854775807

/-- The greatest precision. -/
def precisionLimit : Nat := 2147483647

def readWidth (place : Place) (text : List Char) (supply : Supply) :
    Except Fault (Place × List Char × Supply) :=
  match text with
  | '*' :: rest => do
    let (width, supply) ← starred widthLimit supply
    return ({ place with left := place.left || width < 0, width := width.natAbs }, rest, supply)
  | text =>
    match readNumber widthLimit text with
    | none => .error (.invalidValue "width too big")
    | some (width, rest) => .ok ({ place with width }, rest, supply)

def readPrecision (place : Place) (text : List Char) (supply : Supply) :
    Except Fault (Place × List Char × Supply) :=
  match text with
  | '.' :: '*' :: rest => do
    let (precision, supply) ← starred precisionLimit supply
    return ({ place with precision := some precision.toNat }, rest, supply)
  | '.' :: rest =>
    match readNumber precisionLimit rest with
    | none => .error (.invalidValue "precision too big")
    | some (precision, rest) => .ok ({ place with precision := some precision }, rest, supply)
  | text => .ok (place, text, supply)

/-- A size mark before the conversion means nothing. -/
def skipSize : List Char → List Char
  | c :: rest => if c = 'h' || c = 'l' || c = 'L' then rest else c :: rest
  | [] => []

def readPlace (text : List Char) (supply : Supply) :
    Except Fault (Place × List Char × Supply) := do
  let (text, supply) ← readKey text supply
  let (place, text) := readFlags {} text
  let (place, text, supply) ← readWidth place text supply
  let (place, text, supply) ← readPrecision place text supply
  match skipSize text with
  | [] => throw incomplete
  | conversion :: rest => return ({ place with conversion }, rest, supply)

/-- A text with everything outside ASCII escaped. -/
def asciiOnly (text : List Char) : List Char :=
  text.flatMap fun c =>
    if c.toNat < 0x80 then [c]
    else if c.toNat < 0x100 then ['\\', 'x'] ++ Text.hexField 2 c.toNat
    else if c.toNat < 0x10000 then ['\\', 'u'] ++ Text.hexField 4 c.toNat
    else ['\\', 'U'] ++ Text.hexField 8 c.toNat

/-- A filled place before it is padded: a sign, a mark of the base and the body. -/
structure Filling where
  sign : List Char := []
  mark : List Char := []
  body : List Char

def signOf (place : Place) (negative : Bool) : List Char :=
  if negative then ['-'] else if place.plus then ['+'] else if place.blank then [' '] else []

def padded (place : Place) (zeros : Bool) (filling : Filling) : List Char :=
  let length := filling.sign.length + filling.mark.length + filling.body.length
  let missing := place.width - length
  if place.left then
    filling.sign ++ filling.mark ++ filling.body ++ List.replicate missing ' '
  else if zeros then
    filling.sign ++ filling.mark ++ List.replicate missing '0' ++ filling.body
  else List.replicate missing ' ' ++ filling.sign ++ filling.mark ++ filling.body

/-- The whole number for a decimal place: floats are cut. -/
def wholeNumber (conversion : Char) : Data → Except Fault Int
  | .int n => .ok n
  | .bool b => .ok (if b then 1 else 0)
  | .float x => Data.integerOfFloat x
  | other =>
    .error (.wrongType ("%" ++ conversion.toString ++ " format: a real number is required, not " ++
      other.typeName))

/-- The whole number for a place in another base: floats are refused. -/
def indexNumber (conversion : Char) : Data → Except Fault Int
  | .int n => .ok n
  | .bool b => .ok (if b then 1 else 0)
  | other =>
    .error (.wrongType ("%" ++ conversion.toString ++ " format: an integer is required, not " ++
      other.typeName))

def wholeFilling (place : Place) (base : Nat) (mark : List Char) (upper : Bool) (value : Int) :
    Filling :=
  let digits := Nat.toDigits base value.natAbs
  let cased := if upper then digits.map Char.toUpper else digits
  { sign := signOf place (value < 0)
    mark := if place.alternate then mark else []
    body := Decimal.padFront (place.precision.getD 1) cased }

/-- Digits with a point after the first, and an exponent. -/
def scientificBody (keepPoint : Bool) (digits : List Char) (power : Int) : List Char :=
  let fraction := digits.drop 1
  digits.take 1 ++ (if fraction.isEmpty && !keepPoint then [] else '.' :: fraction) ++
    Decimal.exponentText 2 power

def dropFraction (text : List Char) : List Char :=
  if text.contains '.' then
    let kept := (text.reverse.dropWhile (· = '0')).reverse
    if kept.getLast? = some '.' then kept.dropLast else kept
  else text

def realBody (place : Place) (size : Decimal.Binary) : List Char :=
  let precision := place.precision.getD 6
  let kind := place.conversion.toLower
  if kind = 'f' then
    Decimal.fixedPoint precision size ++ (if place.alternate && precision = 0 then ['.'] else [])
  else if kind = 'e' then
    let number := Decimal.significant (precision + 1) size
    scientificBody place.alternate number.digits number.power
  else
    let count := max precision 1
    let number := Decimal.significant count size
    if -4 ≤ number.power && number.power < count then
      let places := (count - 1 - number.power).toNat
      let text := Decimal.fixedPoint places size
      if place.alternate then (if places = 0 then text ++ ['.'] else text)
      else dropFraction text
    else
      let digits := if place.alternate then number.digits
        else
          match Decimal.dropEndZeros number.digits with
          | [] => ['0']
          | digits => digits
      scientificBody place.alternate digits number.power

def realFilling (place : Place) (value : Float) : Filling :=
  let cased (text : List Char) :=
    if place.conversion.isUpper then text.map Char.toUpper else text
  match Decimal.Reading.ofFloat value with
  | .notANumber => { sign := signOf place false, body := cased "nan".toList }
  | .infinite negative => { sign := signOf place negative, body := cased "inf".toList }
  | .finite negative size =>
    { sign := signOf place negative, body := cased (realBody place size) }

def realNumber (value : Data) : Except Fault Float :=
  match value with
  | .int n =>
    if (Float.ofInt n).isInf then .error (.outOfRange "int too large to convert to float")
    else .ok (Float.ofInt n)
  | other =>
    match other.toFloat? with
    | some x => .ok x
    | none => .error (.wrongType ("must be real number, not " ++ other.typeName))

/-- A text cut to the precision. -/
def textFilling (place : Place) (text : List Char) : Filling :=
  { body := match place.precision with
      | none => text
      | some count => text.take count }

def charFilling : Data → Except Fault Filling
  | .text text =>
    match text.toList with
    | [c] => .ok { body := [c] }
    | _ => .error (.wrongType "%c requires int or char")
  | .int n =>
    if 0 ≤ n && n < 0x110000 then .ok { body := [Char.ofNat n.toNat] }
    else .error (.outOfRange "%c arg not in range(0x110000)")
  | .bool b => .ok { body := [if b then '\x01' else '\x00'] }
  | _ => .error (.wrongType "%c requires int or char")

/-- Fill a place with a value; `index` is where its conversion stands. -/
def fillPlace (place : Place) (index : Nat) (value : Data) : Except Fault (List Char) := do
  match place.conversion with
  | 's' => return padded place false (textFilling place value.shown.toList)
  | 'r' => return padded place false (textFilling place value.literal.toList)
  | 'a' => return padded place false (textFilling place (asciiOnly value.literal.toList))
  | 'd' | 'i' | 'u' =>
    return padded place place.zero
      (wholeFilling place 10 [] false (← wholeNumber place.conversion value))
  | 'o' =>
    return padded place place.zero
      (wholeFilling place 8 ['0', 'o'] false (← indexNumber 'o' value))
  | 'x' =>
    return padded place place.zero
      (wholeFilling place 16 ['0', 'x'] false (← indexNumber 'x' value))
  | 'X' =>
    return padded place place.zero
      (wholeFilling place 16 ['0', 'X'] true (← indexNumber 'X' value))
  | 'e' | 'E' | 'f' | 'F' | 'g' | 'G' =>
    return padded place place.zero (realFilling place (← realNumber value))
  | 'c' => return padded place false (← charFilling value)
  | other =>
    let shown := if 31 < other.toNat && other.toNat < 128 then other else '?'
    throw (.invalidValue ("unsupported format character '" ++ shown.toString ++ "' (0x" ++
      String.ofList (Nat.toDigits 16 other.toNat) ++ ") at index " ++ toString index))

/-- Fill the places of a text whose end is so many characters away from the start of the template's
end; `size` is the length of the whole template. -/
def fillAll (size : Nat) : Nat → List Char → Supply → Except Fault (List Char)
  | 0, _, _ => .ok []
  | _ + 1, [], supply =>
    if supply.source.isNone && !supply.pending.isEmpty then
      .error (.wrongType "not all arguments converted during string formatting")
    else .ok []
  | fuel + 1, c :: rest, supply =>
    if c ≠ '%' then do return c :: (← fillAll size fuel rest supply)
    else
      match rest with
      | '%' :: after => do return '%' :: (← fillAll size fuel after supply)
      | rest => do
        let (place, after, supply) ← readPlace rest supply
        let (value, supply) ← supply.next
        let filled ← fillPlace place (size - after.length - 1) value
        return filled ++ (← fillAll size fuel after supply)

def fill (template : String) (supply : Supply) : Except Fault String := do
  let text := template.toList
  return String.ofList (← fillAll text.length (text.length + 1) text supply)

/-- Fill a template from the arguments of a call: a single map that is not empty is looked up in by
key, and without arguments the template is taken as it is. -/
def fillCall (template : String) : List Data → Except Fault String
  | [] => .ok template
  | [.map (entry :: entries)] => fill template (.ofValue (.map (entry :: entries)))
  | arguments => fill template (.ofRow arguments)

end CatalogDelta.Template
