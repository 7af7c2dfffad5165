import CatalogDelta.Fault

/-!
# Bytes as text

Files hold text in UTF-8. A byte sequence that encodes no text is described by the place of its
first ill-formed part. In text read from a file every line ends with a plain line feed.
-/

namespace CatalogDelta.Encoding

/-- What is wrong with a part of a byte sequence. -/
inductive Flaw where
  | badStart
  | badContinuation
  | endsEarly
  deriving Repr, DecidableEq

def Flaw.words : Flaw → String
  | badStart => "invalid start byte"
  | badContinuation => "invalid continuation byte"
  | endsEarly => "unexpected end of data"

/-- An ill-formed part: how many bytes it has, its first byte, and what is wrong. -/
structure Part where
  length : Nat
  first : Nat
  flaw : Flaw
  deriving Repr, DecidableEq

/-- How many bytes follow a first byte, and the range of the first of them. -/
def following? (first : Nat) : Option (Nat × Nat × Nat) :=
  if 0xC2 ≤ first && first < 0xE0 then some (1, 0x80, 0xC0)
  else if first = 0xE0 then some (2, 0xA0, 0xC0)
  else if first = 0xED then some (2, 0x80, 0xA0)
  else if 0xE1 ≤ first && first < 0xF0 then some (2, 0x80, 0xC0)
  else if first = 0xF0 then some (3, 0x90, 0xC0)
  else if 0xF1 ≤ first && first < 0xF4 then some (3, 0x80, 0xC0)
  else if first = 0xF4 then some (3, 0x80, 0x90)
  else none

/-- The flaw in the bytes that should follow a first byte; `done` of them have been seen. -/
def continuationFlaw? (first low high : Nat) : (left done : Nat) → List Nat → Option Part
  | 0, _, _ => none
  | _ + 1, done, [] => some ⟨done + 1, first, .endsEarly⟩
  | left + 1, done, byte :: rest =>
    if low ≤ byte && byte < high then continuationFlaw? first 0x80 0xC0 left (done + 1) rest
    else some ⟨done + 1, first, .badContinuation⟩

/-- The first ill-formed part of a byte sequence and how many bytes lie before it. -/
def firstFlaw? : Nat → Nat → List Nat → Option (Nat × Part)
  | 0, _, _ => none
  | _ + 1, _, [] => none
  | fuel + 1, before, byte :: rest =>
    if byte < 0x80 then firstFlaw? fuel (before + 1) rest
    else
      match following? byte with
      | none => some (before, ⟨1, byte, .badStart⟩)
      | some (count, low, high) =>
        match continuationFlaw? byte low high count 0 rest with
        | some part => some (before, part)
        | none => firstFlaw? fuel (before + count + 1) (rest.drop count)

/-- What is said of a byte sequence that encodes no text. -/
def flawText (bytes : ByteArray) : String :=
  let codes := bytes.toList.map UInt8.toNat
  match firstFlaw? (codes.length + 1) 0 codes with
  | none => "invalid text"
  | some (place, part) =>
    let where_ :=
      if part.length = 1 then
        "byte 0x" ++ String.ofList (Text.hexField 2 part.first) ++ " in position " ++
          toString place
      else "bytes in position " ++ toString place ++ "-" ++ toString (place + part.length - 1)
    "'utf-8' codec can't decode " ++ where_ ++ ": " ++ part.flaw.words

/-- Line ends of every kind as plain line feeds. -/
def plainLines : List Char → List Char
  | [] => []
  | '\r' :: '\n' :: rest => '\n' :: plainLines rest
  | '\r' :: rest => '\n' :: plainLines rest
  | c :: rest => c :: plainLines rest

def decode (bytes : ByteArray) : Except Fault String :=
  match String.fromUTF8? bytes with
  | some text => .ok (String.ofList (plainLines text.toList))
  | none => .error (.misuse .undecodable (flawText bytes))

def encode (text : String) : ByteArray := text.toUTF8

end CatalogDelta.Encoding
