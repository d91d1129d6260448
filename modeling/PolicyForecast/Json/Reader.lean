import PolicyForecast.Json.Value
import PolicyForecast.Text.Numeral

/-!
# Reading a data file

A text is read as one value with blanks around it. The dialect knows the numbers `NaN`,
`Infinity` and `-Infinity`; of two fields with one name the last one counts; control characters
must be escaped in texts; and an integer may have no more than 4300 digits.

Every step of the reader returns what it read and the text after it, which is shorter, so the
length of the text bounds the work.
-/

namespace PolicyForecast.Json

open Text (CodePoint hexValue?)

/-- Why a text is not a value. -/
inductive ReadFault where
  /-- The text does not follow the grammar. -/
  | malformed
  /-- An integer has too many digits to be read. -/
  | oversizedInteger
deriving DecidableEq, Repr

/-- The text after the blanks that may stand between tokens. -/
def skipBlanks : List Char → List Char
  | c :: rest => if c = ' ' ∨ c = '\t' ∨ c = '\n' ∨ c = '\r' then skipBlanks rest else c :: rest
  | [] => []

/-! ## Texts -/

/-- The number that four hexadecimal digits spell. -/
def hexUnit? (a b c d : Char) : Option Nat := do
  let a ← hexValue? a
  let b ← hexValue? b
  let c ← hexValue? c
  let d ← hexValue? d
  some (((a * 16 + b) * 16 + c) * 16 + d)

/-- The character of a short escape. -/
def shortEscape? : Char → Option Char
  | '"' => some '"'
  | '\\' => some '\\'
  | '/' => some '/'
  | 'b' => some '\x08'
  | 'f' => some '\x0c'
  | 'n' => some '\n'
  | 'r' => some '\r'
  | 't' => some '\t'
  | _ => none

/-- Reads the rest of a text after its opening quote; its code points so far are in reverse. -/
def readText : (fuel : Nat) → List CodePoint → List Char →
    Except ReadFault (List CodePoint × List Char)
  | 0, _, _ => .error .malformed
  | _ + 1, _, [] => .error .malformed
  | _ + 1, t, '"' :: rest => .ok (t.reverse, rest)
  | fuel + 1, t, '\\' :: 'u' :: a :: b :: c :: d :: rest =>
    match hexUnit? a b c d with
    | none => .error .malformed
    | some unit =>
      if 0xd800 ≤ unit ∧ unit < 0xdc00 then
        match rest with
        | '\\' :: 'u' :: a' :: b' :: c' :: d' :: rest' =>
          match hexUnit? a' b' c' d' with
          | none => .error .malformed
          | some low =>
            if 0xdc00 ≤ low ∧ low < 0xe000 then
              let code := 0x10000 + (unit - 0xd800) * 0x400 + (low - 0xdc00)
              readText fuel (.char (Char.ofNat code) :: t) rest'
            else readText fuel (.surrogate unit :: t) rest
        | _ => readText fuel (.surrogate unit :: t) rest
      else if 0xdc00 ≤ unit ∧ unit < 0xe000 then readText fuel (.surrogate unit :: t) rest
      else readText fuel (.char (Char.ofNat unit) :: t) rest
  | fuel + 1, t, '\\' :: c :: rest =>
    match shortEscape? c with
    | some e => readText fuel (.char e :: t) rest
    | none => .error .malformed
  | fuel + 1, t, c :: rest =>
    if c.toNat < 0x20 then .error .malformed else readText fuel (.char c :: t) rest

/-! ## Numbers -/

/-- The longest run of ASCII digits and the text after it. -/
def digitRun (cs : List Char) : List Char × List Char :=
  (cs.takeWhile Char.isDigit, cs.dropWhile Char.isDigit)

/-- The fraction of a number, if a point and a digit follow. -/
def fractionPart : List Char → Option (List Char) × List Char
  | '.' :: rest =>
    match digitRun rest with
    | ([], _) => (none, '.' :: rest)
    | (ds, after) => (some ds, after)
  | cs => (none, cs)

/-- The number that a run of ASCII digits spells. -/
def decimalValue (ds : List Char) : Nat :=
  ds.foldl (fun n c => 10 * n + (c.toNat - 48)) 0

/-- The exponent of a number, if a marker, perhaps a sign, and a digit follow. -/
def exponentPart (cs : List Char) : Option Int × List Char :=
  match cs with
  | [] => (none, cs)
  | c :: rest =>
    if c = 'e' ∨ c = 'E' then
      let (negative, body) := Text.splitSign rest
      match digitRun body with
      | ([], _) => (none, cs)
      | (ds, after) =>
        let n : Int := decimalValue ds
        (some (if negative then -n else n), after)
    else (none, cs)

/-- The integer part of a number: a zero, or digits that do not start with one. -/
def wholePart? : List Char → Option (List Char × List Char)
  | '0' :: rest => some (['0'], rest)
  | cs =>
    match digitRun cs with
    | ([], _) => none
    | r => some r

/-- Reads a number without its sign. -/
def readMagnitude (negative : Bool) (cs : List Char) : Except ReadFault (Json × List Char) :=
  match wholePart? cs with
  | none => .error .malformed
  | some (whole, rest) =>
    let (fraction, rest) := fractionPart rest
    let (exponent, rest) := exponentPart rest
    if fraction.isNone && exponent.isNone then
      if Text.longestInteger < whole.length then .error .oversizedInteger
      else
        let n : Int := decimalValue whole
        .ok (.int (if negative then -n else n), rest)
    else
      let ds := fraction.getD []
      let x := (Text.Spelled.mk (decimalValue (whole ++ ds)) (exponent.getD 0 - ds.length)).toFloat
      .ok (.float (if negative then -x else x), rest)

/-- Drops a word from the start of a text. -/
def afterWord? (word : String) (cs : List Char) : Option (List Char) :=
  if word.toList.isPrefixOf cs then some (cs.drop word.length) else none

/-- Reads a value that is no text, array or object. -/
def readScalar (cs : List Char) : Except ReadFault (Json × List Char) :=
  let words : List (String × Json) :=
    [("null", .null), ("true", .bool true), ("false", .bool false), ("NaN", .float (0.0 / 0.0)),
     ("Infinity", .float (1.0 / 0.0)), ("-Infinity", .float (-1.0 / 0.0))]
  match words.findSome? fun (word, value) => (afterWord? word cs).map fun rest => (value, rest) with
  | some r => .ok r
  | none =>
    match cs with
    | '-' :: rest => readMagnitude true rest
    | _ => readMagnitude false cs

/-! ## Values -/

mutual

/-- Reads a value at the start of a text. -/
def readValue : (fuel : Nat) → List Char → Except ReadFault (Json × List Char)
  | 0, _ => .error .malformed
  | _ + 1, '"' :: rest => do
    let (points, rest) ← readText (rest.length + 1) [] rest
    .ok (ofPoints points, rest)
  | fuel + 1, '[' :: rest =>
    match skipBlanks rest with
    | ']' :: rest => .ok (.array [], rest)
    | rest => do
      let (items, rest) ← readItems fuel rest
      .ok (.array items, rest)
  | fuel + 1, '{' :: rest =>
    match skipBlanks rest with
    | '}' :: rest => .ok (.object [], rest)
    | rest => do
      let (fields, rest) ← readFields fuel rest
      .ok (.object (OrderedMap.ofList fields).entries, rest)
  | _ + 1, cs => readScalar cs

/-- Reads the items of an array up to its end. -/
def readItems : (fuel : Nat) → List Char → Except ReadFault (List Json × List Char)
  | 0, _ => .error .malformed
  | fuel + 1, cs => do
    let (item, rest) ← readValue fuel cs
    match skipBlanks rest with
    | ']' :: rest => .ok ([item], rest)
    | ',' :: rest => do
      let (items, rest) ← readItems fuel (skipBlanks rest)
      .ok (item :: items, rest)
    | _ => .error .malformed

/-- Reads the fields of an object up to its end. -/
def readFields : (fuel : Nat) → List Char → Except ReadFault (List (FieldName × Json) × List Char)
  | 0, _ => .error .malformed
  | fuel + 1, '"' :: cs => do
    let (points, rest) ← readText (cs.length + 1) [] cs
    let name := FieldName.ofPoints points
    match skipBlanks rest with
    | ':' :: rest => do
      let (value, rest) ← readValue fuel (skipBlanks rest)
      match skipBlanks rest with
      | '}' :: rest => .ok ([(name, value)], rest)
      | ',' :: rest => do
        let (fields, rest) ← readFields fuel (skipBlanks rest)
        .ok ((name, value) :: fields, rest)
      | _ => .error .malformed
    | _ => .error .malformed
  | _ + 1, _ => .error .malformed

end

/-- The value that a whole text spells. -/
def read (text : String) : Except ReadFault Json := do
  let cs := text.toList
  let (value, rest) ← readValue (cs.length + 1) (skipBlanks cs)
  match skipBlanks rest with
  | [] => .ok value
  | _ => .error .malformed

end PolicyForecast.Json
