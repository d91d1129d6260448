import PolicyForecast.Number.Notation
import PolicyForecast.Table.Basic
import PolicyForecast.Text.Numeral

/-!
# Casts of cells

A cell is cast to a type without parts as its text, or as the number or flag that it stands for;
what has no value in that type becomes null. Which columns can be cast at all depends on their types
(`ColumnType.castsWhole`).
-/

namespace PolicyForecast

namespace Cell

/-- The notation of doubles in text columns. -/
def decimal : DecimalNotation where
  tie := .toEven
  lowest := -5
  highest := 15
  wholePlace := true
  plusSign := true
  exponentDigits := 1
  infinity := "inf"
  undefined := "NaN"

example : decimal.write (-2.5e22) = "-2.5e+22" := by decide +kernel
example : decimal.write 0.000015 = "0.000015" := by decide +kernel
example : decimal.write 1e-6 = "1e-6" := by decide +kernel

/-- The notation of doubles in text columns that take numbers as they stand: always positional, and
a whole number without a decimal place. -/
def positionalDecimal : DecimalNotation where
  tie := .upward
  lowest := -400
  highest := 400
  wholePlace := false
  plusSign := false
  exponentDigits := 1
  infinity := "inf"
  undefined := "NaN"

example : positionalDecimal.write 1e-7 = "0.0000001" := by decide +kernel
example : positionalDecimal.write 2e17 = "200000000000000000" := by decide +kernel
example : positionalDecimal.write 1105607575970014.25 = "1105607575970014.3" := by decide +kernel

mutual

/-- The text of a cell. A list is written as its items in brackets, a record as its fields without
names in braces; in a record, texts have quotes unless the record is an item of a list. -/
def written (quotes : Bool) : Cell → String
  | .null => "null"
  | .text s => if quotes then "\"" ++ s ++ "\"" else s
  | .integer n => toString n
  | .real x => decimal.write x
  | .flag b => if b then "true" else "false"
  | .list items => "[" ++ ",".intercalate (writtenItems items) ++ "]"
  | .record fields => "\x7b" ++ ",".intercalate (writtenFields quotes fields) ++ "\x7d"

/-- The texts of the items of a list. -/
def writtenItems : List Cell → List String
  | [] => []
  | item :: rest => item.written false :: writtenItems rest

/-- The texts of the fields of a record. -/
def writtenFields (quotes : Bool) : List (String × Cell) → List String
  | [] => []
  | (_, cell) :: rest => cell.written quotes :: writtenFields quotes rest

end

example : (list [.text "a", .real 2e-24, .null]).written true = "[a,2e-24,null]" := by
  decide +kernel
example : (record [("k", .text "a"), ("m", .list [.flag true])]).written true
    = "\x7b\"a\",[true]\x7d" := by decide +kernel

/-- An integer cell, null when the integer does not lie in the range of its column. -/
def fitted (range : IntegerRange) (n : Int) : Cell :=
  if range.contains n then .integer n else .null

/-- A cell cast to text. -/
def castText : Cell → Cell
  | .null => .null
  | .text s => .text s
  | cell => .text (cell.written true)

/-- The text that a cell is equal to; lists have none, and neither has a record of nothing but
nulls. -/
def textForm? : Cell → Option String
  | .null | .list _ => none
  | .record fields =>
    if !fields.isEmpty && fields.all (·.2.isNull) then none
    else some ((record fields).written true)
  | cell => cell.castText.text?

/-- A cell cast to an integer. -/
def castInteger (range : IntegerRange) : Cell → Cell
  | .text s => ((Text.strictInteger? s).map (fitted range)).getD .null
  | .integer n => fitted range n
  | .real x =>
    match Exact.trunc? x with
    | .ok n => fitted range n
    | .error _ => .null
  | .flag b => .integer (if b then 1 else 0)
  | _ => .null

/-- A cell cast to a double. -/
def castReal : Cell → Cell
  | .text s => ((Text.strictFloat? s).map .real).getD .null
  | .integer n => .real (Float.ofInt n)
  | .real x => .real x
  | .flag b => .real (if b then 1.0 else 0.0)
  | _ => .null

/-- A cell cast to a flag: a number is yes when it is not zero. -/
def castFlag : Cell → Cell
  | .integer n => .flag (n != 0)
  | .real x => .flag (x != 0.0)
  | .flag b => .flag b
  | _ => .null

/-- A cell cast to the type of a column without lists and records. -/
def cast (cell : Cell) : ColumnType → Cell
  | .text => cell.castText
  | .integer range => cell.castInteger range
  | .real => cell.castReal
  | .flag => cell.castFlag
  | .list _ | .record _ | .untyped => .null

end Cell

/-- Whether a column of one type can be cast to another: to types without parts, but not from lists,
from records to texts only, and not from texts to flags. -/
def ColumnType.castsWhole : ColumnType → ColumnType → Bool
  | _, .list _ | _, .record _ | .list _, _ | .text, .flag => false
  | .record _, .text => true
  | .record _, _ => false
  | _, _ => true

end PolicyForecast
