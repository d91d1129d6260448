import PolicyForecast.Table.Cast

/-!
# Equal cells

Cells of different types can be equal. Numbers of both kinds compare by value, flags are one and
zero among numbers, and a number equals a record of which it is the only field. A text equals what a
number, a flag or a record is written as. Lists are equal item by item and records field by field,
where a field that is missing is null.
-/

namespace PolicyForecast.Cell

/-- The value of a flag as a number. -/
def flagNumber (b : Bool) : Int :=
  if b then 1 else 0

/-- The number that a cell is: its own, that of a flag, or that of the only field of a record. -/
def number? : Cell → Option Cell
  | .integer n => some (.integer n)
  | .real x => some (.real x)
  | .flag b => some (.integer (flagNumber b))
  | .record [(_, cell)] => number? cell
  | _ => none

/-- Whether an integer and a double are equal once the integer is a double. -/
def intEqualsFloat (n : Int) (x : Float) : Bool :=
  Float.ofInt n == x

/-- Whether two numbers are equal. -/
def sameNumber : Cell → Cell → Bool
  | .integer n, .integer m => n == m
  | .integer n, .real x | .real x, .integer n => intEqualsFloat n x
  | .real x, .real y => x == y || (x.isNaN && y.isNaN)
  | _, _ => false

mutual

/-- Whether two cells are equal. -/
def equals : Cell → Cell → Bool
  | .null, .null => true
  | .text s, b => textForm? b == some s
  | a, .text s => textForm? a == some s
  | .list as, .list bs => equalItems as bs
  | .record as, .record bs =>
    equalFields as bs && bs.all fun (name, b) => (as.lookup name).isSome || b.isNull
  | a, b =>
    match number? a, number? b with
    | some n, some m => sameNumber n m
    | _, _ => false

/-- Whether two lists have equal items in the same order. -/
def equalItems : List Cell → List Cell → Bool
  | [], [] => true
  | a :: as, b :: bs => equals a b && equalItems as bs
  | _, _ => false

/-- Whether the fields of a record are equal to those of another. -/
def equalFields : List (String × Cell) → List (String × Cell) → Bool
  | [], _ => true
  | (name, a) :: as, bs => equals a ((bs.lookup name).getD .null) && equalFields as bs

end

example : equals (.list [.integer 1, .null]) (.list [.flag true, .null]) = true := by decide +kernel
example : equals (.record [("p", .integer 1)]) (.record [("p", .real 1.0), ("q", .null)]) = true :=
  by decide +kernel
example : equals (.record [("p", .text "1")]) (.integer 1) = false := by decide +kernel

end PolicyForecast.Cell
