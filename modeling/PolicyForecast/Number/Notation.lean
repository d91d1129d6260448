import PolicyForecast.Number.Exact
import PolicyForecast.Number.Shortest

/-!
# Doubles written in decimal

A notation says which decimal exponents are written positionally, whether a whole number shows a
decimal place, how an exponent is written, and what the special values are called. The digits are
always the shortest ones that are read back as the same double, and the notation says which of two
equally near ones are taken.
-/

namespace PolicyForecast

open Float.Model (UnpackedFloat)

/-- The decisions of a decimal notation for doubles. -/
structure DecimalNotation where
  /-- Which of two equally near decimals is written. -/
  tie : Shortest.Tie
  /-- The least decimal exponent that is written positionally. -/
  lowest : Int
  /-- The greatest decimal exponent that is written positionally. -/
  highest : Int
  /-- Whether a whole number that is written positionally ends with the decimal place `.0`. -/
  wholePlace : Bool
  /-- Whether an exponent that is not negative carries a plus sign. -/
  plusSign : Bool
  /-- The least number of digits of an exponent. -/
  exponentDigits : Nat
  /-- The name of the positive infinity. -/
  infinity : String
  /-- The name of what is not a number. -/
  undefined : String

namespace DecimalNotation

/-- The decimal digits of a natural number, padded with zeros on the left. -/
def padded (n width : Nat) : List Char :=
  let ds := Nat.toDigits 10 n
  List.replicate (width - ds.length) '0' ++ ds

/-- The decimal places of a whole number. -/
def wholeEnd (style : DecimalNotation) : List Char :=
  if style.wholePlace then ['.', '0'] else []

/-- Digits with the point after the first `point` places, and at least one digit before it. -/
def positional (style : DecimalNotation) (ds : List Char) (point : Int) : List Char :=
  if point ≤ 0 then
    '0' :: '.' :: (List.replicate (-point).toNat '0' ++ ds)
  else
    let p := point.toNat
    let whole := ds.take p ++ List.replicate (p - ds.length) '0'
    let fraction := ds.drop p
    whole ++ (if fraction.isEmpty then style.wholeEnd else '.' :: fraction)

/-- Digits with the point after the first one, followed by the exponent. -/
def scientific (style : DecimalNotation) (ds : List Char) (exponent : Int) : List Char :=
  let lead := ds.take 1
  let fraction := ds.drop 1
  let sign := if exponent < 0 then ['-'] else if style.plusSign then ['+'] else []
  lead ++ (if fraction.isEmpty then [] else '.' :: fraction)
    ++ 'e' :: (sign ++ padded exponent.natAbs style.exponentDigits)

/-- The text of a double. -/
def write (style : DecimalNotation) (x : Float) : String :=
  let signed (s : UnpackedFloat.Sign) (t : String) : String :=
    if s == .negative then "-" ++ t else t
  match unpacked x with
  | .notANumber => style.undefined
  | .infinity s => signed s style.infinity
  | .zero s => signed s (String.ofList ('0' :: style.wholeEnd))
  | .finite s m e _ =>
    let d := Shortest.ofScaled style.tie m e
    let ds := Nat.toDigits 10 d.digits
    let point : Int := ds.length + d.exponent
    let exponent := point - 1
    signed s <| String.ofList <|
      if style.lowest ≤ exponent && exponent ≤ style.highest then style.positional ds point
      else style.scientific ds exponent

end DecimalNotation

end PolicyForecast
