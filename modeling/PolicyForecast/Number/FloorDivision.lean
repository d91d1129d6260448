import PolicyForecast.Number.Exact

/-!
# Division of doubles rounded down

The floored quotient is found through the exact remainder: subtracting the remainder first makes
the division come out almost whole, and what is left over is rounded away. The remainder takes the
sign of the divisor, so that quotient and remainder belong together for negative numbers too.
-/

namespace PolicyForecast

open Float.Model (UnpackedFloat)

namespace Exact

/-- `±m · 2^e` in units of `2^f`, for `f` not above `e`. -/
def inUnits (m : Nat) (e f : Int) : Nat :=
  m * Nat.pow 2 (e - f).toNat

/-- The exact remainder of two doubles, with the sign of the dividend. -/
def remainder (x y : Float) : Float :=
  match unpacked x, unpacked y with
  | .finite s m₁ e₁ _, .finite _ m₂ e₂ _ =>
    let f := min e₁ e₂
    toFloat s (inUnits m₁ e₁ f % inUnits m₂ e₂ f) f
  | .zero _, .finite .. => x
  | .zero _, .infinity _ => x
  | .finite .., .infinity _ => x
  | _, _ => 0.0 / 0.0

/-- Whether the sign bit of a double is set. -/
def signBit (x : Float) : Bool :=
  match unpacked x with
  | .infinity s | .zero s | .finite s .. => s == .negative
  | .notANumber => false

/-- Zero with the sign of another double. -/
def zeroLike (x : Float) : Float :=
  if signBit x then -0.0 else 0.0

/-- A double rounded down; zeros, infinities and what is not a number stay as they are. -/
def floorFloat (x : Float) : Float :=
  match unpacked x with
  | .finite s m e _ => Float.ofInt (floorScaled (s.apply m) e)
  | _ => x

/-- The quotient of two doubles rounded down, for a divisor that is not zero. -/
def floorDiv (x y : Float) : Float :=
  let r := remainder x y
  let q := (x - r) / y
  let q := if r != 0.0 && (y < 0.0) != (r < 0.0) then q - 1.0 else q
  if q != 0.0 then
    let whole := floorFloat q
    if q - whole > 0.5 then whole + 1.0 else whole
  else
    zeroLike (x / y)

end Exact

end PolicyForecast
