/-!
# Doubles as exact numbers

A double is computed with as such, but three questions about it need its exact value: which
integer lies below it, how it compares with an integer of any size, and which double is nearest to
an integer. They are answered on the significand and exponent that `Float.Model.unpack` gives, in
integer arithmetic.
-/

namespace PolicyForecast

open Float.Model (UnpackedFloat)

/-- The sign, significand and exponent of a double, or which special value it is. -/
def unpacked (x : Float) : UnpackedFloat :=
  x.toModel.unpack

/-- Why a number has no counterpart in the other representation. -/
inductive NumberFault where
  /-- An infinite double has no integer. -/
  | infinite
  /-- A double that is not a number has no integer. -/
  | undefined
  /-- An integer beyond the largest double has no double. -/
  | tooLarge
deriving DecidableEq, Repr

namespace Exact

/-- The value `±m · 2^e` rounded down to an integer. -/
def floorScaled (m : Int) (e : Int) : Int :=
  if 0 ≤ e then m * Int.pow 2 e.toNat else m / Int.pow 2 (-e).toNat

/-- The value `±m · 2^e` rounded toward zero. -/
def truncScaled (m : Int) (e : Int) : Int :=
  if 0 ≤ e then m * Int.pow 2 e.toNat else m.tdiv (Int.pow 2 (-e).toNat)

/-- The largest integer that is not above a double. -/
def floor? (x : Float) : Except NumberFault Int :=
  match unpacked x with
  | .notANumber => .error .undefined
  | .infinity _ => .error .infinite
  | .zero _ => .ok 0
  | .finite s m e _ => .ok (floorScaled (s.apply m) e)

/-- A double without its fraction. -/
def trunc? (x : Float) : Except NumberFault Int :=
  match unpacked x with
  | .notANumber => .error .undefined
  | .infinity _ => .error .infinite
  | .zero _ => .ok 0
  | .finite s m e _ => .ok (truncScaled (s.apply m) e)

/-- The double nearest to an integer, when the integer is not beyond the largest double. -/
def ofInt? (n : Int) : Except NumberFault Float :=
  let x := Float.ofInt n
  if x.isInf then .error .tooLarge else .ok x

/-- The only reason why an integer has no double is that it is too large. -/
theorem eq_tooLarge_of_ofInt? {n : Int} {fault : NumberFault} (h : ofInt? n = .error fault) :
    fault = .tooLarge := by
  rw [ofInt?] at h
  split at h
  · exact (Except.error.inj h).symm
  · cases h

/-- How an integer compares with `±m · 2^e`. -/
def compareScaled (n m e : Int) : Ordering :=
  if 0 ≤ e then compare n (m * Int.pow 2 e.toNat)
  else compare (n * Int.pow 2 (-e).toNat) m

/-- How an integer compares with a double; nothing compares with what is not a number. -/
def compareInt? (n : Int) (x : Float) : Option Ordering :=
  match unpacked x with
  | .notANumber => none
  | .infinity .positive => some .lt
  | .infinity .negative => some .gt
  | .zero _ => some (compare n 0)
  | .finite s m e _ => some (compareScaled n (s.apply m) e)

/-- Whether an integer is at least as large as a double. -/
def intAtLeast (n : Int) (x : Float) : Bool :=
  (compareInt? n x).any (· != .lt)

/-- Whether an integer lies below a double. -/
def intBelow (n : Int) (x : Float) : Bool :=
  compareInt? n x == some .lt

/-- The double `±m · 2^e`, rounded to nearest when it needs more digits than a double has. -/
def toFloat (s : UnpackedFloat.Sign) (m : Nat) (e : Int) : Float :=
  if m = 0 then Float.ofModel (Float.Model.pack (.zero s))
  else Float.ofModel (Float.Model.pack (.round .binary64 s m e))

end Exact

/-- A number as it was given: whole numbers stay exact until they are computed with. -/
inductive Quantity where
  | whole (n : Int)
  | real (x : Float)

/-- The double that a quantity is computed with. -/
def Quantity.toFloat? : Quantity → Except NumberFault Float
  | .whole n => Exact.ofInt? n
  | .real x => .ok x

/-- Whether a quantity is zero. -/
def Quantity.isZero : Quantity → Bool
  | .whole n => n == 0
  | .real x => x == 0.0

end PolicyForecast
