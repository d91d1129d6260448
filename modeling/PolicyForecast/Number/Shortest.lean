/-!
# The fewest decimal digits that name a double

Every real number between the two midpoints around a double is read back as that double, the
midpoints themselves exactly when the significand is even. The decimal chosen here lies in that
interval, has as few digits as any that does, and among those is nearest to the double; which of two
equally near ones it is, is for the caller to say.

The search runs over the number of digits. On the grid of decimals with a given number of digits
only the two neighbours of the double need to be looked at: if any point of the grid lies in the
interval, one of those two does.
-/

namespace PolicyForecast.Shortest

/-- Which of two equally near decimals is chosen. -/
inductive Tie where
  /-- The one with the even last digit. -/
  | toEven
  /-- The greater one. -/
  | upward
deriving DecidableEq, Repr

/-- A positive decimal `digits · 10^exponent`, written without trailing zeros. -/
structure Decimal where
  digits : Nat
  exponent : Int
deriving DecidableEq, Repr

/-- The number of decimal digits of a natural number. -/
def digitCount (n : Nat) : Nat :=
  (Nat.toDigits 10 n).length

/-- `10^k` as a fraction. -/
def tenPower (k : Int) : Nat × Nat :=
  if 0 ≤ k then (Nat.pow 10 k.toNat, 1) else (1, Nat.pow 10 (-k).toNat)

/-- `2^k` as a fraction. -/
def twoPower (k : Int) : Nat × Nat :=
  if 0 ≤ k then (Nat.pow 2 k.toNat, 1) else (1, Nat.pow 2 (-k).toNat)

/-- The interval of numbers that are read back as `m · 2^e`, in quarters of the last place. -/
structure Interval where
  low : Nat
  value : Nat
  high : Nat
  closed : Bool

/-- The interval of `m · 2^e`. Just below a power of two the doubles lie twice as close, except at
the smallest exponent. -/
def interval (m : Nat) (e : Int) : Interval where
  low := 4 * m - (if m = Nat.pow 2 52 ∧ -1074 < e then 1 else 2)
  value := 4 * m
  high := 4 * m + 2
  closed := m % 2 == 0

/-- Whether `d · unit` lies in the interval, when one quarter is worth `quarter`. -/
def Interval.contains (i : Interval) (quarter unit d : Nat) : Bool :=
  let x := d * unit
  if i.closed then i.low * quarter ≤ x && x ≤ i.high * quarter
  else i.low * quarter < x && x < i.high * quarter

/-- The better of the two neighbours of the value on the grid of multiples of `unit`. -/
def nearestIn? (tie : Tie) (i : Interval) (quarter unit : Nat) : Option Nat :=
  let v := i.value * quarter
  let below := v / unit
  let above := below + 1
  match i.contains quarter unit below, i.contains quarter unit above with
  | true, true =>
    let dBelow := v - below * unit
    let dAbove := above * unit - v
    if dBelow < dAbove then some below
    else if dAbove < dBelow then some above
    else if tie = .toEven ∧ below % 2 = 0 then some below else some above
  | true, false => some below
  | false, true => some above
  | false, false => none

/-- The position after the leading digit: the least `k` with `num / den < 10^k`. -/
def leadingPosition (num den : Nat) : Int :=
  let guess : Int := digitCount num - digitCount den
  let (p, q) := tenPower guess
  if num * q < den * p then guess else guess + 1

/-- Moves trailing zeros of the digits into the exponent. -/
def trimZeros : Nat → Nat → Int → Decimal
  | 0, d, e => ⟨d, e⟩
  | fuel + 1, d, e => if d % 10 == 0 && d != 0 then trimZeros fuel (d / 10) (e + 1) else ⟨d, e⟩

/-- The decimal for `m · 2^e`; seventeen digits are always enough. -/
def ofScaled (tie : Tie) (m : Nat) (e : Int) : Decimal :=
  let i := interval m e
  let (a, b) := twoPower (e - 2)
  let k := leadingPosition (i.value * a) b
  let onGrid (n : Nat) : Option Decimal :=
    let (p, q) := tenPower (k - n)
    (nearestIn? tie i (a * q) (p * b)).map fun d => trimZeros 20 d (k - n)
  ((List.range' 1 17).findSome? onGrid).getD ⟨0, 0⟩

end PolicyForecast.Shortest
