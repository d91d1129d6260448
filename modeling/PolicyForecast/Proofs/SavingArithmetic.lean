import Mathlib.Algebra.Field.Rat
import Mathlib.Tactic.NormNum
import Mathlib.Tactic.Ring
import PolicyForecast.Proofs.SavingRates

/-!
# Savings in doubles and in exact numbers

What a saving comes to is an expression in amounts, costs and counts. It is evaluated in doubles,
where every operation rounds and an integer may be too large, and it can be read in other
arithmetics as well (`Arithmetic`). Read in exact rational numbers it is linear in the number of
things and their cost, for each rate, so that things may be reckoned together or one by one
(`Arithmetic.exact_saved_sum`). Of doubles this does not hold: sums depend on how they are grouped.
-/

namespace PolicyForecast

/-- Numbers, and the operations on them by which savings are reckoned. -/
structure Arithmetic (N : Type) where
  /-- The number that a double stands for. -/
  double : Float → N
  /-- The number that a quantity stands for. -/
  quantity : Quantity → N
  /-- A number of things. -/
  count : Nat → N
  add : N → N → N
  sub : N → N → N
  mul : N → N → N
  div : N → N → N
  isPositive : N → Bool

namespace Arithmetic

section

variable {N : Type} (A : Arithmetic N)

/-- Terms that are added up in their order, from zero. -/
def sum (terms : List N) : N :=
  terms.foldl A.add (A.double 0.0)

/-- What a rate saves on a number of things with a common cost. -/
def saved (n : Nat) (cost : N) : SavingRate → N
  | .each amount => A.mul (A.double amount) (A.count n)
  | .share percent =>
    let share := A.div (A.double percent) (A.double 100.0)
    if A.isPositive share then A.sub cost (A.div cost (A.add (A.double 1.0) share))
    else A.mul cost share

end

/-! ## Doubles -/

/-- An operation on numbers of which each may be too large. -/
def liftOperation (f : Float → Float → Float) (x y : Except NumberFault Float) :
    Except NumberFault Float := do
  return f (← x) (← y)

/-- Doubles, and integers as far as they have doubles. -/
def doubles : Arithmetic (Except NumberFault Float) where
  double := .ok
  quantity := Quantity.toFloat?
  count n := Exact.ofInt? n
  add := liftOperation (· + ·)
  sub := liftOperation (· - ·)
  mul := liftOperation (· * ·)
  div := liftOperation (· / ·)
  isPositive x := x.toOption.any (· > 0.0)

lemma doubles_share (n : Nat) (cost : Except NumberFault Float) (percent : Float) :
    doubles.saved n cost (.share percent) = (Modifier.shareSaved · percent) <$> cost := by
  have hshare : doubles.div (doubles.double percent) (doubles.double 100.0)
      = .ok (percent / 100.0) := rfl
  have hpositive :
      doubles.isPositive (.ok (percent / 100.0)) = decide (percent / 100.0 > 0.0) := rfl
  unfold saved Modifier.shareSaved
  simp only [hshare, hpositive, decide_eq_true_eq]
  by_cases h : percent / 100.0 > 0.0
  · simp only [if_pos h]
    cases cost <;> rfl
  · simp only [if_neg h]
    cases cost <;> rfl

/-- `saved` in `doubles` is `SavingRate.saved`. -/
lemma doubles_saved (n : Nat) (cost : Quantity) (rate : SavingRate) :
    doubles.saved n cost.toFloat? rate = rate.saved n cost := by
  cases rate with
  | each amount =>
    show liftOperation (· * ·) (.ok amount) (Exact.ofInt? n) = (amount * ·) <$> Exact.ofInt? n
    cases Exact.ofInt? n <;> rfl
  | share percent => exact doubles_share n cost.toFloat? percent

/-! ### Sums that are contributed -/

/-- The record of the contribution of a value, which may be too large for a double. -/
def contributed (channel : Channel) (text : Option String) :
    Except NumberFault Float → Recorded EvaluationFault Unit
  | .ok value => ⟨[.addition ⟨channel, text, value⟩], .ok ()⟩
  | .error fault => ⟨[], .error (.number fault)⟩

lemma given_contribute {answers : Answers} (channel : Channel) (text : Option String)
    (value : Except NumberFault Float) :
    (Evaluation.ofExcept (value.mapError .number) >>= Evaluation.contribute channel text).given
      answers = contributed channel text value := by
  cases value <;> rfl

/-- `foldl doubles.add` is `foldlM`, which stops at the first term that is too large. -/
lemma doubles_foldl (total : Float) (terms : List (Except NumberFault Float)) :
    terms.foldl doubles.add (.ok total)
      = terms.foldlM (fun total term => (total + ·) <$> term) total := by
  have hstop (fault : NumberFault) (terms : List (Except NumberFault Float)) :
      terms.foldl doubles.add (.error fault) = .error fault := by
    induction terms with
    | nil => rfl
    | cons term rest ih => exact ih
  induction terms generalizing total with
  | nil => rfl
  | cons term rest ih =>
    rw [List.foldl_cons, List.foldlM_cons]
    cases term with
    | error fault => exact hstop fault rest
    | ok x => exact ih (total + x)

/-- `doubles.sum` is the sum of the terms if all of them have a value. -/
lemma doubles_sum (terms : List (Except NumberFault Float)) :
    doubles.sum terms = (·.foldl (· + ·) 0.0) <$> terms.mapM id := by
  refine (doubles_foldl 0.0 terms).trans ?_
  generalize (0.0 : Float) = total
  induction terms generalizing total with
  | nil => rfl
  | cons term rest ih =>
    rw [List.foldlM_cons, List.mapM_cons]
    cases term with
    | error fault => rfl
    | ok x =>
      refine (ih (total + x)).trans ?_
      cases rest.mapM id <;> rfl

/-- A `mapM` whose values are added up and contributed is `contributed` of `doubles.sum`. -/
lemma given_contribute_sum {α : Type} {answers : Answers} {f : α → Except EvaluationFault Float}
    {as : List α} {terms : List (Except NumberFault Float)}
    (h : as.map f = terms.map (·.mapError .number)) (channel : Channel) (text : Option String) :
    (Evaluation.ofExcept (as.mapM f) >>= fun values =>
      Evaluation.contribute channel text (values.foldl (· + ·) 0.0)).given answers
        = contributed channel text (doubles.sum terms) := by
  have hvalues : as.mapM f = (terms.mapM id).mapError .number := by
    rw [← mapM_mapError, ← h, List.mapM_map]
    rfl
  rw [hvalues, doubles_sum]
  cases terms.mapM id <;> rfl

/-! ## Exact numbers -/

/-- The rational number that a finite double is; zero for what is infinite or no number. -/
def exactValue (x : Float) : ℚ :=
  match unpacked x with
  | .finite s m e _ => s.apply m * 2 ^ e
  | .zero _ | .infinity _ | .notANumber => 0

lemma exactValue_one : exactValue 1.0 = 1 := by
  have hunpacked : unpacked 1.0 = .finite .positive (2 ^ 52) (-52) (by decide) := rfl
  rw [exactValue, hunpacked]
  norm_num [Float.Model.UnpackedFloat.Sign.apply]

lemma exactValue_hundred : exactValue 100.0 = 100 := by
  have hunpacked : unpacked 100.0 = .finite .positive (100 * 2 ^ 46) (-46) (by decide) := rfl
  rw [exactValue, hunpacked]
  norm_num [Float.Model.UnpackedFloat.Sign.apply]

/-- Rational numbers, in which nothing is rounded and nothing is too large. -/
def exact : Arithmetic ℚ where
  double := exactValue
  quantity
    | .whole n => n
    | .real x => exactValue x
  count n := n
  add := (· + ·)
  sub := (· - ·)
  mul := (· * ·)
  div := (· / ·)
  isPositive x := 0 < x

lemma exact_sum (terms : List ℚ) : exact.sum terms = terms.sum :=
  List.sum_eq_foldl.symm

lemma exact_each (n : Nat) (cost : ℚ) (amount : Float) :
    exact.saved n cost (.each amount) = exactValue amount * n := rfl

lemma exact_share (n : Nat) (cost : ℚ) (percent : Float) :
    exact.saved n cost (.share percent) =
      if 0 < exactValue percent / 100
      then cost - cost / (1 + exactValue percent / 100) else cost * (exactValue percent / 100) := by
  have hshare : exact.div (exact.double percent) (exact.double 100.0)
      = exactValue percent / 100 := congrArg (exactValue percent / ·) exactValue_hundred
  have hpositive (x : ℚ) : exact.isPositive x = decide (0 < x) := rfl
  have hdivisor (x : ℚ) : exact.add (exact.double 1.0) x = 1 + x :=
    congrArg (· + x) exactValue_one
  unfold saved
  simp only [hshare, hpositive, hdivisor, decide_eq_true_eq]
  rfl

lemma exact_saved_zero (rate : SavingRate) : exact.saved 0 0 rate = 0 := by
  cases rate with
  | each amount => rw [exact_each, Nat.cast_zero, mul_zero]
  | share percent => rw [exact_share, zero_div, sub_zero, zero_mul, ite_self]

/-- `exact.saved` is additive in the number and the cost together. -/
lemma exact_saved_add (n n' : Nat) (cost cost' : ℚ) (rate : SavingRate) :
    exact.saved (n + n') (cost + cost') rate
      = exact.saved n cost rate + exact.saved n' cost' rate := by
  cases rate with
  | each amount =>
    simp only [exact_each, Nat.cast_add]
    ring
  | share percent =>
    simp only [exact_share]
    split <;> ring

/-- `exact.saved` of all costs is the sum of `exact.saved 1` of each. -/
lemma exact_saved_sum (costs : List ℚ) (rate : SavingRate) :
    exact.saved costs.length costs.sum rate
      = (costs.map fun cost => exact.saved 1 cost rate).sum := by
  induction costs with
  | nil => exact exact_saved_zero rate
  | cons cost rest ih =>
    rw [List.length_cons, List.sum_cons, Nat.add_comm, exact_saved_add, ih, List.map_cons,
      List.sum_cons]

end Arithmetic

end PolicyForecast
