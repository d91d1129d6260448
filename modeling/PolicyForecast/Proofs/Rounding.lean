import Mathlib
import PolicyForecast.Yield.Total

/-!
# When a total has an integer

A total is rounded by adding a half and taking the largest integer that is not above the sum. That
integer exists unless the sum is infinite or not a number, and adding a half makes neither of a
finite double, the largest ones included: the sum stays below the point from which doubles are
rounded to infinity (`Moderate`). Main statement: `exists_roundHalfUp_ok_iff`.
-/

namespace PolicyForecast

open Float.Model (Format totalExponent)
open Float.Model.UnpackedFloat (Sign ExtendedMantissa pack unpack unpackExponent unpackMantissa
  unpackExponent_packComponents shiftToTargetExponent shiftToExponent roundWithAccuracy
  decreaseExponent isFinite isNaN isInf)

variable {s : Sign} {m : Nat} {e : Int}

/-! ## Doubles that are packed and unpacked -/

/-- `unpack` is finite unless all exponent bits are set. -/
lemma isFinite_unpack {b : BitVec Format.binary64.numBits} :
    (unpack .binary64 b).isFinite = true ↔ unpackExponent b ≠ -1#11 := by
  unfold unpack
  dsimp only
  by_cases hexponent : unpackExponent b = -1#11
  · rw [if_pos hexponent]
    refine iff_of_false ?_ (not_not_intro hexponent)
    split <;> exact Bool.false_ne_true
  · rw [if_neg hexponent]
    refine iff_of_true ?_ hexponent
    split
    · split <;> rfl
    · rfl

lemma isFinite_pack_finite (he : e ≤ 971) (hm : 0 < m) :
    (Float.Model.pack (.finite s m e hm)).unpack.isFinite = true := by
  refine isFinite_unpack.2 ?_
  show unpackExponent (pack .binary64 (.finite s m e hm)) ≠ _
  unfold pack
  have hbiased : ¬ 2 ^ 11 ≤ (e + Format.exponentBias .binary64 + (52 : Nat)).toNat + 1 := by
    show ¬ 2048 ≤ (e + 1023 + 52).toNat + 1
    omega
  dsimp only
  rw [if_neg hbiased]
  split
  · rw [unpackExponent_packComponents]
    intro hall
    have hall : _ % 2 ^ 11 = 2047 := congrArg BitVec.toNat hall
    omega
  · rw [unpackExponent_packComponents]
    decide

lemma isFinite_pack_zero : (Float.Model.pack (.zero s)).unpack.isFinite = true := by
  cases s <;> rfl

lemma not_isFinite_pack_infinity :
    (Float.Model.pack (.infinity s)).unpack.isFinite = false := by
  cases s <;> rfl

lemma not_isFinite_pack_notANumber :
    (Float.Model.pack .notANumber).unpack.isFinite = false := rfl

/-- A finite double is `m * 2 ^ e` with `m < 2 ^ 53` and `-1074 ≤ e ≤ 971`. -/
lemma bounds_of_unpack {b : BitVec Format.binary64.numBits} {hm : 0 < m}
    (h : unpack .binary64 b = .finite s m e hm) : m < 2 ^ 53 ∧ -1074 ≤ e ∧ e ≤ 971 := by
  have hfinite : unpackExponent b ≠ -1#11 := isFinite_unpack.1 (by rw [h]; rfl)
  unfold unpack at h
  dsimp only at h
  rw [if_neg hfinite] at h
  have hshift : (Format.binary64.exponentBias : Int) + (52 : Nat) = 1075 := rfl
  rw [hshift] at h
  split at h
  next hzero =>
    split at h
    · cases h
    · -- the smallest exponent, with one bit less
      cases h
      have hmantissa : (unpackMantissa b).toNat < 2 ^ 52 := (unpackMantissa b).isLt
      have hexponent : (unpackExponent b).toNat = 0 := congrArg BitVec.toNat hzero
      omega
  next hzero =>
    cases h
    have hexponent : (unpackExponent b).toNat < 2048 := (unpackExponent b).isLt
    have hsmallest : (unpackExponent b).toNat ≠ 0 := fun h => hzero (BitVec.eq_of_toNat_eq h)
    have hgreatest : (unpackExponent b).toNat ≠ 2047 := fun h => hfinite (BitVec.eq_of_toNat_eq h)
    exact ⟨(1#1 ++ unpackMantissa b).isLt, by omega, by omega⟩

/-! ## Rounding to a double -/

/-- The value `m · 2^e` lies below the point from which doubles are rounded to infinity, halfway
between the largest double and the next power of two. -/
def Moderate (m : Nat) (e : Int) : Prop :=
  -1074 ≤ e ∧ e ≤ 971 ∧ 2 * m < (2 ^ 54 - 1) * 2 ^ (971 - e).toNat

lemma Moderate.shiftLeft {k : Nat} (h : Moderate m e) (hk : -1074 ≤ e - k) :
    Moderate (m <<< k) (e - k) := by
  obtain ⟨-, hle, hlt⟩ := h
  refine ⟨hk, by omega, ?_⟩
  have hpower : (971 - (e - k)).toNat = (971 - e).toNat + k := by omega
  rw [Nat.shiftLeft_eq, hpower, Nat.pow_add, ← Nat.mul_assoc, ← Nat.mul_assoc]
  exact Nat.mul_lt_mul_of_pos_right hlt (Nat.two_pow_pos k)

lemma Moderate.mono {m' : Nat} (h : Moderate m e) (hm : m' ≤ m) : Moderate m' e :=
  ⟨h.1, h.2.1, Nat.lt_of_le_of_lt (Nat.mul_le_mul_left 2 hm) h.2.2⟩

/-- A significand before any bit is dropped. -/
abbrev exactMantissa (m : Nat) : ExtendedMantissa :=
  .ofMantissaAndAccuracy m .exact

lemma mantissa_shiftRight (m k : Nat) : (exactMantissa m >>> k).mantissa = m / 2 ^ k := by
  induction k with
  | zero => exact (Nat.div_one m).symm
  | succ k ih =>
    show (exactMantissa m >>> k).mantissa / 2 = _
    rw [ih, Nat.div_div_eq_div_mul, Nat.pow_succ]

lemma roundedMantissa_le (em : ExtendedMantissa) :
    em.roundedMantissa ≤ em.mantissa + em.roundBit.toNat := by
  obtain ⟨mantissa, roundBit, stickyBit⟩ := em
  cases roundBit <;> cases stickyBit
  · exact Nat.le_refl mantissa
  · exact Nat.le_refl mantissa
  · show mantissa + mantissa % 2 ≤ mantissa + 1
    omega
  · exact Nat.le_refl (mantissa + 1)

/-- `roundedMantissa` after a shift by `k + 1` is at most `(m / 2 ^ k + 1) / 2`. -/
lemma roundedMantissa_shiftRight_le (m k : Nat) :
    (exactMantissa m >>> (k + 1)).roundedMantissa ≤ (m / 2 ^ k + 1) / 2 := by
  rw [← mantissa_shiftRight]
  generalize hem : exactMantissa m >>> k = em
  have hdropped : exactMantissa m >>> (k + 1) = em.shiftRightOne := hem ▸ rfl
  rw [hdropped]
  refine Nat.le_trans (roundedMantissa_le _) ?_
  show em.mantissa / 2 + (em.mantissa % 2 != 0).toNat ≤ (em.mantissa + 1) / 2
  rcases Nat.mod_two_eq_zero_or_one em.mantissa with hbit | hbit
  · rw [hbit]
    exact Nat.div_le_div_right (Nat.le_succ _)
  · rw [hbit]
    show em.mantissa / 2 + 1 ≤ _
    omega

lemma log2_lt_of_lt {k : Nat} (hk : 0 < k) (hm : m < 2 ^ k) : m.log2 < k := by
  by_cases hzero : m = 0
  · subst hzero
    exact hk
  · exact (Nat.log2_lt hzero).2 hm

lemma shiftToTargetExponent_eq (he : -1074 ≤ e) :
    shiftToTargetExponent .binary64 m e .exact
      = (exactMantissa m >>> (m.log2 - 52), e + (m.log2 - 52 : Nat)) := by
  have hshift : (Format.binary64.targetExponent (totalExponent m e) - e).toNat = m.log2 - 52 := by
    show (max ((m.log2 : Int) + 1 + e - 53) (-1074) - e).toNat = m.log2 - 52
    omega
  unfold shiftToTargetExponent shiftToExponent
  dsimp only
  rw [hshift]

/-- A `Moderate` value has an exponent of at most 971 after rounding. -/
lemma Moderate.exponent_le (h : Moderate m e) :
    e + (m.log2 - 52 : Nat)
      + ((exactMantissa m >>> (m.log2 - 52)).roundedMantissa.log2 - 52 : Nat) ≤ 971 := by
  obtain ⟨-, hle, hlt⟩ := h
  by_cases hshort : m.log2 ≤ 52
  · -- nothing is dropped
    rw [Nat.sub_eq_zero_of_le hshort]
    show e + (0 : Nat) + (m.log2 - 52 : Nat) ≤ 971
    omega
  · obtain ⟨j, hj⟩ : ∃ j, m.log2 = 52 + (j + 1) := ⟨m.log2 - 53, by omega⟩
    rw [hj, Nat.add_sub_cancel_left]
    have hrounded := roundedMantissa_shiftRight_le m j
    generalize (exactMantissa m >>> (j + 1)).roundedMantissa = rounded at hrounded ⊢
    generalize hn : (971 - e).toNat = n at hlt
    have hm : m ≠ 0 := by
      rintro rfl
      exact hshort (by decide)
    have hlow : 2 ^ 53 * 2 ^ j ≤ m := by
      rw [← Nat.pow_add]
      exact (Nat.le_log2 hm).1 (by omega)
    have hhigh : m < 2 ^ j * 2 ^ 54 := by
      rw [← Nat.pow_add]
      exact (Nat.log2_lt hm).1 (by omega)
    have hquotient : m / 2 ^ j < 2 ^ 54 := Nat.div_lt_of_lt_mul hhigh
    -- the exponent is in range before the carry
    have hexponent : j < n := (Nat.pow_lt_pow_iff_right (a := 2) (by decide)).1 (by omega)
    rcases Nat.lt_or_eq_of_le hexponent with hsmaller | hlargest
    · have hcarry : rounded.log2 < 54 := log2_lt_of_lt (by decide) (by omega)
      omega
    · -- with the largest exponent there is no carry
      have hdropped : m / 2 ^ j < 2 ^ 54 - 1 := by
        have hpower : 2 ^ n = 2 ^ j * 2 := hlargest ▸ Nat.pow_succ 2 j
        rw [Nat.div_lt_iff_lt_mul (Nat.two_pow_pos j)]
        omega
      have hcarry : rounded.log2 < 53 := log2_lt_of_lt (by decide) (by omega)
      omega

lemma Moderate.isFinite_roundWithAccuracy (h : Moderate m e) :
    (Float.Model.pack (roundWithAccuracy .binary64 s m e .exact)).unpack.isFinite = true := by
  have hexponent := h.exponent_le
  unfold roundWithAccuracy
  rw [shiftToTargetExponent_eq h.1]
  dsimp only
  rw [shiftToTargetExponent_eq (by have := h.1; omega)]
  dsimp only
  split
  · exact isFinite_pack_zero
  · exact isFinite_pack_finite hexponent _

lemma Moderate.isFinite_round (h : Moderate m e) :
    (Float.Model.pack (Float.Model.UnpackedFloat.round .binary64 s m e)).unpack.isFinite
      = true := by
  unfold Float.Model.UnpackedFloat.round decreaseExponent
  refine Moderate.isFinite_roundWithAccuracy (h.shiftLeft ?_)
  have htarget : -1074 ≤ Format.binary64.targetExponent (totalExponent m e) := Int.le_max_right _ _
  have := h.1
  omega

lemma isFinite_normalize {value : Int} (h : Moderate value.natAbs e) :
    (Float.Model.pack
      (Float.Model.UnpackedFloat.normalize .binary64 value e s)).unpack.isFinite = true := by
  unfold Float.Model.UnpackedFloat.normalize
  rcases Int.lt_trichotomy value 0 with hneg | hzero | hpos
  · rw [compare_lt_iff_lt.2 hneg]
    have hvalue : (-value).toNat = value.natAbs := by omega
    exact (hvalue ▸ h).isFinite_round
  · rw [compare_eq_iff_eq.2 hzero]
    exact isFinite_pack_zero
  · rw [compare_gt_iff_gt.2 hpos]
    have hvalue : value.toNat = value.natAbs := by omega
    exact (hvalue ▸ h).isFinite_round

/-! ## Adding a half -/

/-- A finite double plus a half is `Moderate` before rounding. -/
lemma moderate_add_half (hm : m < 2 ^ 53) (hle : -1074 ≤ e) (hge : e ≤ 971) :
    Moderate (m <<< (e - min e (-53)).toNat + 2 ^ 52 <<< (-53 - min e (-53)).toNat)
      (min e (-53)) := by
  obtain ⟨a, ha⟩ : ∃ a : Nat, min e (-53) = -53 - a := ⟨(-53 - min e (-53)).toNat, by omega⟩
  have hshift : (e - min e (-53)).toNat ≤ 1024 + a := by omega
  have hhalf : (-53 - min e (-53)).toNat = a := by omega
  have hunits : (971 - min e (-53)).toNat = 1024 + a := by omega
  refine ⟨by omega, by omega, ?_⟩
  rw [hhalf, hunits, Nat.shiftLeft_eq, Nat.shiftLeft_eq]
  have hfirst : m * 2 ^ (e - min e (-53)).toNat ≤ (2 ^ 53 - 1) * 2 ^ (1024 + a) :=
    Nat.mul_le_mul (Nat.le_sub_one_of_lt hm) (Nat.pow_le_pow_right (by decide) hshift)
  have hsecond : 2 * (2 ^ 52 * 2 ^ a) < 2 ^ (1024 + a) := calc
    2 * (2 ^ 52 * 2 ^ a) = 2 ^ 53 * 2 ^ a := by omega
    _ = 2 ^ (53 + a) := (Nat.pow_add 2 53 a).symm
    _ < 2 ^ (1024 + a) := Nat.pow_lt_pow_right (by decide) (by omega)
  omega

lemma natAbs_apply_add_le {m' : Nat} :
    (s.apply m + Sign.apply .positive m').natAbs ≤ m + m' := by
  cases s
  · show (-(m : Int) + m').natAbs ≤ m + m'
    omega
  · exact Int.natAbs_add_le m m'

/-- `x + 0.5` is finite iff `x` is. -/
lemma isFinite_add_half (x : Float) : (x + 0.5).isFinite = x.isFinite := by
  show (Float.Model.pack (.add .binary64 x.toModel.unpack
    (0.5 : Float).toModel.unpack)).unpack.isFinite = x.toModel.unpack.isFinite
  have hhalf : (0.5 : Float).toModel.unpack = .finite .positive (2 ^ 52) (-53) (by decide) := rfl
  rw [hhalf]
  rcases hx : x.toModel.unpack with s | _ | s | ⟨s, m, e, hm⟩
  · exact not_isFinite_pack_infinity
  · exact not_isFinite_pack_notANumber
  · exact isFinite_pack_finite (by decide) _
  · obtain ⟨hbits, hle, hge⟩ := bounds_of_unpack hx
    refine isFinite_normalize ((moderate_add_half hbits hle hge).mono ?_)
    exact natAbs_apply_add_le

/-- `floor?` succeeds iff the double is finite. -/
lemma exists_floor?_ok_iff {x : Float} :
    (∃ n, Exact.floor? x = .ok n) ↔ x.isFinite = true := by
  show (∃ n, Exact.floor? x = .ok n) ↔ x.toModel.unpack.isFinite = true
  unfold Exact.floor? unpacked
  cases x.toModel.unpack with
  | infinity s => exact ⟨nofun, nofun⟩
  | notANumber => exact ⟨nofun, nofun⟩
  | zero s => exact ⟨fun _ => rfl, fun _ => ⟨_, rfl⟩⟩
  | finite s m e hm => exact ⟨fun _ => rfl, fun _ => ⟨_, rfl⟩⟩

/-- `roundHalfUp` succeeds iff the double is neither infinite nor not a number. -/
theorem exists_roundHalfUp_ok_iff {x : Float} :
    (∃ n, roundHalfUp x = .ok n) ↔ ¬ (x.isNaN = true ∨ x.isInf = true) := by
  have hfinite : x.isFinite = true ↔ ¬ (x.isNaN = true ∨ x.isInf = true) := by
    show x.toModel.unpack.isFinite = true
      ↔ ¬ (x.toModel.unpack.isNaN = true ∨ x.toModel.unpack.isInf = true)
    cases x.toModel.unpack <;> simp [isFinite, isNaN, isInf]
  unfold roundHalfUp
  rw [exists_floor?_ok_iff, isFinite_add_half, hfinite]

end PolicyForecast
