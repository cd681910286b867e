import Mathlib

/-! # Rounding to binary64

An IEEE 754 binary64 division of two doubles returns their exact quotient rounded to the nearest
double, ties to the even significand. The doubles in the binade `[2 ^ e, 2 ^ (e + 1))` are the
multiples of `2 ^ (e - 52)` (53 significand bits), and below `2 ^ (-1022)` the subnormals are the
multiples of `2 ^ (-1074)`; `roundBinary64 x` is the multiple of that quantum nearest to `x`, ties
to the even one. Overflow is outside the model: a quotient that rounds past the largest finite
double has no value in `ℚ`.

Rounding to an integer is off by at most `1 / 2` (`abs_rne_sub_le`), and `binade` places a rational
between two powers of two (`binade_spec`). Together they give the unit roundoff: in the normal
range the rounded value is within `|x| / 2 ^ 53` of `x` (`abs_roundBinary64_sub_le`).
-/

namespace ChannelSim.Lib
set_option autoImplicit false

/-- `n / d` rounded to the nearest natural number, ties to the even one. -/
def rne (n d : ℕ) : ℕ :=
  if 2 * (n % d) < d then n / d
  else if d < 2 * (n % d) then n / d + 1
  else if n / d % 2 = 0 then n / d else n / d + 1

/-- `⌊log₂ (n / d)⌋` for positive `n` and `d`, from the bit lengths of `n` and `d`. -/
def binade (n d : ℕ) : ℤ :=
  if n * 2 ^ d.log2 < d * 2 ^ n.log2 then (n.log2 : ℤ) - d.log2 - 1 else (n.log2 : ℤ) - d.log2

/-- `n / d * 2 ^ t` rounded to the nearest natural number, ties to the even one. -/
def rneScaled (n d : ℕ) : ℤ → ℕ
  | .ofNat t => rne (n * 2 ^ t) d
  | .negSucc t => rne n (d * 2 ^ (t + 1))

/-- The weight of the last significand bit of the doubles around `n / d`. -/
def quantum (n d : ℕ) : ℤ := max (binade n d) (-1022) - 52

/-- The double nearest to `x`, ties to the even significand. -/
def roundBinary64 (x : ℚ) : ℚ :=
  let q := quantum x.num.natAbs x.den
  let m : ℚ := rneScaled x.num.natAbs x.den (-q) * 2 ^ q
  if x < 0 then -m else m

/-- `0.1` is not a double: the nearest one is a little above it. -/
example : roundBinary64 (1 / 10) = 3602879701896397 / 2 ^ 55 := by decide +kernel

/-! ## Rounding to an integer -/

theorem abs_rne_sub_le (n : ℕ) {d : ℕ} (hd : 0 < d) : |(rne n d : ℚ) - n / d| ≤ 1 / 2 := by
  have hdq : (0 : ℚ) < d := by exact_mod_cast hd
  -- `n / d` is the quotient plus the fraction `n % d / d`
  have hsplit : (n : ℚ) / d = (n / d : ℕ) + (n % d : ℕ) / d := by
    rw [div_eq_iff hdq.ne', add_mul, div_mul_cancel₀ _ hdq.ne']
    exact_mod_cast (Nat.div_add_mod' n d).symm
  have hlt : n % d < d := Nat.mod_lt n hd
  rw [hsplit]
  unfold rne
  generalize n / d = q
  generalize n % d = r at hlt ⊢
  have hfrac : (0 : ℚ) ≤ r / d := by positivity
  split_ifs with hlow hhigh
  · -- the fraction is below one half: round down
    have h : (r : ℚ) / d < 1 / 2 := by
      rw [div_lt_iff₀ hdq]
      have : (2 * r : ℚ) < d := by exact_mod_cast hlow
      linarith
    rw [abs_le]
    constructor <;> linarith
  · -- the fraction is above one half: round up
    have h : 1 / 2 < (r : ℚ) / d := by
      rw [lt_div_iff₀ hdq]
      have : (d : ℚ) < 2 * r := by exact_mod_cast hhigh
      linarith
    have h1 : (r : ℚ) / d < 1 := by
      rw [div_lt_one hdq]
      exact_mod_cast hlt
    push_cast
    rw [abs_le]
    constructor <;> linarith
  all_goals
    -- a tie: either neighbour is one half away
    have htie : (r : ℚ) / d = 1 / 2 := by
      rw [div_eq_iff hdq.ne']
      have : (2 * r : ℚ) = d := by exact_mod_cast (by omega : 2 * r = d)
      linarith
    push_cast
    rw [htie]
    norm_num

theorem abs_rneScaled_sub_le (n : ℕ) {d : ℕ} (hd : 0 < d) (t : ℤ) :
    |(rneScaled n d t : ℚ) - n / d * 2 ^ t| ≤ 1 / 2 := by
  cases t with
  | ofNat t =>
    have h := abs_rne_sub_le (n * 2 ^ t) hd
    rw [Int.ofNat_eq_natCast, zpow_natCast, div_mul_eq_mul_div]
    push_cast at h
    exact h
  | negSucc t =>
    have h := abs_rne_sub_le n (Nat.mul_pos hd (Nat.two_pow_pos (t + 1)))
    rw [zpow_negSucc, ← div_eq_mul_inv, div_div]
    push_cast at h
    exact h

/-! ## Binades -/

theorem binade_spec {n d : ℕ} (hn : 0 < n) (hd : 0 < d) :
    (2 : ℚ) ^ binade n d ≤ n / d ∧ (n : ℚ) / d < 2 ^ (binade n d + 1) := by
  have hna : 2 ^ n.log2 ≤ n := Nat.log2_self_le hn.ne'
  have hnb : n < 2 ^ (n.log2 + 1) := Nat.lt_log2_self
  have hda : 2 ^ d.log2 ≤ d := Nat.log2_self_le hd.ne'
  have hdb : d < 2 ^ (d.log2 + 1) := Nat.lt_log2_self
  have hdq : (0 : ℚ) < d := by exact_mod_cast hd
  -- every power here is a quotient of two natural powers of two
  have hpow : ∀ a b : ℕ, (2 : ℚ) ^ ((a : ℤ) - b) = 2 ^ a / 2 ^ b := fun a b => by
    rw [zpow_sub₀ two_ne_zero, zpow_natCast, zpow_natCast]
  unfold binade
  split_ifs with hlt
  · rw [sub_add_cancel, show (n.log2 : ℤ) - d.log2 - 1 = (n.log2 : ℤ) - (d.log2 + 1 : ℕ) by
      push_cast; ring, hpow, hpow, div_le_div_iff₀ (by positivity) hdq,
      div_lt_div_iff₀ hdq (by positivity)]
    constructor
    · have : 2 ^ n.log2 * d ≤ n * 2 ^ (d.log2 + 1) := Nat.mul_le_mul hna hdb.le
      exact_mod_cast this
    · exact_mod_cast (by rwa [Nat.mul_comm (2 ^ n.log2) d] : n * 2 ^ d.log2 < 2 ^ n.log2 * d)
  · rw [hpow, show (n.log2 : ℤ) - d.log2 + 1 = ((n.log2 + 1 : ℕ) : ℤ) - d.log2 by push_cast; ring,
      hpow, div_le_div_iff₀ (by positivity) hdq, div_lt_div_iff₀ hdq (by positivity)]
    constructor
    · exact_mod_cast (by rw [Nat.mul_comm]; omega : 2 ^ n.log2 * d ≤ n * 2 ^ d.log2)
    · have : n * 2 ^ d.log2 < 2 ^ (n.log2 + 1) * d :=
        Nat.mul_lt_mul_of_lt_of_le hnb hda hd
      exact_mod_cast this

/-! ## The unit roundoff -/

theorem abs_eq_natAbs_div_den (x : ℚ) : |x| = (x.num.natAbs : ℚ) / x.den := by
  conv_lhs => rw [← Rat.num_div_den x]
  rw [abs_div, Nat.abs_cast, Nat.cast_natAbs, Int.cast_abs]

theorem abs_rneScaled_mul_sub_le (n : ℕ) {d : ℕ} (hd : 0 < d) (q : ℤ) :
    |(rneScaled n d (-q) : ℚ) * 2 ^ q - n / d| ≤ 1 / 2 * 2 ^ q := by
  have hq : (0 : ℚ) < 2 ^ q := zpow_pos two_pos q
  have hsplit : (rneScaled n d (-q) : ℚ) * 2 ^ q - n / d =
      ((rneScaled n d (-q) : ℚ) - n / d * 2 ^ (-q)) * 2 ^ q := by
    rw [sub_mul, mul_assoc, ← zpow_add₀ two_ne_zero, neg_add_cancel, zpow_zero, mul_one]
  rw [hsplit, abs_mul, abs_of_pos hq]
  exact mul_le_mul_of_nonneg_right (abs_rneScaled_sub_le n hd (-q)) hq.le

/-- In the normal range the double nearest to `x` is within `|x| / 2 ^ 53` of it. -/
theorem abs_roundBinary64_sub_le {x : ℚ} (hx : (2 : ℚ) ^ (-1022 : ℤ) ≤ |x|) :
    |roundBinary64 x - x| ≤ |x| / 2 ^ 53 := by
  have hxabs := abs_eq_natAbs_div_den x
  have hn : 0 < x.num.natAbs := by
    rw [Int.natAbs_pos, Rat.num_ne_zero]
    rintro rfl
    rw [abs_zero] at hx
    exact absurd hx (not_le.mpr (zpow_pos two_pos _))
  obtain ⟨hlo, hhi⟩ := binade_spec hn x.den_pos
  rw [← hxabs] at hlo hhi
  -- in the normal range the quantum is `2 ^ (e - 52)`, `e` the binade of `|x|`
  have he : -1022 ≤ binade x.num.natAbs x.den := by
    have := (zpow_lt_zpow_iff_right₀ one_lt_two).mp (hx.trans_lt hhi)
    omega
  have hq : quantum x.num.natAbs x.den = binade x.num.natAbs x.den - 52 := by
    rw [quantum, max_eq_left he]
  have hhalf : (1 / 2 : ℚ) * 2 ^ (binade x.num.natAbs x.den - 52) =
      2 ^ binade x.num.natAbs x.den / 2 ^ 53 := by
    rw [zpow_sub₀ two_ne_zero]
    norm_num
    ring
  have hmag := abs_rneScaled_mul_sub_le x.num.natAbs x.den_pos (quantum x.num.natAbs x.den)
  rw [← hxabs, hq, hhalf] at hmag
  have hbound := hmag.trans (div_le_div_of_nonneg_right hlo (by positivity))
  -- the sign of `x` goes on the rounded magnitude
  unfold roundBinary64
  dsimp only
  rw [hq]
  split_ifs with hneg
  · rw [abs_of_neg hneg] at hbound ⊢
    rw [show ∀ a : ℚ, -a - x = -(a - -x) from fun a => by ring, abs_neg]
    exact hbound
  · rw [abs_of_nonneg (not_lt.mp hneg)] at hbound ⊢
    exact hbound

@[simp] theorem roundBinary64_zero : roundBinary64 0 = 0 := by decide +kernel

theorem roundBinary64_nonneg {x : ℚ} (hx : 0 ≤ x) : 0 ≤ roundBinary64 x := by
  unfold roundBinary64
  rw [if_neg (not_lt.mpr hx)]
  positivity

end ChannelSim.Lib

