import Mathlib.Algebra.Order.Field.Rat
import Mathlib.Algebra.Ring.Int.Parity
import Mathlib.Data.Int.Log
import Mathlib.Data.Rat.Floor
import Mathlib.Tactic.FieldSimp
import Mathlib.Tactic.Linarith
import Mathlib.Tactic.Positivity
import Mathlib.Tactic.Ring

/-!
# Rounding to a Number of Binary Digits

A floating point number of precision `p` is an integer of at most `p` binary digits times a
power of two. `round p` takes a rational number to a nearest one, ties to even. The exponents
have no bounds: this is the arithmetic of a format where nothing overflows and nothing is
subnormal.

## Main results

* `abs_round_sub_le`: the error is at most half a unit in the last place.
* `le_round`: rounding does not pass an integer.
* `representable_round`: a rounded number is a floating point number.
* `floor_round_div`: the quotient of a floating point number and an integer has the same
  integral part when it is rounded.
-/

namespace Rounding

/-! ### Integers -/

/-- The nearest integer, ties to even. -/
def nearest (q : ℚ) : ℤ :=
  if q - ⌊q⌋ < 1 / 2 then ⌊q⌋
  else if 1 / 2 < q - ⌊q⌋ then ⌊q⌋ + 1
  else if Even ⌊q⌋ then ⌊q⌋ else ⌊q⌋ + 1

theorem abs_nearest_sub_le (q : ℚ) : |nearest q - q| ≤ 1 / 2 := by
  have hfloor : (⌊q⌋ : ℚ) ≤ q := Int.floor_le q
  have hceil : q < ⌊q⌋ + 1 := Int.lt_floor_add_one q
  rw [abs_le, nearest]
  split_ifs
  all_goals push_cast
  all_goals constructor <;> linarith

@[simp]
theorem nearest_intCast (n : ℤ) : nearest n = n := by
  simp [nearest]

/-- The nearest integer is not beyond an integer. -/
theorem le_nearest {n : ℤ} {q : ℚ} (h : n ≤ q) : n ≤ nearest q := by
  have hle := (abs_le.mp (abs_nearest_sub_le q)).1
  have hlt : ((n - 1 : ℤ) : ℚ) < nearest q := by
    push_cast
    linarith
  exact Int.sub_one_lt_iff.mp (Int.cast_lt.mp hlt)

theorem nearest_le {n : ℤ} {q : ℚ} (h : q ≤ n) : nearest q ≤ n := by
  have hle := (abs_le.mp (abs_nearest_sub_le q)).2
  have hlt : (nearest q : ℚ) < (n + 1 : ℤ) := by
    push_cast
    linarith
  exact Int.lt_add_one_iff.mp (Int.cast_lt.mp hlt)

theorem nearest_neg (q : ℚ) : nearest (-q) = -nearest q := by
  by_cases hq : q = ⌊q⌋
  · rw [hq, ← Int.cast_neg, nearest_intCast, nearest_intCast]
  have hfloor : (⌊q⌋ : ℚ) < q := lt_of_le_of_ne (Int.floor_le q) (Ne.symm hq)
  have hceil : q < ⌊q⌋ + 1 := Int.lt_floor_add_one q
  have hneg : ⌊-q⌋ = -⌊q⌋ - 1 := by
    rw [Int.floor_eq_iff]
    push_cast
    constructor <;> linarith
  have heven : Even (-⌊q⌋ - 1) ↔ ¬Even ⌊q⌋ := by
    rw [Int.even_sub_one, even_neg]
  have hsum : -q - ((-⌊q⌋ - 1 : ℤ) : ℚ) = 1 - (q - ⌊q⌋) := by
    push_cast
    ring
  rw [nearest, nearest, hneg, hsum]
  generalize q - ⌊q⌋ = r
  rcases lt_trichotomy r (1 / 2) with h | h | h
  · have h1 : ¬1 - r < 1 / 2 := by linarith
    have h2 : 1 / 2 < 1 - r := by linarith
    rw [if_neg h1, if_pos h2, if_pos h]
    ring
  · have h1 : 1 - r = r := by linarith
    have h2 : ¬r < 1 / 2 := by linarith
    have h3 : ¬1 / 2 < r := by linarith
    rw [h1, if_neg h2, if_neg h3, if_neg h2, if_neg h3]
    by_cases hpar : Even ⌊q⌋
    · rw [if_pos hpar, if_neg (by rwa [heven, not_not])]
      ring
    · rw [if_neg hpar, if_pos (heven.mpr hpar)]
      ring
  · have h1 : 1 - r < 1 / 2 := by linarith
    have h2 : ¬r < 1 / 2 := by linarith
    rw [if_pos h1, if_neg h2, if_pos h]
    ring

/-! ### Floating point numbers -/

/-- The unit in the last place of the numbers of the magnitude of `q`. -/
def ulp (p : ℕ) (q : ℚ) : ℚ := 2 ^ (Int.log 2 |q| + 1 - p)

/-- A nearest floating point number of precision `p`, ties to even. -/
def round (p : ℕ) (q : ℚ) : ℚ := nearest (q / ulp p q) * ulp p q

/-- A floating point number of precision `p`. -/
def Representable (p : ℕ) (q : ℚ) : Prop := ∃ m : ℤ, q = m * ulp p q

variable {p : ℕ} {q : ℚ}

theorem ulp_pos (p : ℕ) (q : ℚ) : 0 < ulp p q := zpow_pos two_pos _

theorem round_neg (p : ℕ) (q : ℚ) : round p (-q) = -round p q := by
  have hulp : ulp p (-q) = ulp p q := by
    rw [ulp, ulp, abs_neg]
  rw [round, round, hulp, neg_div, nearest_neg, Int.cast_neg, neg_mul]

/-- **The error.** -/
theorem abs_round_sub_le (p : ℕ) (q : ℚ) : |round p q - q| ≤ ulp p q / 2 := by
  have hpos := ulp_pos p q
  have hq : q = q / ulp p q * ulp p q := (div_mul_cancel₀ q hpos.ne').symm
  calc |round p q - q| = |(nearest (q / ulp p q) - q / ulp p q) * ulp p q| := by
        rw [round, sub_mul, ← hq]
    _ = |nearest (q / ulp p q) - q / ulp p q| * ulp p q := by
        rw [abs_mul, abs_of_pos hpos]
    _ ≤ 1 / 2 * ulp p q := mul_le_mul_of_nonneg_right (abs_nearest_sub_le _) hpos.le
    _ = ulp p q / 2 := by ring

/-- The magnitude of a number is between two powers of two. -/
theorem zpow_le_lt (hq : 0 < q) :
    (2 : ℚ) ^ Int.log 2 |q| ≤ q ∧ q < 2 ^ (Int.log 2 |q| + 1) := by
  rw [abs_of_pos hq]
  exact ⟨Int.zpow_log_le_self Nat.one_lt_two hq, Int.lt_zpow_succ_log_self Nat.one_lt_two q⟩

theorem log_lt {n : ℕ} (hq : 0 < q) (hlt : q < 2 ^ n) : Int.log 2 |q| < n := by
  rw [abs_of_pos hq]
  refine (Int.lt_zpow_iff_log_lt Nat.one_lt_two hq).mp ?_
  exact_mod_cast hlt

/-- A bound of a number bounds its unit in the last place. -/
theorem ulp_le {n : ℕ} (hq : 0 < q) (hlt : q < 2 ^ n) : ulp p q ≤ 2 ^ ((n : ℤ) - p) := by
  have hlog := log_lt hq hlt
  exact zpow_le_zpow_right₀ one_le_two (by omega)

/-- Numbers that are small enough have all digits before the binary point. -/
theorem exists_ulp_eq (hq : 0 < q) (hlt : q < 2 ^ p) : ∃ k : ℕ, ulp p q = (2 ^ k)⁻¹ := by
  have hlog := log_lt hq hlt
  obtain ⟨k, hk⟩ := Int.eq_ofNat_of_zero_le (a := (p : ℤ) - (Int.log 2 |q| + 1)) (by omega)
  refine ⟨k, ?_⟩
  rw [ulp, ← zpow_natCast, ← zpow_neg]
  congr 1
  omega

/-- **Integers.** Rounding does not pass an integer. -/
theorem le_round {n : ℤ} (hq : 0 < q) (hlt : q < 2 ^ p) (hn : n ≤ q) : n ≤ round p q := by
  obtain ⟨k, hk⟩ := exists_ulp_eq hq hlt
  have hnearest : n * 2 ^ k ≤ nearest (q / ulp p q) := by
    refine le_nearest ?_
    rw [hk, div_inv_eq_mul]
    push_cast
    exact mul_le_mul_of_nonneg_right hn (by positivity)
  calc (n : ℚ) = ((n * 2 ^ k : ℤ) : ℚ) * ulp p q := by
        rw [hk]
        push_cast
        field_simp
    _ ≤ round p q := mul_le_mul_of_nonneg_right (Int.cast_le.mpr hnearest) (ulp_pos p q).le

/-- A number keeps its integral part when the next integer is further than half a unit. -/
theorem floor_round (hq : 0 < q) (hlt : q < 2 ^ p) (h : q + ulp p q / 2 < ⌊q⌋ + 1) :
    ⌊round p q⌋ = ⌊q⌋ := by
  rw [Int.floor_eq_iff]
  have herror := (abs_le.mp (abs_round_sub_le p q)).2
  exact ⟨le_round hq hlt (Int.floor_le q), by linarith⟩

/-- A rounded number has the magnitude of the number, or is the next power of two. -/
theorem round_mem_zpow (hp : 0 < p) (hq : 0 < q) :
    (2 : ℚ) ^ Int.log 2 |q| ≤ round p q ∧ round p q ≤ 2 ^ (Int.log 2 |q| + 1) := by
  obtain ⟨hle, hlt⟩ := zpow_le_lt hq
  have hscale : ((2 ^ (p - 1) : ℤ) : ℚ) * ulp p q = 2 ^ Int.log 2 |q| := by
    push_cast
    rw [ulp, ← zpow_natCast, ← zpow_add₀ two_ne_zero]
    congr 1
    omega
  have hscale' : ((2 ^ p : ℤ) : ℚ) * ulp p q = 2 ^ (Int.log 2 |q| + 1) := by
    push_cast
    rw [ulp, ← zpow_natCast, ← zpow_add₀ two_ne_zero]
    congr 1
    omega
  constructor
  · rw [← hscale]
    refine mul_le_mul_of_nonneg_right (Int.cast_le.mpr (le_nearest ?_)) (ulp_pos p q).le
    rw [le_div_iff₀ (ulp_pos p q), hscale]
    exact hle
  · rw [← hscale']
    refine mul_le_mul_of_nonneg_right (Int.cast_le.mpr (nearest_le ?_)) (ulp_pos p q).le
    rw [div_le_iff₀ (ulp_pos p q), hscale']
    exact hlt.le

theorem round_pos (hp : 0 < p) (hq : 0 < q) : 0 < round p q :=
  lt_of_lt_of_le (zpow_pos two_pos _) (round_mem_zpow hp hq).1

/-- **Rounding.** A rounded number is a floating point number. -/
theorem representable_round (hp : 0 < p) (hq : 0 < q) : Representable p (round p q) := by
  obtain ⟨hge, hle⟩ := round_mem_zpow hp hq
  have hpos := round_pos hp hq
  rcases hle.lt_or_eq with hlt | heq
  · have hlog : Int.log 2 |round p q| = Int.log 2 |q| := by
      rw [abs_of_pos hpos]
      refine le_antisymm (Int.lt_add_one_iff.mp ?_) ?_
      · exact (Int.lt_zpow_iff_log_lt Nat.one_lt_two hpos).mp (by exact_mod_cast hlt)
      · exact (Int.zpow_le_iff_le_log Nat.one_lt_two hpos).mp (by exact_mod_cast hge)
    have hulp : ulp p (round p q) = ulp p q := by
      rw [ulp, ulp, hlog]
    exact ⟨nearest (q / ulp p q), by rw [hulp, round]⟩
  · have hlog : Int.log 2 |(2 : ℚ) ^ (Int.log 2 |q| + 1)| = Int.log 2 |q| + 1 := by
      rw [abs_of_pos (zpow_pos two_pos _)]
      exact_mod_cast Int.log_zpow (R := ℚ) Nat.one_lt_two (Int.log 2 |q| + 1)
    refine ⟨2 ^ (p - 1), ?_⟩
    rw [ulp, heq, hlog]
    push_cast
    rw [← zpow_natCast, ← zpow_add₀ two_ne_zero]
    congr 1
    omega

/-- **Quotients.** The quotient of a floating point number and an integer is rounded up to an
integer only when it is that integer. -/
theorem floor_round_div {x : ℚ} {d : ℕ} (hx : Representable p x) (hpos : 0 < x)
    (hlt : x < 2 ^ p) (hd : 0 < d) : ⌊round p (x / d)⌋ = ⌊x / d⌋ := by
  have hd' : (1 : ℚ) ≤ d := by exact_mod_cast hd
  have hz : 0 < x / d := by positivity
  have hzlt : x / d < 2 ^ p := lt_of_le_of_lt (div_le_self hpos.le hd') hlt
  refine floor_round hz hzlt ?_
  obtain ⟨m, hm⟩ := hx
  obtain ⟨k, hk⟩ := exists_ulp_eq hpos hlt
  -- The next integer times `d` is another floating point number, and it is a unit away.
  have hgap : x + ulp p x ≤ d * (⌊x / d⌋ + 1) := by
    have hnext : x < d * (⌊x / d⌋ + 1) := by
      rw [mul_comm, ← div_lt_iff₀ (by positivity)]
      exact Int.lt_floor_add_one _
    have hmul : (m : ℚ) < (d * (⌊x / d⌋ + 1) * 2 ^ k : ℤ) := by
      rw [hm, hk] at hnext
      push_cast
      have := mul_lt_mul_of_pos_right hnext (show (0 : ℚ) < 2 ^ k by positivity)
      rw [mul_assoc, inv_mul_cancel₀ (by positivity), mul_one] at this
      rwa [← hk, ← hm] at this
    have hle : ((m + 1 : ℤ) : ℚ) ≤ (d * (⌊x / d⌋ + 1) * 2 ^ k : ℤ) :=
      Int.cast_le.mpr (Int.cast_lt.mp hmul)
    calc x + ulp p x = ((m + 1 : ℤ) : ℚ) * ulp p x := by
          push_cast
          linarith
      _ ≤ (d * (⌊x / d⌋ + 1) * 2 ^ k : ℤ) * ulp p x :=
          mul_le_mul_of_nonneg_right hle (ulp_pos p x).le
      _ = d * (⌊x / d⌋ + 1) := by
          rw [hk]
          push_cast
          field_simp
  -- The unit of the quotient is less than two units of `x`, divided by `d`.
  have hunit : d * ulp p (x / d) < 2 * ulp p x := by
    have hle : d * (2 : ℚ) ^ Int.log 2 |x / d| ≤ x := by
      have := mul_le_mul_of_nonneg_left (zpow_le_lt hz).1 (show (0 : ℚ) ≤ d by positivity)
      rwa [mul_div_cancel₀ _ (by positivity)] at this
    have hsplit (q : ℚ) : ulp p q = 2 ^ Int.log 2 |q| * 2 ^ (1 - (p : ℤ)) := by
      rw [ulp, ← zpow_add₀ two_ne_zero, add_sub_assoc]
    have hx := lt_of_le_of_lt hle (zpow_le_lt hpos).2
    rw [zpow_add_one₀ two_ne_zero] at hx
    rw [hsplit, hsplit]
    have := mul_lt_mul_of_pos_right hx (zpow_pos (two_pos (α := ℚ)) (1 - (p : ℤ)))
    linarith
  have hle : x / d + ulp p x / d ≤ ⌊x / d⌋ + 1 := by
    rw [← add_div, div_le_iff₀ (by positivity), mul_comm]
    exact hgap
  have hhalf : ulp p (x / d) / 2 < ulp p x / d := by
    rw [div_lt_div_iff₀ two_pos (by positivity)]
    linarith
  linarith

end Rounding
