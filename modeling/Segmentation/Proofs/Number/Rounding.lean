import Mathlib.Algebra.Order.Field.Power
import Mathlib.Algebra.Order.Floor.Semifield
import Mathlib.Tactic.FieldSimp
import Mathlib.Tactic.GCongr
import Mathlib.Tactic.Linarith
import Mathlib.Tactic.NormNum
import Mathlib.Tactic.Positivity
import Segmentation.Number.Binary64.Shortest

/-!
# Rounding to floating-point numbers

* `Binary64.scale_div`, `Binary64.roundDiv_eq_of_near`: the integer arithmetic as arithmetic of rationals.
* `Binary64.gridExponent_onGrid`: a quotient is rounded on the grid where it takes 53 binary digits.
* `Binary64.Interval.Contains`: the magnitudes that lie nearer to a number than to any other.
* `Binary64.ofRatio_of_contains`: every quotient in the interval of a number rounds to that number.
-/

namespace Segmentation.Binary64

/-! ## Quotients -/

theorem scale_den_pos {num den : Nat} (e : Int) (hden : 0 < den) : 0 < (scale num den e).2 := by
  unfold scale
  split
  · exact Nat.mul_pos hden (Nat.pow_pos (by decide))
  · exact hden

theorem scale_div (num den : Nat) (e : Int) :
    ((scale num den e).1 : ℚ) / (scale num den e).2 = num / den / 2 ^ e := by
  unfold scale
  split
  · rename_i he
    obtain ⟨k, rfl⟩ := Int.eq_ofNat_of_zero_le he
    simp [div_div]
  · rename_i he
    obtain ⟨k, rfl⟩ := Int.exists_eq_neg_ofNat (show e ≤ 0 by omega)
    simp only [neg_neg, Int.toNat_natCast, Nat.pow_eq, Nat.cast_mul, Nat.cast_pow, Nat.cast_ofNat,
      zpow_neg, zpow_natCast, div_inv_eq_mul]
    rw [mul_div_right_comm]

theorem div_lt_iff_cast_lt (n d m : Nat) (hd : 0 < d) : n / d < m ↔ (n : ℚ) / d < m := by
  rw [Nat.div_lt_iff_lt_mul hd, div_lt_iff₀ (by exact_mod_cast hd)]
  exact_mod_cast Iff.rfl

/-- A quotient is rounded to `m` if it is at most half away from it, and less than that for odd `m`. -/
theorem roundDiv_eq {n d m : Nat} (hd : 0 < d) (hlow : 2 * (m * d) ≤ 2 * n + d)
    (hhigh : 2 * n ≤ 2 * (m * d) + d)
    (hodd : m % 2 = 1 → 2 * (m * d) < 2 * n + d ∧ 2 * n < 2 * (m * d) + d) : roundDiv n d = m := by
  have hn := Nat.div_add_mod n d
  have hr := Nat.mod_lt n hd
  rw [Nat.mul_comm m d] at hlow hhigh hodd
  have hcases : m = n / d ∨ m = n / d + 1 := by
    by_contra hne
    rcases Nat.lt_or_gt_of_ne (show m ≠ n / d from fun h => hne (.inl h)) with hlt | hgt
    · have := Nat.mul_le_mul_left d (show m + 1 ≤ n / d from hlt)
      rw [Nat.mul_add] at this
      omega
    · have := Nat.mul_le_mul_left d (show n / d + 2 ≤ m by omega)
      rw [Nat.mul_add] at this
      omega
  unfold roundDiv
  dsimp only
  rcases hcases with h | h
  · rw [h] at hhigh hodd
    split_ifs <;> omega
  · rw [h, Nat.mul_add] at hlow hodd
    split_ifs <;> omega

theorem roundDiv_eq_of_near {n d m : Nat} (hd : 0 < d) (hlow : (m : ℚ) - 1 / 2 ≤ n / d)
    (hhigh : (n : ℚ) / d ≤ m + 1 / 2)
    (hodd : m % 2 = 1 → (m : ℚ) - 1 / 2 < n / d ∧ (n : ℚ) / d < m + 1 / 2) : roundDiv n d = m := by
  have hd' : (0 : ℚ) < d := by exact_mod_cast hd
  rw [le_div_iff₀ hd'] at hlow
  rw [div_le_iff₀ hd'] at hhigh
  rw [lt_div_iff₀ hd', div_lt_iff₀ hd'] at hodd
  apply roundDiv_eq hd
  · have : (2 * (m * d) : ℚ) ≤ 2 * n + d := by linarith
    exact_mod_cast this
  · have : (2 * n : ℚ) ≤ 2 * (m * d) + d := by linarith
    exact_mod_cast this
  · intro h
    obtain ⟨hlow', hhigh'⟩ := hodd h
    have h1 : (2 * (m * d) : ℚ) < 2 * n + d := by linarith
    have h2 : (2 * n : ℚ) < 2 * (m * d) + d := by linarith
    exact ⟨by exact_mod_cast h1, by exact_mod_cast h2⟩

/-! ## Binary grids -/

theorem log2_bounds {num den : Nat} (hnum : 0 < num) (hden : 0 < den) :
    (2 : ℚ) ^ ((num.log2 : Int) - den.log2 - 1) < num / den ∧
      (num : ℚ) / den < 2 ^ ((num.log2 : Int) - den.log2 + 1) := by
  have hd : (0 : ℚ) < den := by exact_mod_cast hden
  have hnlow : (2 : ℚ) ^ num.log2 ≤ num := by exact_mod_cast Nat.log2_self_le hnum.ne'
  have hnhigh : (num : ℚ) < 2 ^ (num.log2 + 1) := by exact_mod_cast Nat.lt_log2_self
  have hdlow : (2 : ℚ) ^ den.log2 ≤ den := by exact_mod_cast Nat.log2_self_le hden.ne'
  have hdhigh : (den : ℚ) < 2 ^ (den.log2 + 1) := by exact_mod_cast Nat.lt_log2_self
  constructor
  · rw [lt_div_iff₀ hd]
    calc (2 : ℚ) ^ ((num.log2 : Int) - den.log2 - 1) * den
        < 2 ^ ((num.log2 : Int) - den.log2 - 1) * 2 ^ (den.log2 + 1) := by gcongr
      _ = 2 ^ num.log2 := by
          rw [← zpow_natCast, ← zpow_natCast, ← zpow_add₀ (by norm_num)]
          congr 1; push_cast; omega
      _ ≤ num := hnlow
  · rw [div_lt_iff₀ hd]
    calc (num : ℚ) < 2 ^ (num.log2 + 1) := hnhigh
      _ = 2 ^ ((num.log2 : Int) - den.log2 + 1) * 2 ^ den.log2 := by
          rw [← zpow_natCast, ← zpow_natCast, ← zpow_add₀ (by norm_num)]
          congr 1; push_cast; omega
      _ ≤ 2 ^ ((num.log2 : Int) - den.log2 + 1) * den := by gcongr

theorem two_zpow_le {a b : Int} : (2 : ℚ) ^ a ≤ 2 ^ b ↔ a ≤ b :=
  zpow_le_zpow_iff_right₀ (by norm_num)

theorem two_zpow_lt {a b : Int} : (2 : ℚ) ^ a < 2 ^ b ↔ a < b :=
  zpow_lt_zpow_iff_right₀ (by norm_num)

/-- `e` is the exponent of the grid on which `q` takes 53 binary digits, or the least one. -/
def OnGrid (q : ℚ) (e : Int) : Prop :=
  -1074 ≤ e ∧ q < 2 ^ (53 + e) ∧ (2 ^ (52 + e) ≤ q ∨ e = -1074)

theorem OnGrid.unique {q : ℚ} {e e' : Int} (h : OnGrid q e) (h' : OnGrid q e') : e = e' := by
  obtain ⟨hmin, hup, hlow⟩ := h
  obtain ⟨hmin', hup', hlow'⟩ := h'
  have hle : e ≤ e' := by
    rcases hlow with hlow | rfl
    · have := two_zpow_lt.1 (hlow.trans_lt hup')
      omega
    · exact hmin'
  have hge : e' ≤ e := by
    rcases hlow' with hlow' | rfl
    · have := two_zpow_lt.1 (hlow'.trans_lt hup)
      omega
    · exact hmin
  omega

theorem scale_div_lt_iff {num den : Nat} (hden : 0 < den) (e : Int) :
    (scale num den e).1 / (scale num den e).2 < Nat.pow 2 53 ↔ (num : ℚ) / den < 2 ^ (53 + e) := by
  rw [div_lt_iff_cast_lt _ _ _ (scale_den_pos e hden), scale_div,
    div_lt_iff₀ (by positivity : (0 : ℚ) < 2 ^ e), zpow_add₀ (by norm_num)]
  norm_num

theorem gridExponent_onGrid {num den : Nat} (hnum : 0 < num) (hden : 0 < den) :
    OnGrid ((num : ℚ) / den) (gridExponent num den) := by
  obtain ⟨hlow, hhigh⟩ := log2_bounds hnum hden
  unfold gridExponent
  dsimp only
  set e : Int := (num.log2 : Int) - den.log2 - 53 with he
  rw [show (num.log2 : Int) - den.log2 - 1 = 52 + e by omega] at hlow
  rw [show (num.log2 : Int) - den.log2 + 1 = 53 + (e + 1) by omega] at hhigh
  by_cases hfit : (num : ℚ) / den < 2 ^ (53 + e)
  · rw [if_pos ((scale_div_lt_iff hden e).2 hfit)]
    refine ⟨le_max_left _ _, hfit.trans_le (two_zpow_le.2 (by omega)), ?_⟩
    rcases le_total (-1074) e with h | h
    · left
      rw [max_eq_right h]
      exact hlow.le
    · exact .inr (max_eq_left h)
  · rw [if_neg (fun h => hfit ((scale_div_lt_iff hden e).1 h))]
    refine ⟨le_max_left _ _, hhigh.trans_le (two_zpow_le.2 (by omega)), ?_⟩
    rcases le_total (-1074) (e + 1) with h | h
    · left
      rw [max_eq_right h, show 52 + (e + 1) = 53 + e by omega]
      exact not_lt.1 hfit
    · exact .inr (max_eq_left h)

/-! ## Intervals -/

/-- The magnitude `q` lies in the interval, whose unit is `2 ^ (exp - 2)`. -/
def Interval.Contains (i : Interval) (exp : Int) (q : ℚ) : Prop :=
  if i.closed then (i.low : ℚ) ≤ q / 2 ^ (exp - 2) ∧ q / 2 ^ (exp - 2) ≤ i.high
  else (i.low : ℚ) < q / 2 ^ (exp - 2) ∧ q / 2 ^ (exp - 2) < i.high

theorem quarter_units (q : ℚ) (exp : Int) : q / 2 ^ (exp - 2) = 4 * (q / 2 ^ exp) := by
  rw [zpow_sub₀ (by norm_num)]
  field_simp
  norm_num

theorem interval_low {mant : Nat} (hmant : mant ≠ 0) (exp : Int) :
    ((interval mant exp).low : ℚ) =
      if mant = Nat.pow 2 52 ∧ -1074 < exp then 4 * (mant : ℚ) - 1 else 4 * (mant : ℚ) - 2 := by
  unfold interval
  split_ifs
  · rw [Nat.cast_sub (by omega)]
    push_cast
    rfl
  · rw [Nat.cast_sub (by omega)]
    push_cast
    rfl

theorem interval_high (mant : Nat) (exp : Int) :
    ((interval mant exp).high : ℚ) = 4 * mant + 2 := by
  simp [interval]

theorem Interval.Contains.near {mant : Nat} {exp : Int} {q : ℚ} (hmant : mant ≠ 0)
    (hq : (interval mant exp).Contains exp q) :
    (mant : ℚ) - 1 / 2 ≤ q / 2 ^ exp ∧ q / 2 ^ exp ≤ mant + 1 / 2 ∧
      (mant % 2 = 1 → (mant : ℚ) - 1 / 2 < q / 2 ^ exp ∧ q / 2 ^ exp < mant + 1 / 2) := by
  have hlow : (4 * mant - 2 : ℚ) ≤ (interval mant exp).low := by
    rw [interval_low hmant]
    split_ifs <;> linarith
  have hhigh := interval_high mant exp
  have hclosed : (interval mant exp).closed = decide (mant % 2 = 0) := rfl
  unfold Interval.Contains at hq
  rw [quarter_units, hclosed] at hq
  split_ifs at hq with hpar
  · obtain ⟨h1, h2⟩ := hq
    refine ⟨by linarith, by linarith, fun hodd => ?_⟩
    simp [hodd] at hpar
  · obtain ⟨h1, h2⟩ := hq
    exact ⟨by linarith, by linarith, fun _ => ⟨by linarith, by linarith⟩⟩

theorem Interval.Contains.aboveHalf {exp : Int} {q : ℚ} (hexp : -1074 < exp)
    (hq : (interval (2 ^ 52) exp).Contains exp q) : (2 : ℚ) ^ 52 - 1 / 4 ≤ q / 2 ^ exp := by
  have hlow := interval_low (show 2 ^ 52 ≠ 0 by norm_num) exp
  rw [if_pos ⟨rfl, hexp⟩] at hlow
  unfold Interval.Contains at hq
  rw [quarter_units] at hq
  push_cast at hlow
  split_ifs at hq <;> linarith [hq.1]

/-! ## Rounding a magnitude in an interval -/

section OfRatio

variable {num den mant : Nat} {exp : Int} (negative : Bool)

/-- A quotient is placed on the grid of a number that it is near to. -/
theorem ofRatio_of_near (hden : 0 < den) (hmant : mant ≠ 0) (hcanon : Canonical mant exp)
    (hgrid : gridExponent num den = exp) (hlow : (mant : ℚ) - 1 / 2 ≤ num / den / 2 ^ exp)
    (hhigh : (num : ℚ) / den / 2 ^ exp ≤ mant + 1 / 2)
    (hodd : mant % 2 = 1 →
      (mant : ℚ) - 1 / 2 < num / den / 2 ^ exp ∧ (num : ℚ) / den / 2 ^ exp < mant + 1 / 2) :
    ofRatio negative num den = .finite negative mant exp hcanon := by
  have hdiv := scale_div num den exp
  have hround : roundDiv (scale num den exp).1 (scale num den exp).2 = mant :=
    roundDiv_eq_of_near (scale_den_pos exp hden) (by rwa [hdiv]) (by rwa [hdiv]) (by rwa [hdiv])
  have hlt := hcanon.1
  unfold ofRatio
  simp only [hgrid, hround]
  rw [if_neg (by omega), pack, if_neg hmant, dif_pos hcanon]

/-- A quotient just below a power of two lies on a finer grid than the power and is rounded up. -/
theorem ofRatio_below_power (hden : 0 < den) (hcanon : Canonical (2 ^ 52) exp)
    (hgrid : gridExponent num den = exp - 1) (hlow : (2 : ℚ) ^ 52 - 1 / 4 ≤ num / den / 2 ^ exp)
    (hhigh : (num : ℚ) / den / 2 ^ exp < 2 ^ 52) :
    ofRatio negative num den = .finite negative (2 ^ 52) exp hcanon := by
  have htwice : (num : ℚ) / den / 2 ^ (exp - 1) = 2 * ((num : ℚ) / den / 2 ^ exp) := by
    rw [zpow_sub₀ (by norm_num)]
    field_simp
  have hdiv := scale_div num den (exp - 1)
  have hround : roundDiv (scale num den (exp - 1)).1 (scale num den (exp - 1)).2 = 2 ^ 53 := by
    refine roundDiv_eq_of_near (scale_den_pos _ hden) ?_ ?_ (by norm_num)
    · rw [hdiv, htwice]
      push_cast
      norm_num at hlow ⊢
      linarith
    · rw [hdiv, htwice]
      push_cast
      norm_num at hhigh ⊢
      linarith
  unfold ofRatio
  simp only [hgrid, hround]
  rw [if_pos (by rfl), show exp - 1 + 1 = exp by omega, pack, if_neg (by norm_num)]
  exact dif_pos hcanon

/-- Every magnitude in the interval of a number rounds to that number. -/
theorem ofRatio_of_contains (hden : 0 < den) (hmant : mant ≠ 0) (hcanon : Canonical mant exp)
    (hq : (interval mant exp).Contains exp ((num : ℚ) / den)) :
    ofRatio negative num den = .finite negative mant exp hcanon := by
  obtain ⟨hlt, hmin, hmax, hfull⟩ := hcanon
  obtain ⟨hlow, hhigh, hodd⟩ := hq.near hmant
  have hlt' : (mant : ℚ) + 1 ≤ 2 ^ 53 := by
    have : mant + 1 ≤ 2 ^ 53 := hlt
    exact_mod_cast this
  have hone : (1 : ℚ) ≤ mant := by exact_mod_cast Nat.one_le_iff_ne_zero.2 hmant
  have hunit : (0 : ℚ) < 2 ^ exp := by positivity
  have hnum : 0 < num := by
    rcases Nat.eq_zero_or_pos num with rfl | h
    · norm_num at hlow
      linarith
    · exact h
  have hgrid := gridExponent_onGrid hnum hden
  by_cases hsame : (2 : ℚ) ^ (52 + exp) ≤ num / den ∨ exp = -1074
  · have hup : (num : ℚ) / den < 2 ^ (53 + exp) := by
      rw [zpow_add₀ (by norm_num), ← div_lt_iff₀ hunit]
      have : (2 : ℚ) ^ (53 : Int) = 2 ^ 53 := by norm_cast
      linarith
    exact ofRatio_of_near negative hden hmant _ (hgrid.unique ⟨hmin, hup, hsame⟩) hlow hhigh hodd
  · -- Only a power of two has magnitudes in its interval that lie on the finer grid below it.
    rw [not_or, not_le] at hsame
    obtain ⟨hbelow, hne⟩ := hsame
    have hbelow' : (num : ℚ) / den / 2 ^ exp < 2 ^ 52 := by
      rw [div_lt_iff₀ hunit]
      rwa [zpow_add₀ (by norm_num)] at hbelow
    have hpow : mant = 2 ^ 52 := by
      have hge : 2 ^ 52 ≤ mant := hfull.resolve_right hne
      have : (mant : ℚ) < 2 ^ 52 + 1 := by linarith
      have : mant < 2 ^ 52 + 1 := by exact_mod_cast this
      omega
    subst hpow
    have hquarter := hq.aboveHalf (by omega)
    refine ofRatio_below_power negative hden _ (hgrid.unique ⟨by omega, ?_, .inl ?_⟩) hquarter hbelow'
    · rwa [show 53 + (exp - 1) = 52 + exp by omega]
    · rw [le_div_iff₀ hunit] at hquarter
      refine le_trans ?_ hquarter
      rw [show 52 + (exp - 1) = 51 + exp by omega, zpow_add₀ (by norm_num)]
      gcongr
      norm_num

end OfRatio

end Segmentation.Binary64
