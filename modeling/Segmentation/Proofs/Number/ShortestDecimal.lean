import Mathlib.Data.Rat.Floor
import Mathlib.Tactic.LinearCombination
import Segmentation.Proofs.Number.Rounding

/-!
# The shortest decimal of a floating-point number

* `Binary64.exists_onGrid?`: a decimal grid of seventeen digits has a point in the interval of a number.
* `Binary64.shortest_contains`: so the search for the shortest decimal ends with one in the interval.
* `Binary64.ofDecimal_of_contains`: every decimal in the interval of a number is read as that number.
-/

namespace Segmentation

/-- The magnitude that a scaled decimal stands for. -/
def Decimal.Scaled.magnitude (d : Decimal.Scaled) : ℚ :=
  d.digits * 10 ^ d.exp

namespace Binary64

/-! ## Decimal grids -/

theorem tenScaled_den_pos (n : Nat) (k : Int) : 0 < (tenScaled n k).2 := by
  unfold tenScaled
  split
  · exact Nat.one_pos
  · exact Nat.pow_pos (by decide)

theorem tenScaled_div (n : Nat) (k : Int) :
    ((tenScaled n k).1 : ℚ) / (tenScaled n k).2 = n * 10 ^ k := by
  unfold tenScaled
  split
  · rename_i hk
    obtain ⟨m, rfl⟩ := Int.eq_ofNat_of_zero_le hk
    simp
  · rename_i hk
    obtain ⟨m, rfl⟩ := Int.exists_eq_neg_ofNat (show k ≤ 0 by omega)
    simp [div_eq_mul_inv]

/-- The unit of an interval, counted in units of a decimal grid, as a quotient. -/
def unitOnGrid (exp grid : Int) : Nat × Nat :=
  ((scale 1 1 (2 - exp)).1 * (tenScaled 1 (-grid)).1,
    (scale 1 1 (2 - exp)).2 * (tenScaled 1 (-grid)).2)

theorem unitOnGrid_den_pos (exp grid : Int) : 0 < (unitOnGrid exp grid).2 :=
  Nat.mul_pos (scale_den_pos _ Nat.one_pos) (tenScaled_den_pos _ _)

theorem unitOnGrid_div (exp grid : Int) :
    ((unitOnGrid exp grid).1 : ℚ) / (unitOnGrid exp grid).2 = 2 ^ (exp - 2) / 10 ^ grid := by
  have hscale := scale_div 1 1 (2 - exp)
  have hten := tenScaled_div 1 (-grid)
  unfold unitOnGrid
  push_cast
  rw [mul_div_mul_comm, hscale, hten, ← neg_sub exp 2, zpow_neg, zpow_neg]
  field_simp
  norm_num

theorem unitOnGrid_num_pos (exp grid : Int) : 0 < (unitOnGrid exp grid).1 := by
  rcases Nat.eq_zero_or_pos (unitOnGrid exp grid).1 with h | h
  · have hdiv := unitOnGrid_div exp grid
    rw [h, Nat.cast_zero, zero_div] at hdiv
    have : (0 : ℚ) < 2 ^ (exp - 2) / 10 ^ grid := by positivity
    linarith
  · exact h

theorem Interval.holds_iff_contains (i : Interval) (exp grid : Int) (n : Nat) :
    i.holds (n * (unitOnGrid exp grid).2) (unitOnGrid exp grid).1 = true ↔
      i.Contains exp (n * 10 ^ grid) := by
  have hnum : (0 : ℚ) < (unitOnGrid exp grid).1 := by exact_mod_cast unitOnGrid_num_pos exp grid
  have hden : (0 : ℚ) < (unitOnGrid exp grid).2 := by exact_mod_cast unitOnGrid_den_pos exp grid
  have hquot : (n * 10 ^ grid : ℚ) / 2 ^ (exp - 2) =
      n * (unitOnGrid exp grid).2 / (unitOnGrid exp grid).1 := by
    have hdiv := unitOnGrid_div exp grid
    rw [div_eq_div_iff hden.ne' (by positivity)] at hdiv
    rw [div_eq_div_iff (by positivity) hnum.ne']
    linear_combination (n : ℚ) * hdiv
  unfold Interval.holds Interval.Contains
  rw [hquot, le_div_iff₀ hnum, div_le_iff₀ hnum, lt_div_iff₀ hnum, div_lt_iff₀ hnum]
  split_ifs <;> simp only [Bool.and_eq_true, decide_eq_true_eq] <;> norm_cast

/-- The point of a decimal grid below the value of an interval, or at it. -/
def Interval.below (i : Interval) (exp grid : Int) : Nat :=
  i.value * (unitOnGrid exp grid).1 / (unitOnGrid exp grid).2

theorem Interval.onGrid?_eq (i : Interval) (exp grid : Int) :
    i.onGrid? exp grid =
      let num := (unitOnGrid exp grid).1
      let den := (unitOnGrid exp grid).2
      let below := i.below exp grid
      let hasBelow := 0 < below && i.holds (below * den) num
      let hasAbove := i.holds ((below + 1) * den) num
      if hasBelow && hasAbove then
        let toBelow := i.value * num - below * den
        let toAbove := (below + 1) * den - i.value * num
        if toBelow < toAbove || (toBelow = toAbove && below % 2 = 0) then some below
        else some (below + 1)
      else if hasBelow then some below
      else if hasAbove then some (below + 1)
      else none := rfl

theorem Interval.contains_of_onGrid? {i : Interval} {exp grid : Int} {n : Nat}
    (h : i.onGrid? exp grid = some n) : 0 < n ∧ i.Contains exp (n * 10 ^ grid) := by
  rw [i.onGrid?_eq] at h
  dsimp only at h
  rw [← i.holds_iff_contains]
  generalize i.below exp grid = below at h
  split_ifs at h with hboth hnear hbelow habove
  all_goals
    simp only [Bool.and_eq_true, decide_eq_true_eq, Option.some.injEq] at *
    subst h
  · exact hboth.1
  · exact ⟨by omega, hboth.2⟩
  · exact hbelow
  · exact ⟨by omega, habove⟩

theorem Interval.onGrid?_isSome {i : Interval} {exp grid : Int}
    (h : 0 < i.below exp grid ∧ i.Contains exp (i.below exp grid * 10 ^ grid) ∨
      i.Contains exp ((i.below exp grid + 1 : Nat) * 10 ^ grid)) :
    ∃ n, i.onGrid? exp grid = some n := by
  rw [i.onGrid?_eq]
  dsimp only
  rw [← i.holds_iff_contains, ← i.holds_iff_contains] at h
  split_ifs with hboth hnear hbelow habove
  · exact ⟨_, rfl⟩
  · exact ⟨_, rfl⟩
  · exact ⟨_, rfl⟩
  · exact ⟨_, rfl⟩
  · simp only [Bool.and_eq_true, decide_eq_true_eq] at hbelow
    exact absurd h (not_or.2 ⟨hbelow, habove⟩)

theorem Interval.contains_of_lt {i : Interval} {exp : Int} {q : ℚ}
    (hlow : (i.low : ℚ) < q / 2 ^ (exp - 2)) (hhigh : q / 2 ^ (exp - 2) < i.high) :
    i.Contains exp q := by
  unfold Interval.Contains
  split_ifs
  · exact ⟨hlow.le, hhigh.le⟩
  · exact ⟨hlow, hhigh⟩

theorem Interval.below_bounds (i : Interval) (exp grid : Int) :
    (i.below exp grid : ℚ) * (10 ^ grid / 2 ^ (exp - 2)) ≤ i.value ∧
      (i.value : ℚ) < (i.below exp grid + 1) * (10 ^ grid / 2 ^ (exp - 2)) := by
  have hstep : (0 : ℚ) < 10 ^ grid / 2 ^ (exp - 2) := by positivity
  have hquot : (i.value : ℚ) / (10 ^ grid / 2 ^ (exp - 2)) =
      ((i.value * (unitOnGrid exp grid).1 : Nat) : ℚ) / (unitOnGrid exp grid).2 := by
    push_cast
    rw [mul_div_assoc, unitOnGrid_div, div_div_eq_mul_div, mul_div_assoc]
  have hfloor : i.below exp grid = ⌊(i.value : ℚ) / (10 ^ grid / 2 ^ (exp - 2))⌋₊ := by
    rw [hquot, Nat.floor_div_eq_div]
    rfl
  rw [← le_div_iff₀ hstep, ← div_lt_iff₀ hstep, hfloor]
  exact ⟨Nat.floor_le (by positivity), Nat.lt_floor_add_one _⟩

/-- A grid on which the value has at least seventeen digits meets the interval: its spacing is less than
the width of the interval. -/
theorem exists_onGrid? {mant : Nat} {exp grid : Int} (hmant : mant ≠ 0) (hlt : mant < 2 ^ 53)
    (hgrid : (10 : ℚ) ^ (grid + 16) ≤ mant * 2 ^ exp) :
    ∃ n, (interval mant exp).onGrid? exp grid = some n := by
  apply Interval.onGrid?_isSome
  obtain ⟨hbelow, habove⟩ := (interval mant exp).below_bounds exp grid
  have hlowEq := interval_low hmant exp
  have hhighEq := interval_high mant exp
  have hvalue : ((interval mant exp).value : ℚ) = 4 * mant := by simp [interval]
  have hmantCast : (mant : ℚ) < 2 ^ 53 := by exact_mod_cast hlt
  have hten : (10 : ℚ) ^ grid / 2 ^ (exp - 2) * 10 ^ 16 ≤ 4 * mant := by
    have htwo : (4 * mant * 2 ^ (exp - 2) : ℚ) = mant * 2 ^ exp := by
      rw [zpow_sub₀ (by norm_num)]
      field_simp
      norm_num
    rw [div_mul_eq_mul_div, div_le_iff₀ (by positivity), htwo]
    rw [zpow_add₀ (by norm_num)] at hgrid
    exact_mod_cast hgrid
  have hcontains (n : Nat) (hlow : ((interval mant exp).low : ℚ) < n * (10 ^ grid / 2 ^ (exp - 2)))
      (hhigh : (n : ℚ) * (10 ^ grid / 2 ^ (exp - 2)) < 4 * mant + 2) :
      (interval mant exp).Contains exp (n * 10 ^ grid) :=
    Interval.contains_of_lt (by rwa [mul_div_assoc]) (by rwa [mul_div_assoc, hhighEq])
  rw [hvalue] at hbelow habove
  set below := (interval mant exp).below exp grid
  set step : ℚ := 10 ^ grid / 2 ^ (exp - 2)
  by_cases hnear : (below + 1 : ℚ) * step < 4 * mant + 2
  · right
    refine hcontains (below + 1) ?_ ?_
    · rw [hlowEq]
      push_cast
      split_ifs <;> linarith
    · push_cast
      exact hnear
  · -- The next point lies too far above, so the value is no power of two and the one below is near.
    have hfull : mant ≠ Nat.pow 2 52 := by
      rintro rfl
      norm_num at hten hnear hbelow
      linarith
    left
    refine ⟨?_, hcontains below ?_ ?_⟩
    · rcases Nat.eq_zero_or_pos below with hzero | hpos
      · rw [hzero] at hnear
        norm_num at hten hnear
        linarith
      · exact hpos
    · rw [hlowEq, if_neg (fun h => hfull h.1)]
      linarith
    · linarith

/-! ## The search -/

theorem digitCount_le (n : Nat) (hn : 0 < n) : 10 ^ (digitCount n - 1) ≤ n := by
  unfold digitCount
  rcases Nat.lt_or_ge 1 (Nat.toDigits 10 n).length with hlen | hlen
  · by_contra hlt
    have := (Nat.length_toDigits_le_iff (by decide) (by omega)).2 (not_le.1 hlt)
    omega
  · rw [Nat.sub_eq_zero_of_le hlen]
    exact hn

theorem lt_digitCount (n : Nat) : n < 10 ^ digitCount n :=
  (Nat.length_toDigits_le_iff (by decide) Nat.length_toDigits_pos).1 (Nat.le_refl _)

theorem digitCount_pos (n : Nat) : 0 < digitCount n :=
  Nat.length_toDigits_pos

theorem leadingExponent_le {num den : Nat} (hnum : 0 < num) (hden : 0 < den) :
    (10 : ℚ) ^ leadingExponent num den ≤ num / den := by
  have hnum' : (0 : ℚ) < num := by exact_mod_cast hnum
  have hden' : (0 : ℚ) < den := by exact_mod_cast hden
  rw [le_div_iff₀ hden']
  unfold leadingExponent
  split_ifs with hle
  · have hquot := digitCount_le (num / den) (Nat.div_pos hle hden)
    have hpos := digitCount_pos (num / den)
    rw [show (digitCount (num / den) : Int) - 1 = ((digitCount (num / den) - 1 : Nat) : Int) by omega,
      zpow_natCast]
    have := (Nat.le_div_iff_mul_le hden).1 hquot
    exact_mod_cast this
  · dsimp only
    have hpos := digitCount_pos (den / num)
    split_ifs with hexact
    · rw [show 1 - (digitCount (den / num) : Int) = -((digitCount (den / num) - 1 : Nat) : Int) by omega,
        zpow_neg, zpow_natCast, inv_mul_le_iff₀ (by positivity)]
      have hden : (num : ℚ) * 10 ^ (digitCount (den / num) - 1) = den := by exact_mod_cast hexact
      rw [← hden, mul_comm]
    · rw [zpow_neg, zpow_natCast, inv_mul_le_iff₀ (by positivity)]
      have := (Nat.div_lt_iff_lt_mul hnum).1 (lt_digitCount (den / num))
      exact_mod_cast this.le

theorem Interval.search_spec {i : Interval} {exp leading : Int} {fuel count k : Nat} (hk : k < fuel)
    (hit : ∃ n, i.onGrid? exp (leading + 1 - (count + k : Nat)) = some n) :
    0 < (i.search exp leading fuel count).digits ∧
      i.Contains exp (i.search exp leading fuel count).magnitude := by
  induction fuel generalizing count k with
  | zero => omega
  | succ fuel ih =>
    unfold Interval.search
    dsimp only
    split
    · rename_i n hn
      obtain ⟨hpos, hcontains⟩ := Interval.contains_of_onGrid? hn
      split_ifs with hten
      · have hdiv : n = n / 10 * 10 := by omega
        refine ⟨by dsimp only; omega, ?_⟩
        rw [hdiv] at hcontains
        convert hcontains using 1
        simp only [Decimal.Scaled.magnitude]
        rw [zpow_add₀ (by norm_num), zpow_one]
        push_cast
        rw [mul_assoc, mul_comm (10 : ℚ)]
      · exact ⟨hpos, hcontains⟩
    · rename_i hnone
      cases k with
      | zero =>
        obtain ⟨n, hn⟩ := hit
        rw [Nat.add_zero] at hn
        rw [hn] at hnone
        cases hnone
      | succ k =>
        refine ih (k := k) (by omega) ?_
        rw [show count + 1 + k = count + (k + 1) by omega]
        exact hit

/-- The shortest decimal of a number rounds to the number. -/
theorem shortest_contains {mant : Nat} {exp : Int} (hmant : mant ≠ 0) (hlt : mant < 2 ^ 53) :
    0 < (shortest mant exp).digits ∧
      (interval mant exp).Contains exp (shortest mant exp).magnitude := by
  unfold shortest
  dsimp only
  have hdiv := scale_div mant 1 (-exp)
  have hden : 0 < (scale mant 1 (-exp)).2 := scale_den_pos _ Nat.one_pos
  rw [Nat.cast_one, div_one, zpow_neg, div_inv_eq_mul] at hdiv
  set num := (scale mant 1 (-exp)).1
  set den := (scale mant 1 (-exp)).2
  have hvalue : (0 : ℚ) < mant * 2 ^ exp := by
    have : (0 : ℚ) < mant := by exact_mod_cast Nat.pos_of_ne_zero hmant
    positivity
  have hnum : 0 < num := by
    rcases Nat.eq_zero_or_pos num with h | h
    · rw [h, Nat.cast_zero, zero_div] at hdiv
      rw [← hdiv] at hvalue
      exact absurd hvalue (lt_irrefl _)
    · exact h
  have hleading := leadingExponent_le hnum hden
  rw [hdiv] at hleading
  refine Interval.search_spec (k := 16) (by omega) (exists_onGrid? hmant hlt ?_)
  rwa [show leadingExponent num den + 1 - ((1 + 16 : Nat) : Int) + 16 = leadingExponent num den by omega]

/-! ## Reading a decimal in the interval -/

theorem ten_zpow_size_le (digits : Nat) (exp : Int) (hdigits : 0 < digits) :
    (10 : ℚ) ^ ((digitCount digits : Int) + exp - 1) ≤ digits * 10 ^ exp := by
  have hpos := digitCount_pos digits
  have hle : ((10 ^ (digitCount digits - 1) : Nat) : ℚ) ≤ digits := by
    exact_mod_cast digitCount_le digits hdigits
  push_cast at hle
  rw [show (digitCount digits : Int) + exp - 1 = ((digitCount digits - 1 : Nat) : Int) + exp by omega,
    zpow_add₀ (by norm_num), zpow_natCast]
  gcongr

theorem lt_ten_zpow_size (digits : Nat) (exp : Int) :
    (digits : ℚ) * 10 ^ exp < 10 ^ ((digitCount digits : Int) + exp) := by
  have hlt : (digits : ℚ) < 10 ^ digitCount digits := by exact_mod_cast lt_digitCount digits
  rw [zpow_add₀ (by norm_num), zpow_natCast]
  gcongr

/-- The largest finite numbers lie below `10 ^ 309`. -/
theorem two_pow_lt_ten_pow : (2 : ℚ) ^ 53 * 2 ^ (971 : Int) < 10 ^ (309 : Int) := by
  have h : 2 ^ 53 * 2 ^ 971 < 10 ^ 309 := by decide +kernel
  exact_mod_cast h

/-- Half of the least positive number lies above `10 ^ -331`. -/
theorem ten_pow_lt_two_pow : (10 : ℚ) ^ (-331 : Int) < 1 / 2 * 2 ^ (-1074 : Int) := by
  have h : 2 ^ 1075 < 10 ^ 331 := by decide +kernel
  have hq : (2 : ℚ) ^ 1075 < 10 ^ 331 := by exact_mod_cast h
  rw [zpow_neg, zpow_neg, one_div, ← mul_inv]
  refine inv_strictAnti₀ (by positivity) ?_
  rw [← zpow_one_add₀ (by norm_num)]
  exact_mod_cast hq

/-- No decimal that rounds to a finite number other than zero is settled by its exponent alone. -/
theorem size_bounds {digits mant : Nat} {exp e : Int} (hdigits : 0 < digits) (hmant : mant ≠ 0)
    (hcanon : Canonical mant exp) (hq : (interval mant exp).Contains exp (digits * 10 ^ e)) :
    (digitCount digits : Int) + e ≤ 310 ∧ -330 ≤ (digitCount digits : Int) + e := by
  obtain ⟨hlt, hmin, hmax, -⟩ := hcanon
  obtain ⟨hlow, hhigh, -⟩ := hq.near hmant
  have hunit : (0 : ℚ) < 2 ^ exp := by positivity
  have hlt' : (mant : ℚ) + 1 ≤ 2 ^ 53 := by
    have : mant + 1 ≤ 2 ^ 53 := hlt
    exact_mod_cast this
  have hone : (1 : ℚ) ≤ mant := by exact_mod_cast Nat.one_le_iff_ne_zero.2 hmant
  rw [le_div_iff₀ hunit] at hlow
  rw [div_le_iff₀ hunit] at hhigh
  constructor
  · have hbig : (10 : ℚ) ^ ((digitCount digits : Int) + e - 1) < 10 ^ (309 : Int) := by
      calc (10 : ℚ) ^ ((digitCount digits : Int) + e - 1)
          ≤ digits * 10 ^ e := ten_zpow_size_le digits e hdigits
        _ ≤ (mant + 1 / 2) * 2 ^ exp := hhigh
        _ ≤ 2 ^ 53 * 2 ^ (971 : Int) := by
            gcongr
            · linarith
            · norm_num
        _ < 10 ^ (309 : Int) := two_pow_lt_ten_pow
    have := (zpow_lt_zpow_iff_right₀ (by norm_num : (1 : ℚ) < 10)).1 hbig
    omega
  · have hsmall : (10 : ℚ) ^ (-331 : Int) < 10 ^ ((digitCount digits : Int) + e) := by
      calc (10 : ℚ) ^ (-331 : Int) < 1 / 2 * 2 ^ (-1074 : Int) := ten_pow_lt_two_pow
        _ ≤ (mant - 1 / 2) * 2 ^ exp := by
            gcongr
            · linarith
            · linarith
            · norm_num
        _ ≤ digits * 10 ^ e := hlow
        _ < 10 ^ ((digitCount digits : Int) + e) := lt_ten_zpow_size digits e
    have := (zpow_lt_zpow_iff_right₀ (by norm_num : (1 : ℚ) < 10)).1 hsmall
    omega

/-- Every decimal in the interval of a number is read as that number. -/
theorem ofDecimal_of_contains {digits mant : Nat} {exp e : Int} (negative : Bool)
    (hdigits : 0 < digits) (hmant : mant ≠ 0) (hcanon : Canonical mant exp)
    (hq : (interval mant exp).Contains exp (digits * 10 ^ e)) :
    ofDecimal negative digits e = .finite negative mant exp hcanon := by
  obtain ⟨hbig, hsmall⟩ := size_bounds hdigits hmant hcanon hq
  unfold ofDecimal
  dsimp only
  rw [if_neg (by omega), if_neg (by omega), if_neg (by omega)]
  split
  · rename_i he
    obtain ⟨k, rfl⟩ := Int.eq_ofNat_of_zero_le he
    apply ofRatio_of_contains negative Nat.one_pos hmant hcanon
    simpa using hq
  · rename_i he
    obtain ⟨k, rfl⟩ := Int.exists_eq_neg_ofNat (show e ≤ 0 by omega)
    apply ofRatio_of_contains negative (Nat.pow_pos (by decide)) hmant hcanon
    simpa [div_eq_mul_inv] using hq

end Binary64

end Segmentation
