import Segmentation.Proofs.Number.ShortestDecimal

/-!
# Integers as floating-point numbers

* `Binary64.roundDiv_near`, `Binary64.roundDiv_mono`: rounding to an integer goes to a nearest one and keeps the
  order.
* `Binary64.position_ofRatio`: where a rounded quotient stands on the line, in terms of `Binary64.units`.
* `Binary64.position_ofInt_mono`, `Binary64.position_ofInt_of_le`: integers are rounded in their order, and up to
  `2 ^ 53` not at all.
* `Binary64.isIntegral_of_position`, `Binary64.position_of_isIntegral`, `Binary64.ofInt_of_position`: a finite number
  at the place of an integer is that integer, and only such numbers have no fractional part.
-/

namespace Segmentation.Binary64

/-! ## Rounding to an integer -/

variable {n d n' d' m : Nat}

/-- The quotient is at most half away from the integer it is rounded to, and less than that for an odd one. -/
theorem roundDiv_near (hd : 0 < d) :
    (roundDiv n d : ℚ) - 1 / 2 ≤ n / d ∧ (n : ℚ) / d ≤ roundDiv n d + 1 / 2 ∧
      (roundDiv n d % 2 = 1 → (roundDiv n d : ℚ) - 1 / 2 < n / d ∧ (n : ℚ) / d < roundDiv n d + 1 / 2) := by
  have hd' : (0 : ℚ) < d := by exact_mod_cast hd
  have hnear : 2 * (roundDiv n d * d) ≤ 2 * n + d ∧ 2 * n ≤ 2 * (roundDiv n d * d) + d ∧
      (roundDiv n d % 2 = 1 → 2 * (roundDiv n d * d) < 2 * n + d ∧ 2 * n < 2 * (roundDiv n d * d) + d) := by
    have hn := Nat.div_add_mod n d
    have hr := Nat.mod_lt n hd
    rw [Nat.mul_comm] at hn
    unfold roundDiv
    dsimp only
    split_ifs with hlow hhigh
    · omega
    · rw [Nat.add_mul, Nat.one_mul]
      omega
    · -- A tie goes to the even integer.
      rcases Nat.mod_two_eq_zero_or_one (n / d) with heven | hodd
      · rw [heven, Nat.add_zero]
        omega
      · rw [hodd, Nat.add_mul, Nat.one_mul]
        omega
  obtain ⟨hlow, hhigh, hodd⟩ := hnear
  rw [le_div_iff₀ hd', div_le_iff₀ hd', lt_div_iff₀ hd', div_lt_iff₀ hd']
  refine ⟨?_, ?_, fun h => ⟨?_, ?_⟩⟩
  · have : (2 * (roundDiv n d * d) : ℚ) ≤ 2 * n + d := by exact_mod_cast hlow
    linarith
  · have : (2 * n : ℚ) ≤ 2 * (roundDiv n d * d) + d := by exact_mod_cast hhigh
    linarith
  · have : (2 * (roundDiv n d * d) : ℚ) < 2 * n + d := by exact_mod_cast (hodd h).1
    linarith
  · have : (2 * n : ℚ) < 2 * (roundDiv n d * d) + d := by exact_mod_cast (hodd h).2
    linarith

/-- Rounding keeps the order of quotients. -/
theorem roundDiv_mono (hd : 0 < d) (hd' : 0 < d') (h : (n : ℚ) / d ≤ n' / d') :
    roundDiv n d ≤ roundDiv n' d' := by
  obtain ⟨hlow, -, hodd⟩ := roundDiv_near (n := n) hd
  obtain ⟨-, hhigh, hodd'⟩ := roundDiv_near (n := n') hd'
  by_contra hlt
  have hsucc : ((roundDiv n' d' : Nat) : ℚ) + 1 ≤ roundDiv n d := by
    exact_mod_cast Nat.succ_le_of_lt (not_le.1 hlt)
  -- Both quotients are the tie between two neighbours, of which one is odd.
  have heq : roundDiv n d = roundDiv n' d' + 1 := by
    have : (roundDiv n d : ℚ) ≤ roundDiv n' d' + 1 := by linarith
    have : roundDiv n d ≤ roundDiv n' d' + 1 := by exact_mod_cast this
    omega
  rcases Nat.mod_two_eq_zero_or_one (roundDiv n' d') with heven | hisOdd
  · have := (hodd (by omega)).1
    linarith
  · have := (hodd' hisOdd).2
    linarith

@[simp] theorem roundDiv_one (n : Nat) : roundDiv n 1 = n := by
  simp [roundDiv, Nat.mod_one]

theorem roundDiv_le (hd : 0 < d) (h : (n : ℚ) / d ≤ m) : roundDiv n d ≤ m := by
  have hcast : (n : ℚ) / d ≤ m / (1 : Nat) := by simpa using h
  simpa using roundDiv_mono hd Nat.one_pos hcast

theorem le_roundDiv (hd : 0 < d) (h : (m : ℚ) ≤ n / d) : m ≤ roundDiv n d := by
  have hcast : (m : ℚ) / (1 : Nat) ≤ n / d := by simpa using h
  simpa using roundDiv_mono Nat.one_pos hd hcast

/-! ## The place of a rounded quotient -/

/-- A quotient, rounded on its grid and counted in units of `2 ^ -1074`. -/
def units (num den : Nat) : Nat :=
  roundDiv (scale num den (gridExponent num den)).1 (scale num den (gridExponent num den)).2 *
    2 ^ (gridExponent num den + 1074).toNat

theorem units_zero (den : Nat) : units 0 den = 0 := by
  have hscale : ∀ e, (scale 0 den e).1 = 0 := by
    intro e
    unfold scale
    split <;> simp
  have hround : ∀ d, roundDiv 0 d = 0 := by
    intro d
    unfold roundDiv
    dsimp only
    split_ifs <;> simp_all
  rw [units, hscale, hround, Nat.zero_mul]

section Grid

variable {num den num' den' : Nat}

theorem le_gridExponent (num den : Nat) : -1074 ≤ gridExponent num den :=
  le_max_left _ _

/-- The mantissa on the grid of a quotient has at most 53 binary digits, or is the next number. -/
theorem mantissa_le (hnum : 0 < num) (hden : 0 < den) :
    roundDiv (scale num den (gridExponent num den)).1 (scale num den (gridExponent num den)).2 ≤ 2 ^ 53 := by
  obtain ⟨-, hup, -⟩ := gridExponent_onGrid hnum hden
  refine roundDiv_le (scale_den_pos _ hden) ?_
  rw [scale_div, div_le_iff₀ (by positivity)]
  rw [zpow_add₀ (by norm_num)] at hup
  exact_mod_cast hup.le

/-- It has 53 unless the grid is the finest one. -/
theorem le_mantissa (hnum : 0 < num) (hden : 0 < den) (hexp : gridExponent num den ≠ -1074) :
    2 ^ 52 ≤ roundDiv (scale num den (gridExponent num den)).1 (scale num den (gridExponent num den)).2 := by
  obtain ⟨-, -, hlow⟩ := gridExponent_onGrid hnum hden
  refine le_roundDiv (scale_den_pos _ hden) ?_
  rw [scale_div, le_div_iff₀ (by positivity)]
  have hlow := hlow.resolve_right hexp
  rw [zpow_add₀ (by norm_num)] at hlow
  exact_mod_cast hlow

/-- A greater quotient has no finer grid. -/
theorem gridExponent_mono (hnum : 0 < num) (hden : 0 < den) (hnum' : 0 < num') (hden' : 0 < den')
    (h : (num : ℚ) / den ≤ num' / den') : gridExponent num den ≤ gridExponent num' den' := by
  obtain ⟨-, -, hlow⟩ := gridExponent_onGrid hnum hden
  obtain ⟨hmin, hup, -⟩ := gridExponent_onGrid hnum' hden'
  rcases hlow with hlow | hlow
  · have := two_zpow_lt.1 (lt_of_le_of_lt (hlow.trans h) hup)
    omega
  · rw [hlow]
    exact hmin

/-- Rounding keeps the order of quotients also where their grids differ. -/
theorem units_mono (hden : 0 < den) (hden' : 0 < den') (h : (num : ℚ) / den ≤ num' / den') :
    units num den ≤ units num' den' := by
  rcases Nat.eq_zero_or_pos num with rfl | hnum
  · rw [units_zero]
    exact Nat.zero_le _
  have hnum' : 0 < num' := by
    rcases Nat.eq_zero_or_pos num' with rfl | hpos
    · have : (0 : ℚ) < num / den := by positivity
      simp only [Nat.cast_zero, zero_div] at h
      linarith
    · exact hpos
  have hmin := le_gridExponent num den
  rcases (gridExponent_mono hnum hden hnum' hden' h).eq_or_lt with heq | hlt
  · unfold units
    rw [heq]
    refine Nat.mul_le_mul_right _ (roundDiv_mono (scale_den_pos _ hden) (scale_den_pos _ hden') ?_)
    rw [scale_div, scale_div]
    gcongr
  · -- The finer grid ends where the coarser one begins.
    have hpow : 2 ^ 53 * 2 ^ (gridExponent num den + 1074).toNat ≤
        2 ^ 52 * 2 ^ (gridExponent num' den' + 1074).toNat := by
      rw [← Nat.pow_add, ← Nat.pow_add]
      exact Nat.pow_le_pow_right (by decide) (by omega)
    calc units num den ≤ 2 ^ 53 * 2 ^ (gridExponent num den + 1074).toNat :=
          Nat.mul_le_mul_right _ (mantissa_le hnum hden)
      _ ≤ 2 ^ 52 * 2 ^ (gridExponent num' den' + 1074).toNat := hpow
      _ ≤ units num' den' := Nat.mul_le_mul_right _ (le_mantissa hnum' hden' (by omega))

end Grid

/-! ## The line -/

/-- The place of positive infinity, beyond all finite numbers. -/
def horizon : Nat := Nat.pow 2 2098

theorem horizon_pos : 0 < horizon :=
  Nat.pow_pos (by decide)

theorem two_pow_lt_horizon {k : Nat} (hk : k < 2098) : 2 ^ k < horizon :=
  Nat.pow_lt_pow_right (by decide) hk

theorem horizon_le_two_pow {k : Nat} (hk : 2098 ≤ k) : horizon ≤ 2 ^ k :=
  Nat.pow_le_pow_right (by decide) hk

theorem two_pow_mul (a b : Nat) : 2 ^ a * 2 ^ b = 2 ^ (a + b) :=
  (Nat.pow_add 2 a b).symm

/-- The number of a sign and a magnitude. -/
def signed (negative : Bool) (n : Nat) : Int :=
  if negative then -n else n

theorem signed_natAbs (n : Int) (c : Nat) : signed (n < 0) (n.natAbs * c) = n * c := by
  unfold signed
  rcases lt_or_ge n 0 with hneg | hnonneg
  · rw [if_pos (by simpa using hneg), Nat.cast_mul, Int.ofNat_natAbs_of_nonpos hneg.le, neg_mul, neg_neg]
  · rw [if_neg (by simpa using hnonneg), Nat.cast_mul, Int.natAbs_of_nonneg hnonneg]

theorem signed_mul (negative : Bool) (n c : Nat) : signed negative (n * c) = signed negative n * c := by
  cases negative <;> simp [signed]

theorem natAbs_signed (negative : Bool) (n : Nat) : (signed negative n).natAbs = n := by
  cases negative <;> simp [signed]

/-- The magnitude and the sign of a multiple. -/
theorem eq_of_signed_eq {negative : Bool} {n c : Nat} {k : Int} (hc : 0 < c) (h : signed negative n = k * c) :
    n = k.natAbs * c ∧ signed negative k.natAbs = k := by
  have hn : n = k.natAbs * c := by
    have habs := congrArg Int.natAbs h
    rwa [natAbs_signed, Int.natAbs_mul, Int.natAbs_natCast] at habs
  refine ⟨hn, ?_⟩
  rw [hn, signed_mul] at h
  exact Int.eq_of_mul_eq_mul_right (by omega) h

theorem position_finite {negative : Bool} {mant : Nat} {exp : Int} {h : Canonical mant exp} :
    (finite negative mant exp h).position = signed negative (mant * 2 ^ (exp + 1074).toNat) := by
  unfold position signed
  simp

theorem position_infinite {negative : Bool} : (infinite negative).position = signed negative horizon :=
  rfl

/-- Finite numbers stand before the horizon. -/
theorem lt_horizon {mant : Nat} {exp : Int} (h : Canonical mant exp) :
    mant * 2 ^ (exp + 1074).toNat < horizon := by
  obtain ⟨hmant, -, hexp, -⟩ := h
  calc mant * 2 ^ (exp + 1074).toNat < 2 ^ 53 * 2 ^ (exp + 1074).toNat :=
        Nat.mul_lt_mul_of_pos_right hmant (by positivity)
    _ = 2 ^ (53 + (exp + 1074).toNat) := two_pow_mul _ _
    _ ≤ 2 ^ (53 + 2045) := Nat.pow_le_pow_right (by decide) (by omega)

/-- Where a mantissa on a grid stands: beyond the horizon is infinity. -/
theorem position_pack (negative : Bool) (mant : Nat) (exp : Int) (hmant : mant < 2 ^ 53) (hexp : -1074 ≤ exp)
    (hfull : exp ≠ -1074 → 2 ^ 52 ≤ mant) :
    (pack negative mant exp).position = signed negative (min (mant * 2 ^ (exp + 1074).toNat) horizon) ∧
      ((pack negative mant exp).isFinite = true ↔ mant * 2 ^ (exp + 1074).toNat < horizon) := by
  unfold pack
  split_ifs with hzero hcanon
  · subst hzero
    rw [zero, position_finite]
    simp [isFinite, horizon_pos]
  · have hlt := lt_horizon hcanon
    rw [position_finite, Nat.min_eq_left hlt.le]
    simp [isFinite, hlt]
  · have hbig : 972 ≤ exp := by
      by_contra hsmall
      refine hcanon ⟨hmant, hexp, by omega, ?_⟩
      by_cases hleast : exp = -1074
      · exact .inr hleast
      · exact .inl (hfull hleast)
    have hge : horizon ≤ mant * 2 ^ (exp + 1074).toNat := by
      calc horizon ≤ 2 ^ (52 + (exp + 1074).toNat) := horizon_le_two_pow (by omega)
        _ = 2 ^ 52 * 2 ^ (exp + 1074).toNat := (two_pow_mul _ _).symm
        _ ≤ mant * 2 ^ (exp + 1074).toNat := Nat.mul_le_mul_right _ (hfull (by omega))
    rw [position_infinite, Nat.min_eq_right hge]
    simp [isFinite, hge]

theorem ofRatio_zero (negative : Bool) (den : Nat) : ofRatio negative 0 den = zero negative := by
  have hunits := units_zero den
  rw [units, Nat.mul_eq_zero] at hunits
  have hround := hunits.resolve_right (by positivity)
  unfold ofRatio
  dsimp only
  rw [hround, if_neg (by decide), pack, if_pos rfl]

/-- A rounded quotient that is not finite is infinite. -/
theorem ofRatio_eq_infinite {negative : Bool} {num den : Nat}
    (h : (ofRatio negative num den).isFinite = false) : ofRatio negative num den = infinite negative := by
  have hpack : ∀ mant exp, (pack negative mant exp).isFinite = false →
      pack negative mant exp = infinite negative := by
    intro mant exp hfinite
    unfold pack at hfinite ⊢
    split_ifs at hfinite ⊢
    · cases hfinite
    · cases hfinite
    · rfl
  unfold ofRatio at h ⊢
  dsimp only at h ⊢
  split_ifs at h ⊢
  · exact hpack _ _ h
  · exact hpack _ _ h

/-- A rounded quotient stands where its units do, or at infinity. -/
theorem position_ofRatio (negative : Bool) {num den : Nat} (hden : 0 < den) :
    (ofRatio negative num den).position = signed negative (min (units num den) horizon) ∧
      ((ofRatio negative num den).isFinite = true ↔ units num den < horizon) := by
  rcases Nat.eq_zero_or_pos num with rfl | hnum
  · rw [ofRatio_zero, units_zero, zero, position_finite]
    simp [isFinite, horizon_pos]
  · have hexp := le_gridExponent num den
    have hle := mantissa_le hnum hden
    have hfull := le_mantissa hnum hden
    unfold ofRatio units
    dsimp only
    split_ifs with hnext
    · -- The next number lies at the start of the next grid.
      have hunits : 2 ^ 52 * 2 ^ (gridExponent num den + 1 + 1074).toNat =
          2 ^ 53 * 2 ^ (gridExponent num den + 1074).toNat := by
        rw [two_pow_mul, two_pow_mul]
        congr 1
        omega
      have hpack := position_pack negative (2 ^ 52) (gridExponent num den + 1) (by decide) (by omega)
        fun _ => Nat.le_refl _
      rw [hunits] at hpack
      rw [hnext]
      exact hpack
    · exact position_pack negative _ _ (Nat.lt_of_le_of_ne hle hnext) hexp hfull

/-! ## Integers -/

/-- An integer is rounded to an integer, and on a grid without gaps between integers not at all. -/
theorem exists_units_one (n : Nat) :
    ∃ k, units n 1 = k * 2 ^ 1074 ∧ (gridExponent n 1 ≤ 0 → k = n) := by
  have hmin := le_gridExponent n 1
  unfold units
  generalize gridExponent n 1 = e at hmin ⊢
  rcases lt_or_ge 0 e with hpos | hle
  · refine ⟨roundDiv (scale n 1 e).1 (scale n 1 e).2 * 2 ^ e.toNat, ?_, fun h => by omega⟩
    rw [Nat.mul_assoc, two_pow_mul]
    congr 2
    omega
  · have hround : roundDiv (scale n 1 e).1 (scale n 1 e).2 = n * 2 ^ (-e).toNat := by
      unfold scale
      split_ifs with hzero
      · obtain rfl : e = 0 := by omega
        simp
      · exact roundDiv_one _
    refine ⟨n, ?_, fun _ => rfl⟩
    rw [hround, Nat.mul_assoc, two_pow_mul]
    congr 2
    omega

/-- Integers of at most 53 binary digits, and the next one, are not rounded. -/
theorem units_one_of_le {n : Nat} (hn : n ≤ 2 ^ 53) : units n 1 = n * 2 ^ 1074 := by
  rcases Nat.eq_zero_or_pos n with rfl | hpos
  · rw [units_zero, Nat.zero_mul]
  obtain ⟨k, hk, hexact⟩ := exists_units_one n
  rcases le_or_gt (gridExponent n 1) 0 with hle | hgt
  · rw [hk, hexact hle]
  · -- Only the last one lies on a grid of even numbers.
    obtain ⟨-, -, hlow⟩ := gridExponent_onGrid hpos Nat.one_pos
    have hlow := hlow.resolve_right (by omega)
    rw [Nat.cast_one, div_one] at hlow
    have hupper : (n : ℚ) ≤ 2 ^ (53 : Int) := by exact_mod_cast hn
    have hexp := two_zpow_le.1 (hlow.trans hupper)
    have hone : gridExponent n 1 = 1 := by omega
    rw [hone] at hlow
    have hge : 2 ^ 53 ≤ n := by
      have : (2 : ℚ) ^ 53 ≤ n := by exact_mod_cast hlow
      exact_mod_cast this
    obtain rfl : n = 2 ^ 53 := Nat.le_antisymm hn hge
    unfold units
    rw [hone]
    have hround : roundDiv (scale (2 ^ 53) 1 1).1 (scale (2 ^ 53) 1 1).2 = 2 ^ 52 := by decide
    rw [hround, two_pow_mul, two_pow_mul]
    congr 1

theorem position_ofInt (n : Int) :
    (ofInt n).position = signed (n < 0) (min (units n.natAbs 1) horizon) ∧
      ((ofInt n).isFinite = true ↔ units n.natAbs 1 < horizon) :=
  position_ofRatio _ Nat.one_pos

theorem ofInt_eq_infinite {n : Int} (h : (ofInt n).isFinite = false) : ofInt n = infinite (n < 0) :=
  ofRatio_eq_infinite h

theorem isNan_of_isFinite {x : Binary64} (hx : x.isFinite = true) : x.isNan = false := by
  cases x with
  | finite => rfl
  | _ => cases hx

theorem isNan_ofInt (n : Int) : (ofInt n).isNan = false := by
  by_cases hfinite : (ofInt n).isFinite = true
  · exact isNan_of_isFinite hfinite
  · rw [ofInt_eq_infinite (by simpa using hfinite)]
    rfl

/-- Integers are rounded in their order. -/
theorem position_ofInt_mono {a b : Int} (h : a ≤ b) : (ofInt a).position ≤ (ofInt b).position := by
  have hunits : ∀ {m n : Nat}, m ≤ n → min (units m 1) horizon ≤ min (units n 1) horizon := by
    intro m n hmn
    have hcast : (m : ℚ) / (1 : Nat) ≤ n / (1 : Nat) := by
      gcongr
    exact min_le_min_right _ (units_mono Nat.one_pos Nat.one_pos hcast)
  rw [(position_ofInt a).1, (position_ofInt b).1]
  unfold signed
  by_cases ha : a < 0 <;> by_cases hb : b < 0
  · simp only [ha, hb, decide_true, if_true]
    have := hunits (show b.natAbs ≤ a.natAbs by omega)
    omega
  · simp only [ha, hb, decide_true, decide_false, if_true, if_false, Bool.false_eq_true]
    omega
  · omega
  · simp only [ha, hb, decide_false, if_false, Bool.false_eq_true]
    have := hunits (show a.natAbs ≤ b.natAbs by omega)
    omega

/-- Up to `2 ^ 53` on both sides integers are not rounded. -/
theorem position_ofInt_of_le {n : Int} (hn : n.natAbs ≤ 2 ^ 53) :
    (ofInt n).isFinite = true ∧ (ofInt n).position = n * 2 ^ 1074 := by
  obtain ⟨hposition, hfinite⟩ := position_ofInt n
  rw [units_one_of_le hn] at hposition hfinite
  have hlt : n.natAbs * 2 ^ 1074 < horizon := by
    calc n.natAbs * 2 ^ 1074 ≤ 2 ^ 53 * 2 ^ 1074 := Nat.mul_le_mul_right _ hn
      _ = 2 ^ (53 + 1074) := two_pow_mul 53 1074
      _ < horizon := two_pow_lt_horizon (by decide)
  refine ⟨hfinite.2 hlt, ?_⟩
  rw [hposition, Nat.min_eq_left hlt.le, signed_natAbs]
  rfl

/-- A finite number that an integer is rounded to stands at the place of an integer. -/
theorem exists_position_ofInt {n : Int} (hn : (ofInt n).isFinite = true) :
    ∃ k : Int, (ofInt n).position = k * 2 ^ 1074 := by
  obtain ⟨hposition, hfinite⟩ := position_ofInt n
  obtain ⟨k, hk, -⟩ := exists_units_one n.natAbs
  refine ⟨signed (n < 0) k, ?_⟩
  rw [hposition, Nat.min_eq_left (hfinite.1 hn).le, hk, signed_mul]
  rfl

/-- A number lies in its own interval. -/
theorem contains_self {mant : Nat} (hmant : mant ≠ 0) (exp : Int) :
    (interval mant exp).Contains exp (mant * 2 ^ exp) := by
  have hlow : ((interval mant exp).low : ℚ) ≤ 4 * mant - 1 := by
    rw [interval_low hmant]
    split_ifs <;> linarith
  have hhigh := interval_high mant exp
  have hquarter : (mant * 2 ^ exp : ℚ) / 2 ^ (exp - 2) = 4 * mant := by
    rw [quarter_units, mul_div_cancel_right₀ _ (by positivity)]
  unfold Interval.Contains
  rw [hquarter]
  split_ifs
  · exact ⟨by linarith, by linarith⟩
  · exact ⟨by linarith, by linarith⟩

section AtInteger

variable {x : Binary64} {k : Int} {negative : Bool} {mant : Nat} {exp : Int}

/-- The mantissa of a finite number at the place of an integer. -/
theorem mantissa_of_position {h : Canonical mant exp}
    (hk : (finite negative mant exp h).position = k * 2 ^ 1074) :
    mant * 2 ^ (exp + 1074).toNat = k.natAbs * 2 ^ 1074 ∧ signed negative k.natAbs = k := by
  rw [position_finite] at hk
  exact eq_of_signed_eq (Nat.pow_pos Nat.two_pos) hk

theorem mantissa_of_neg (hmin : -1074 ≤ exp) (hneg : exp < 0)
    (h : mant * 2 ^ (exp + 1074).toNat = k.natAbs * 2 ^ 1074) : mant = k.natAbs * 2 ^ (-exp).toNat := by
  have hsplit : 2 ^ (-exp).toNat * 2 ^ (exp + 1074).toNat = 2 ^ 1074 := by
    rw [two_pow_mul]
    congr 1
    omega
  rw [← hsplit, ← Nat.mul_assoc] at h
  exact Nat.eq_of_mul_eq_mul_right (Nat.pow_pos Nat.two_pos) h

theorem mantissa_of_nonneg (hnonneg : 0 ≤ exp)
    (h : mant * 2 ^ (exp + 1074).toNat = k.natAbs * 2 ^ 1074) : mant * 2 ^ exp.toNat = k.natAbs := by
  have hsplit : 2 ^ exp.toNat * 2 ^ 1074 = 2 ^ (exp + 1074).toNat := by
    rw [two_pow_mul]
    congr 1
    omega
  rw [← hsplit, ← Nat.mul_assoc] at h
  exact Nat.eq_of_mul_eq_mul_right (Nat.pow_pos Nat.two_pos) h

/-- A finite number at the place of an integer is that integer. -/
theorem isIntegral_of_position (hx : x.isFinite = true) (hk : x.position = k * 2 ^ 1074) :
    x.isIntegral = true ∧ x.truncate = k := by
  cases x with
  | finite negative mant exp h =>
    obtain ⟨habs, hsign⟩ := mantissa_of_position hk
    unfold isIntegral truncate
    rcases lt_or_ge exp 0 with hneg | hnonneg
    · have hmant := mantissa_of_neg h.2.1 hneg habs
      have hpos : 0 < 2 ^ (-exp).toNat := Nat.pow_pos Nat.two_pos
      simp only [if_neg (not_le.2 hneg), hmant, Nat.pow_eq, Nat.mul_mod_left, Nat.mul_div_cancel _ hpos]
      exact ⟨by simp, hsign⟩
    · have hvalue := mantissa_of_nonneg hnonneg habs
      simp only [if_pos hnonneg, Nat.pow_eq, hvalue]
      exact ⟨by simp [hnonneg], hsign⟩
  | _ => cases hx

/-- Conversely a number without a fractional part stands at the place of its integer part. -/
theorem position_of_isIntegral (hx : x.isIntegral = true) : x.position = x.truncate * 2 ^ 1074 := by
  cases x with
  | finite negative mant exp h =>
    have hmin := h.2.1
    have hunits : mant * 2 ^ (exp + 1074).toNat =
        (if 0 ≤ exp then mant * Nat.pow 2 exp.toNat else mant / Nat.pow 2 (-exp).toNat) * 2 ^ 1074 := by
      change (decide (0 ≤ exp) || mant % Nat.pow 2 (-exp).toNat == 0) = true at hx
      rcases lt_or_ge exp 0 with hneg | hnonneg
      · rw [decide_eq_false (not_le.2 hneg), Bool.false_or, beq_iff_eq] at hx
        have hmant := Nat.div_mul_cancel (Nat.dvd_of_mod_eq_zero hx)
        have hsplit : 2 ^ (-exp).toNat * 2 ^ (exp + 1074).toNat = 2 ^ 1074 := by
          rw [two_pow_mul]
          congr 1
          omega
        rw [if_neg (not_le.2 hneg), ← hsplit, ← Nat.mul_assoc]
        exact congrArg (· * 2 ^ (exp + 1074).toNat) hmant.symm
      · rw [if_pos hnonneg, Nat.pow_eq, Nat.mul_assoc, two_pow_mul]
        congr 2
        omega
    rw [position_finite, hunits, signed_mul]
    rfl
  | _ => cases hx

/-- The integer is rounded to it. -/
theorem ofInt_of_position (hx : x.isFinite = true) (hk : x.position = k * 2 ^ 1074) :
    (ofInt k).isFinite = true ∧ (ofInt k).position = x.position := by
  cases x with
  | finite negative mant exp h =>
    obtain ⟨habs, hsign⟩ := mantissa_of_position hk
    rcases Nat.eq_zero_or_pos mant with rfl | hpos
    · rw [Nat.zero_mul, eq_comm, Nat.mul_eq_zero] at habs
      obtain rfl := Int.natAbs_eq_zero.1 (habs.resolve_right (by positivity))
      rw [hk]
      exact position_ofInt_of_le (by decide)
    · have hvalue : (k.natAbs : ℚ) / (1 : Nat) = mant * 2 ^ exp := by
        have hcast : (mant : ℚ) * 2 ^ ((exp + 1074).toNat : Int) = k.natAbs * 2 ^ (1074 : Int) := by
          exact_mod_cast habs
        have hmin := h.2.1
        rw [show ((exp + 1074).toNat : Int) = exp + 1074 by omega, zpow_add₀ (by norm_num), ← mul_assoc] at hcast
        rw [Nat.cast_one, div_one]
        exact (mul_right_cancel₀ (by positivity) hcast).symm
      have hcontains := contains_self hpos.ne' exp
      rw [← hvalue] at hcontains
      have hround := ofRatio_of_contains (k < 0) Nat.one_pos hpos.ne' h hcontains
      unfold ofInt
      rw [hround, hk, position_finite, habs, signed_natAbs]
      exact ⟨rfl, rfl⟩
  | _ => cases hx

end AtInteger

end Segmentation.Binary64
