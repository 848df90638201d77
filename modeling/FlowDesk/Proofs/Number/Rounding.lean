/-
# Rounding to the nearest number

Every positive number has a neighbourhood of rationals around it.  This module
proves that rounding takes each of them to the number (`roundRatio_eq`), however
the rational is written as a quotient: the exponent at which a quotient is
rounded depends on its size only (`roundingExponent_spec`), and is that of the
number, except just below a power of two, where rounding carries.
-/

import FlowDesk.Number.Shortest
import Mathlib.Algebra.Order.Field.Power
import Mathlib.Data.Rat.Floor
import Mathlib.Tactic.FieldSimp
import Mathlib.Tactic.Linarith
import Mathlib.Tactic.NormNum
import Mathlib.Tactic.Positivity
import Mathlib.Tactic.Ring

namespace FlowDesk

@[simp] theorem twoTo_eq (exponent : Nat) : twoTo exponent = 2 ^ exponent := rfl

@[simp] theorem tenTo_eq (exponent : Nat) : tenTo exponent = 10 ^ exponent := rfl

namespace Binary64

/-! ## Quotients -/

/-- A power over a power is one of the difference of the exponents. -/
theorem zpow_toNat_div (base : ℚ) (exponent : Int) :
    base ^ exponent.toNat / base ^ (-exponent).toNat = base ^ exponent := by
  rcases Int.le_total 0 exponent with hsign | hsign
  · have hnone : (-exponent).toNat = 0 := by omega
    rw [hnone, pow_zero, div_one, ← zpow_natCast, Int.toNat_of_nonneg hsign]
  · have hnone : exponent.toNat = 0 := by omega
    rw [hnone, pow_zero, one_div, ← zpow_natCast, Int.toNat_of_nonneg (by omega), zpow_neg, inv_inv]

/-- The powers of the neighbourhoods are the powers of the rationals. -/
theorem power_eq (base : Nat) (exponent : Int) :
    power base exponent = (base : ℚ) ^ exponent := by
  rw [power, Rat.mkRat_eq_div, ← zpow_toNat_div]
  simp

/-- Scaling divides a quotient by a power of two. -/
theorem scaled_div (num den : Nat) (exponent : Int) :
    ((scaled num den exponent).1 : ℚ) / (scaled num den exponent).2 =
      (num : ℚ) / den / 2 ^ exponent := by
  rw [← zpow_toNat_div 2 exponent]
  simp only [scaled, twoTo_eq, Nat.cast_mul, Nat.cast_pow, Nat.cast_ofNat]
  field_simp

/-- A scaled denominator is not zero. -/
theorem scaled_pos {den : Nat} (hden : 0 < den) (num : Nat) (exponent : Int) :
    0 < (scaled num den exponent).2 := by
  simp only [scaled, twoTo_eq]
  positivity

/-- A quotient is rounded to the whole number around which it lies. -/
theorem roundHalfEven_eq {num den whole : Nat} (hden : 0 < den)
    (hlow : (whole : ℚ) - 1 / 2 ≤ (num : ℚ) / den) (hhigh : (num : ℚ) / den ≤ whole + 1 / 2)
    (hodd : whole % 2 = 1 →
      (whole : ℚ) - 1 / 2 < (num : ℚ) / den ∧ (num : ℚ) / den < whole + 1 / 2) :
    roundHalfEven num den = whole := by
  have hden' : (0 : ℚ) < den := by exact_mod_cast hden
  have hlow' : 2 * whole * den ≤ 2 * num + den := by
    rw [le_div_iff₀ hden'] at hlow
    have h : (2 * whole * den : ℚ) ≤ 2 * num + den := by linarith
    exact_mod_cast h
  have hhigh' : 2 * num ≤ 2 * whole * den + den := by
    rw [div_le_iff₀ hden'] at hhigh
    have h : (2 * num : ℚ) ≤ 2 * whole * den + den := by linarith
    exact_mod_cast h
  have hodd' : whole % 2 = 1 →
      2 * whole * den < 2 * num + den ∧ 2 * num < 2 * whole * den + den := by
    intro hwhole
    obtain ⟨hlow, hhigh⟩ := hodd hwhole
    rw [lt_div_iff₀ hden'] at hlow
    rw [div_lt_iff₀ hden'] at hhigh
    have h : (2 * whole * den : ℚ) < 2 * num + den := by linarith
    have h' : (2 * num : ℚ) < 2 * whole * den + den := by linarith
    exact ⟨by exact_mod_cast h, by exact_mod_cast h'⟩
  have hdiv := Nat.div_add_mod num den
  have hmod := Nat.mod_lt num hden
  unfold roundHalfEven
  generalize num / den = quotient at hdiv ⊢
  generalize num % den = rest at hdiv hmod ⊢
  subst hdiv
  have hle : whole ≤ quotient + 1 := by
    by_contra hlarge
    have hmul := Nat.mul_le_mul_right den (show quotient + 2 ≤ whole by omega)
    have hexpand : (quotient + 2) * den = den * quotient + 2 * den := by ring
    have hcomm : 2 * whole * den = 2 * (whole * den) := by ring
    omega
  have hge : quotient ≤ whole := by
    by_contra hsmall
    have hmul := Nat.mul_le_mul_right den (show whole + 1 ≤ quotient by omega)
    have hexpand : (whole + 1) * den = whole * den + den := by ring
    have hcomm : 2 * whole * den = 2 * (whole * den) := by ring
    have hcomm' : quotient * den = den * quotient := by ring
    omega
  rcases Nat.lt_or_eq_of_le hge with hbelow | hequal
  · have hnext : whole = quotient + 1 := by omega
    subst hnext
    have hexpand : 2 * (quotient + 1) * den = 2 * (den * quotient) + 2 * den := by ring
    rw [hexpand] at hlow' hodd'
    dsimp only
    rw [if_pos]
    by_cases htie : 2 * rest = den
    · refine .inr ⟨htie, ?_⟩
      by_contra heven
      have := (hodd' (by omega)).1
      omega
    · left
      omega
  · subst hequal
    have hexpand : 2 * quotient * den = 2 * (den * quotient) := by ring
    rw [hexpand] at hhigh' hodd'
    dsimp only
    rw [if_neg]
    rintro (hmore | ⟨htie, hquotient⟩)
    · omega
    · have := (hodd' hquotient).2
      omega

/-- The exponent at which a quotient is rounded is the least one, but not less
than that of the format, at which it has fewer than 54 binary digits. -/
theorem roundingExponent_spec {num den : Nat} (hnum : 0 < num) (hden : 0 < den) :
    (num : ℚ) / den < 2 ^ 53 * 2 ^ roundingExponent num den ∧
      -1074 ≤ roundingExponent num den ∧
      (roundingExponent num den = -1074 ∨
        2 ^ 52 * 2 ^ roundingExponent num den ≤ (num : ℚ) / den) := by
  have hden' : (0 : ℚ) < den := by exact_mod_cast hden
  have hnumLow : (2 : ℚ) ^ (num.log2 : Int) ≤ num := by
    exact_mod_cast Nat.log2_self_le (by omega)
  have hnumHigh : (num : ℚ) < 2 ^ ((num.log2 : Int) + 1) := by
    exact_mod_cast Nat.lt_log2_self (n := num)
  have hdenLow : (2 : ℚ) ^ (den.log2 : Int) ≤ den := by
    exact_mod_cast Nat.log2_self_le (by omega)
  have hdenHigh : (den : ℚ) < 2 ^ ((den.log2 : Int) + 1) := by
    exact_mod_cast Nat.lt_log2_self (n := den)
  obtain ⟨low, hlow⟩ : ∃ low : Int, (num.log2 : Int) - den.log2 - 53 = low := ⟨_, rfl⟩
  have htwo : ∀ n : Int, (0 : ℚ) < 2 ^ n := fun n => zpow_pos two_pos n
  have habove : (num : ℚ) / den < 2 ^ (low + 54) := by
    rw [div_lt_iff₀ hden']
    apply lt_of_lt_of_le hnumHigh
    have hsum : (2 : ℚ) ^ ((num.log2 : Int) + 1) = 2 ^ (low + 54) * 2 ^ (den.log2 : Int) := by
      rw [← zpow_add₀ two_ne_zero]
      congr 1
      omega
    rw [hsum]
    exact mul_le_mul_of_nonneg_left hdenLow (htwo _).le
  have hbelow : (2 : ℚ) ^ (low + 52) ≤ (num : ℚ) / den := by
    rw [le_div_iff₀ hden']
    refine le_trans ?_ hnumLow
    have hsum : (2 : ℚ) ^ (num.log2 : Int) = 2 ^ (low + 52) * 2 ^ ((den.log2 : Int) + 1) := by
      rw [← zpow_add₀ two_ne_zero]
      congr 1
      omega
    rw [hsum]
    exact mul_le_mul_of_nonneg_left hdenHigh.le (htwo _).le
  have hscaled := scaled_div num den low
  have hscaledPos := scaled_pos hden num low
  simp only [roundingExponent, hlow]
  generalize (scaled num den low).1 = n at hscaled ⊢
  generalize (scaled num den low).2 = d at hscaled hscaledPos ⊢
  have hd : (0 : ℚ) < d := by exact_mod_cast hscaledPos
  have hfits : n < d * twoTo 53 ↔ (num : ℚ) / den < 2 ^ 53 * 2 ^ low := by
    rw [twoTo_eq, ← div_lt_iff₀ (htwo low), ← hscaled, div_lt_iff₀ hd, mul_comm]
    exact_mod_cast Iff.rfl
  have hpow : ∀ k : Nat, ∀ e : Int, (2 : ℚ) ^ k * 2 ^ e = 2 ^ (e + k) := by
    intro k e
    rw [zpow_add₀ two_ne_zero, zpow_natCast, mul_comm]
  obtain ⟨free, hfree, hfreeAbove, hfreeBelow⟩ : ∃ free : Int,
      (if n < d * twoTo 53 then low else low + 1) = free ∧
        (num : ℚ) / den < 2 ^ 53 * 2 ^ free ∧ 2 ^ 52 * 2 ^ free ≤ (num : ℚ) / den := by
    by_cases hcase : n < d * twoTo 53
    · refine ⟨low, if_pos hcase, hfits.1 hcase, ?_⟩
      rw [hpow]
      exact_mod_cast hbelow
    · refine ⟨low + 1, if_neg hcase, ?_, ?_⟩
      · rw [hpow]
        have hsum : low + 1 + (53 : Nat) = low + 54 := by omega
        rw [hsum]
        exact habove
      · have hnot := not_lt.1 (mt hfits.2 hcase)
        rw [hpow] at hnot ⊢
        have hsum : low + 1 + (52 : Nat) = low + (53 : Nat) := by omega
        rwa [hsum]
  rw [hfree]
  rcases Int.le_total (-1074) free with hformat | hformat
  · rw [max_eq_left hformat]
    exact ⟨hfreeAbove, hformat, .inr hfreeBelow⟩
  · rw [max_eq_right hformat]
    refine ⟨lt_of_lt_of_le hfreeAbove ?_, le_refl _, .inl rfl⟩
    exact mul_le_mul_of_nonneg_left (zpow_le_zpow_right₀ one_le_two hformat) (by positivity)

/-! ## Neighbourhoods -/

/-- What a quotient in the neighbourhood of a number is worth in units of the
number's last binary digit: at most half a unit from the mantissa, less when the
mantissa is odd, and only a quarter below a power of two. -/
structure Near (mantissa : Nat) (exponent : Int) (q : ℚ) : Prop where
  low : (mantissa : ℚ) - 1 / 2 ≤ q / 2 ^ exponent
  high : q / 2 ^ exponent ≤ mantissa + 1 / 2
  odd : mantissa % 2 = 1 →
    (mantissa : ℚ) - 1 / 2 < q / 2 ^ exponent ∧ q / 2 ^ exponent < mantissa + 1 / 2
  least : mantissa = 2 ^ 52 → -1074 < exponent → (mantissa : ℚ) - 1 / 4 ≤ q / 2 ^ exponent

/-- The bounds of a neighbourhood in units of the last binary digit. -/
theorem neighbourhood_bounds {mantissa : Nat} (hmantissa : 0 < mantissa) (exponent : Int) :
    (neighbourhood mantissa exponent).value / 2 ^ exponent = mantissa ∧
      (neighbourhood mantissa exponent).low / 2 ^ exponent =
        mantissa - (if mantissa = 2 ^ 52 ∧ -1074 < exponent then 1 / 4 else 1 / 2) ∧
      (neighbourhood mantissa exponent).high / 2 ^ exponent = mantissa + 1 / 2 := by
  have hunit : (2 : ℚ) ^ exponent ≠ 0 := zpow_ne_zero _ two_ne_zero
  have hquarter : power 2 (exponent - 2) = (2 : ℚ) ^ exponent / 4 := by
    rw [power_eq, Nat.cast_ofNat, zpow_sub₀ two_ne_zero]
    norm_num
  simp only [neighbourhood, hquarter]
  refine ⟨?_, ?_, ?_⟩
  · push_cast
    field_simp
  · by_cases hpower : mantissa = 2 ^ 52 ∧ -1074 < exponent
    · have hshare : (if mantissa = twoTo 52 ∧ -1074 < exponent then 1 else 2) = 1 := if_pos hpower
      rw [hshare, if_pos hpower, Nat.cast_sub (by omega)]
      push_cast
      field_simp
    · have hshare : (if mantissa = twoTo 52 ∧ -1074 < exponent then 1 else 2) = 2 := if_neg hpower
      rw [hshare, if_neg hpower, Nat.cast_sub (by omega)]
      push_cast
      field_simp
      ring
  · push_cast
    field_simp
    ring

/-- A rational of the neighbourhood is near the number. -/
theorem near_of_contains {mantissa : Nat} (hmantissa : 0 < mantissa) {exponent : Int} {q : ℚ}
    (hcontains : (neighbourhood mantissa exponent).contains q = true) :
    Near mantissa exponent q := by
  obtain ⟨-, hlow, hhigh⟩ := neighbourhood_bounds hmantissa exponent
  have hunit : (0 : ℚ) < 2 ^ exponent := zpow_pos two_pos exponent
  have hshare : (if mantissa = 2 ^ 52 ∧ -1074 < exponent then (1 / 4 : ℚ) else 1 / 2) ≤ 1 / 2 := by
    split <;> norm_num
  have hclosed : (neighbourhood mantissa exponent).closed = decide (mantissa % 2 = 0) := rfl
  unfold Neighbourhood.contains at hcontains
  by_cases heven : mantissa % 2 = 0
  · rw [hclosed, decide_eq_true heven, if_pos rfl, Bool.and_eq_true, decide_eq_true_iff,
      decide_eq_true_iff] at hcontains
    have hlow' := div_le_div_of_nonneg_right hcontains.1 hunit.le
    have hhigh' := div_le_div_of_nonneg_right hcontains.2 hunit.le
    rw [hlow] at hlow'
    rw [hhigh] at hhigh'
    refine ⟨by linarith, hhigh', fun hodd => by omega, fun hpower hexponent => ?_⟩
    rwa [if_pos ⟨hpower, hexponent⟩] at hlow'
  · rw [hclosed, decide_eq_false heven, if_neg Bool.false_ne_true, Bool.and_eq_true,
      decide_eq_true_iff, decide_eq_true_iff] at hcontains
    have hlow' := div_lt_div_of_pos_right hcontains.1 hunit
    have hhigh' := div_lt_div_of_pos_right hcontains.2 hunit
    rw [hlow] at hlow'
    rw [hhigh] at hhigh'
    exact ⟨by linarith, hhigh'.le, fun _ => ⟨by linarith, hhigh'⟩, fun hpower => by omega⟩

/-- Half a unit around a positive mantissa there is no zero. -/
theorem Near.pos {mantissa : Nat} (hmantissa : 0 < mantissa) {exponent : Int} {q : ℚ}
    (hnear : Near mantissa exponent q) : 0 < q := by
  have hunit : (0 : ℚ) < 2 ^ exponent := zpow_pos two_pos exponent
  have hone : (1 : ℚ) ≤ mantissa := by exact_mod_cast hmantissa
  have hquotient : 0 < q / 2 ^ exponent := by linarith [hnear.low]
  exact (div_pos_iff_of_pos_right hunit).1 hquotient

/-- The exponent at which a quotient near a number is rounded is that of the
number.  Only just below a power of two it is the one before, and then the
quotient is rounded up to the power. -/
theorem roundingExponent_near {mantissa : Nat} {exponent : Int}
    (hcanonical : Canonical mantissa exponent) (hmantissa : 0 < mantissa) {num den : Nat}
    (hden : 0 < den) (hnear : Near mantissa exponent ((num : ℚ) / den)) :
    roundingExponent num den = exponent ∨
      (roundingExponent num den = exponent - 1 ∧ mantissa = 2 ^ 52 ∧ -1074 < exponent ∧
        (2 : ℚ) ^ 53 - 1 / 2 ≤ (num : ℚ) / den / 2 ^ (exponent - 1) ∧
        (num : ℚ) / den / 2 ^ (exponent - 1) ≤ 2 ^ 53) := by
  obtain ⟨hless, hformat, -, hfull⟩ := hcanonical
  rw [twoTo_eq] at hless hfull
  have hnum : 0 < num := by
    have hpos := hnear.pos hmantissa
    rcases Nat.eq_zero_or_pos num with rfl | hpos'
    · simp at hpos
    · exact hpos'
  obtain ⟨habove, hfloor, hbelow⟩ := roundingExponent_spec hnum hden
  generalize roundingExponent num den = rounding at habove hfloor hbelow ⊢
  generalize (num : ℚ) / den = q at hnear habove hbelow ⊢
  have hpow : ∀ n : Int, (0 : ℚ) < 2 ^ n := fun n => zpow_pos two_pos n
  have hmantissaLt : (mantissa : ℚ) + 1 ≤ 2 ^ 53 := by exact_mod_cast hless
  have hlow := (le_div_iff₀ (hpow exponent)).1 hnear.low
  have hhigh := (div_le_iff₀ (hpow exponent)).1 hnear.high
  rcases lt_trichotomy rounding exponent with hsmaller | hequal | hlarger
  · right
    have hnext : (2 : ℚ) ^ rounding ≤ 2 ^ (exponent - 1) :=
      zpow_le_zpow_right₀ one_le_two (by omega)
    have hhalf : (2 : ℚ) ^ (exponent - 1) = 2 ^ exponent / 2 := by
      rw [zpow_sub₀ two_ne_zero, zpow_one]
    have hq : q < 2 ^ 52 * 2 ^ exponent := by
      have := mul_le_mul_of_nonneg_left hnext (show (0 : ℚ) ≤ 2 ^ 53 by positivity)
      rw [hhalf] at this
      linarith
    have hfull' : 2 ^ 52 ≤ mantissa := hfull.resolve_right (by omega)
    have hpower : mantissa = 2 ^ 52 := by
      by_contra hne
      have hmore : (2 : ℚ) ^ 52 + 1 ≤ mantissa := by
        exact_mod_cast (show 2 ^ 52 + 1 ≤ mantissa by omega)
      have := mul_le_mul_of_nonneg_right
        (show (2 : ℚ) ^ 52 + 1 / 2 ≤ mantissa - 1 / 2 by linarith) (hpow exponent).le
      linarith [hpow exponent]
    have hleast := hnear.least hpower (by omega)
    rw [hpower, le_div_iff₀ (hpow exponent)] at hleast
    push_cast at hleast
    have hexact : rounding = exponent - 1 := by
      by_contra hne
      have hmore : (2 : ℚ) ^ rounding ≤ 2 ^ (exponent - 2) :=
        zpow_le_zpow_right₀ one_le_two (by omega)
      have hquarter : (2 : ℚ) ^ (exponent - 2) = 2 ^ exponent / 4 := by
        rw [zpow_sub₀ two_ne_zero]
        norm_num
      have := mul_le_mul_of_nonneg_left hmore (show (0 : ℚ) ≤ 2 ^ 53 by positivity)
      rw [hquarter] at this
      linarith [hpow exponent]
    refine ⟨hexact, hpower, by omega, ?_, ?_⟩
    · rw [le_div_iff₀ (hpow _), hhalf]
      linarith
    · rw [div_le_iff₀ (hpow _), hhalf]
      linarith
  · exact .inl hequal
  · have hbelow' := hbelow.resolve_left (by omega)
    have hnext : (2 : ℚ) ^ (exponent + 1) ≤ 2 ^ rounding :=
      zpow_le_zpow_right₀ one_le_two (by omega)
    have hdouble : (2 : ℚ) ^ (exponent + 1) = 2 ^ exponent * 2 := by
      rw [zpow_add₀ two_ne_zero, zpow_one]
    have := mul_le_mul_of_nonneg_left hnext (show (0 : ℚ) ≤ 2 ^ 52 by positivity)
    rw [hdouble] at this
    have hroom := mul_le_mul_of_nonneg_right
      (show (mantissa : ℚ) + 1 / 2 ≤ 2 ^ 53 - 1 / 2 by linarith) (hpow exponent).le
    linarith [hpow exponent]

/-- Parts in canonical shape are those of a number as they are. -/
theorem ofParts_eq (negative : Bool) {mantissa : Nat} {exponent : Int}
    (hcanonical : Canonical mantissa exponent) :
    ofParts negative mantissa exponent = .finite negative mantissa exponent hcanonical := by
  have hcarry : ¬ mantissa = twoTo 53 := Nat.ne_of_lt hcanonical.1
  simp only [ofParts, hcarry, if_false, dif_pos hcanonical]

/-- A full carry moves into the exponent. -/
theorem ofParts_carry (negative : Bool) {exponent : Int}
    (hcanonical : Canonical (2 ^ 52) (exponent + 1)) :
    ofParts negative (2 ^ 53) exponent = .finite negative (2 ^ 52) (exponent + 1) hcanonical := by
  simp only [ofParts, twoTo_eq, if_true, dif_pos hcanonical]

/-- A quotient near a number is rounded to it. -/
theorem roundRatio_eq (negative : Bool) {mantissa : Nat} {exponent : Int}
    (hcanonical : Canonical mantissa exponent) (hmantissa : 0 < mantissa) {num den : Nat}
    (hden : 0 < den) (hnear : Near mantissa exponent ((num : ℚ) / den)) :
    roundRatio negative num den = .finite negative mantissa exponent hcanonical := by
  have hnum : num ≠ 0 := by
    rintro rfl
    have hpos := hnear.pos hmantissa
    simp at hpos
  unfold roundRatio
  rw [if_neg hnum]
  dsimp only
  rcases roundingExponent_near hcanonical hmantissa hden hnear with
    hexponent | ⟨hexponent, hpower, hformat, hlow, hhigh⟩
  · have hround : roundHalfEven (scaled num den exponent).1 (scaled num den exponent).2 =
        mantissa := by
      refine roundHalfEven_eq (scaled_pos hden num exponent) ?_ ?_ ?_ <;> rw [scaled_div]
      · exact hnear.low
      · exact hnear.high
      · exact hnear.odd
    rw [hexponent, hround, ofParts_eq]
  · have hround : roundHalfEven (scaled num den (exponent - 1)).1
        (scaled num den (exponent - 1)).2 = 2 ^ 53 := by
      refine roundHalfEven_eq (scaled_pos hden num _) ?_ ?_ (fun hodd => by norm_num at hodd) <;>
        rw [scaled_div]
      · exact_mod_cast hlow
      · apply le_trans hhigh
        norm_num
    obtain ⟨before, rfl⟩ : ∃ before, exponent = before + 1 := ⟨exponent - 1, by omega⟩
    rw [Int.add_sub_cancel] at hexponent hround
    subst hpower
    rw [hexponent, hround, ofParts_carry]

end Binary64

end FlowDesk
