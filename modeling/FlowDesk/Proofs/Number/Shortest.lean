/-
# The shortest decimal is near

The decimal with which a number is written lies in the number's neighbourhood
(`shortest_near`): whichever of the grids it is found on, only a decimal of the
neighbourhood is taken, and the grid with seventeen digits is fine enough to hold
one.  A decimal in the neighbourhood of a number is read as that number, in
whatever way its digits are spread over fraction and exponent (`ofDecimal_eq`).
-/

import FlowDesk.Proofs.Number.Rounding
import Mathlib.Data.List.TakeWhile

namespace FlowDesk

/-! ## Decimal digits -/

/-- The digits of a positive whole number do not start with a zero. -/
theorem head?_toDigits_ne {n : Nat} (hn : 0 < n) : (Nat.toDigits 10 n).head? ≠ some '0' := by
  induction n using Nat.strongRecOn with
  | ind n ih =>
    rw [Nat.toDigits_eq_if (by decide)]
    split
    · intro hhead
      simp only [List.head?_cons, Option.some.injEq, Nat.digitChar_eq_zero] at hhead
      omega
    · rename_i hlarge
      have hdiv : 0 < n / 10 := Nat.div_pos (by omega) (by decide)
      obtain ⟨first, rest, hdigits⟩ := List.exists_cons_of_ne_nil
        (Nat.toDigits_ne_nil (n := n / 10) (b := 10))
      have hhead := ih (n / 10) (Nat.div_lt_self hn (by decide)) hdiv
      rw [hdigits] at hhead ⊢
      exact hhead

/-- The number of digits of a positive whole number tells its size. -/
theorem toDigits_length_bounds {n : Nat} (hn : 0 < n) :
    (10 : ℚ) ^ ((Nat.toDigits 10 n).length - 1 : Int) ≤ n ∧
      (n : ℚ) < 10 ^ ((Nat.toDigits 10 n).length : Int) := by
  obtain ⟨length, hlength⟩ : ∃ length, (Nat.toDigits 10 n).length = length + 1 :=
    ⟨(Nat.toDigits 10 n).length - 1, by have := Nat.length_toDigits_pos (b := 10) (n := n); omega⟩
  have habove : n < 10 ^ (length + 1) :=
    (Nat.length_toDigits_le_iff (by decide) (by omega)).1 hlength.le
  have hbelow : 10 ^ length ≤ n := by
    by_contra hsmall
    rcases Nat.eq_zero_or_pos length with rfl | hpos
    · omega
    · have := (Nat.length_toDigits_le_iff (b := 10) (n := n) (by decide) hpos).2 (by omega)
      omega
  rw [hlength]
  constructor
  · have hexponent : ((length + 1 : Nat) : Int) - 1 = (length : Int) := by omega
    rw [hexponent, zpow_natCast]
    exact_mod_cast hbelow
  · rw [zpow_natCast]
    exact_mod_cast habove

namespace Decimal

/-- The rational that a decimal stands for. -/
def value (d : Decimal) : ℚ :=
  (Nat.ofDigitChars 10 d.digits 0 : ℚ) * 10 ^ (d.point - d.digits.length)

/-- A decimal is written with digits, the first of which counts. -/
structure WellWritten (d : Decimal) : Prop where
  digits : ∀ c ∈ d.digits, c.isDigit = true
  nonempty : d.digits ≠ []
  head : d.digits.head? ≠ some '0'

/-- Cutting off the zeros at the end of some digits leaves the zeros to be put
back. -/
theorem exists_trailing (digits : List Char) :
    ∃ zeros, digits = (digits.reverse.dropWhile (· = '0')).reverse ++ List.replicate zeros '0' := by
  have hsplit := List.takeWhile_append_dropWhile (p := fun c : Char => decide (c = '0'))
    (l := digits.reverse)
  have hzeros : ∀ c ∈ digits.reverse.takeWhile (fun c : Char => decide (c = '0')), c = '0' :=
    fun c hc => by simpa using List.mem_takeWhile_imp hc
  refine ⟨(digits.reverse.takeWhile (fun c : Char => decide (c = '0'))).length, ?_⟩
  rw [← List.eq_replicate_of_mem hzeros]
  have hreverse := congrArg List.reverse hsplit
  rw [List.reverse_append, List.reverse_reverse] at hreverse
  have hpalindrome := List.eq_replicate_of_mem hzeros
  rw [hpalindrome, List.reverse_replicate] at hreverse
  rw [hpalindrome]
  exact hreverse.symm

/-- The digits of a whole number of units are well written and worth the
number. -/
theorem ofUnits_spec {count : Nat} (hcount : 0 < count) (unit : Int) :
    (ofUnits count unit).WellWritten ∧ (ofUnits count unit).value = (count : ℚ) * 10 ^ unit := by
  obtain ⟨zeros, hzeros⟩ := exists_trailing (Nat.toDigits 10 count)
  have hvalue := Nat.ofDigitChars_ten_toDigits (n := count)
  have hhead := head?_toDigits_ne hcount
  have hdigits : ∀ c ∈ Nat.toDigits 10 count, c.isDigit = true := fun c hc =>
    Nat.isDigit_of_mem_toDigits (by decide) (by decide) hc
  have hlength : (ofUnits count unit).point =
      ((Nat.toDigits 10 count).reverse.dropWhile (· = '0')).reverse.length + zeros + unit := by
    have h := congrArg List.length hzeros
    rw [List.length_append, List.length_replicate] at h
    simp only [ofUnits]
    omega
  have hkept : (ofUnits count unit).digits =
      ((Nat.toDigits 10 count).reverse.dropWhile (· = '0')).reverse := rfl
  rw [← hkept] at hzeros hlength
  rw [hzeros] at hvalue hhead hdigits
  rw [Nat.ofDigitChars_append, Nat.ofDigitChars_replicate_zero] at hvalue
  have hnonempty : (ofUnits count unit).digits ≠ [] := by
    intro hnil
    rw [hnil, Nat.ofDigitChars_nil, Nat.mul_zero] at hvalue
    omega
  refine ⟨⟨fun c hc => hdigits c (List.mem_append_left _ hc), hnonempty, ?_⟩, ?_⟩
  · rwa [List.head?_append_of_ne_nil _ hnonempty] at hhead
  · have hexponent : (ofUnits count unit).point - (ofUnits count unit).digits.length =
        zeros + unit := by omega
    have hcast : (10 : ℚ) ^ zeros * Nat.ofDigitChars 10 (ofUnits count unit).digits 0 = count := by
      exact_mod_cast hvalue
    rw [value, hexponent, zpow_add₀ (by norm_num), zpow_natCast, ← hcast]
    ring

end Decimal

namespace Binary64

/-! ## Grids -/

/-- What a grid yields is in the neighbourhood. -/
theorem contains_of_onGrid {near : Neighbourhood} {unit : Int} {count : Nat}
    (hgrid : near.onGrid unit = some count) :
    near.contains ((count : ℚ) * power 10 unit) = true := by
  unfold Neighbourhood.onGrid at hgrid
  dsimp only at hgrid
  split at hgrid
  · cases hgrid
  · rename_i hlower _
    cases hgrid
    exact hlower
  · rename_i _ hupper
    cases hgrid
    exact hupper
  · rename_i hlower hupper
    split at hgrid
    · cases hgrid
      exact hlower
    · split at hgrid
      · cases hgrid
        exact hupper
      · split at hgrid
        · cases hgrid
          exact hlower
        · cases hgrid
          exact hupper

/-- A grid yields something when one of the two neighbours of the number does
lie in the neighbourhood. -/
theorem exists_onGrid {near : Neighbourhood} {unit : Int}
    (hneighbour : near.contains (((near.value / power 10 unit).floor.toNat : ℚ) * power 10 unit) =
        true ∨
      near.contains ((((near.value / power 10 unit).floor.toNat + 1 : Nat) : ℚ) * power 10 unit) =
        true) :
    ∃ count, near.onGrid unit = some count := by
  unfold Neighbourhood.onGrid
  dsimp only
  split
  · rename_i hlower hupper
    rw [hlower, hupper] at hneighbour
    simp at hneighbour
  · exact ⟨_, rfl⟩
  · exact ⟨_, rfl⟩
  · split
    · exact ⟨_, rfl⟩
    · split
      · exact ⟨_, rfl⟩
      · split <;> exact ⟨_, rfl⟩

/-- A quotient has at least as many digits before its point as its decimal size
says. -/
theorem decimalSize_le {num den : Nat} (hnum : 0 < num) (hden : 0 < den) :
    (10 : ℚ) ^ (decimalSize num den - 1) ≤ (num : ℚ) / den := by
  obtain ⟨hnumLow, -⟩ := toDigits_length_bounds hnum
  obtain ⟨-, hdenHigh⟩ := toDigits_length_bounds hden
  have hden' : (0 : ℚ) < den := by exact_mod_cast hden
  have hten : ∀ n : Int, (0 : ℚ) < 10 ^ n := fun n => zpow_pos (by norm_num) n
  unfold decimalSize
  generalize ((Nat.toDigits 10 num).length : Int) = numLength at hnumLow ⊢
  generalize ((Nat.toDigits 10 den).length : Int) = denLength at hdenHigh ⊢
  obtain ⟨guess, hguess⟩ : ∃ guess, numLength - denLength = guess := ⟨_, rfl⟩
  simp only [hguess, tenTo_eq]
  split
  · rw [le_div_iff₀ hden']
    refine le_trans ?_ hnumLow
    have hsum : (10 : ℚ) ^ (numLength - 1) = 10 ^ (guess - 1) * 10 ^ denLength := by
      rw [← zpow_add₀ (by norm_num)]
      congr 1
      omega
    rw [hsum]
    exact mul_le_mul_of_nonneg_left hdenHigh.le (hten _).le
  · rename_i hlarge
    rw [Int.add_sub_cancel, ← zpow_toNat_div 10 guess, div_le_div_iff₀ (by positivity) hden']
    rw [mul_comm]
    exact_mod_cast not_lt.1 hlarge

/-- What lies strictly within half a unit of a number, or within a quarter below
a power of two, is in its neighbourhood. -/
theorem contains_of_bounds {mantissa : Nat} (hmantissa : 0 < mantissa) {exponent : Int} {q : ℚ}
    (hlow : (mantissa : ℚ) - (if mantissa = 2 ^ 52 ∧ -1074 < exponent then 1 / 4 else 1 / 2) <
      q / 2 ^ exponent) (hhigh : q / 2 ^ exponent < mantissa + 1 / 2) :
    (neighbourhood mantissa exponent).contains q = true := by
  obtain ⟨-, hlowBound, hhighBound⟩ := neighbourhood_bounds hmantissa exponent
  have hunit : (0 : ℚ) < 2 ^ exponent := zpow_pos two_pos exponent
  rw [← hlowBound, div_lt_div_iff_of_pos_right hunit] at hlow
  rw [← hhighBound, div_lt_div_iff_of_pos_right hunit] at hhigh
  unfold Neighbourhood.contains
  split
  · rw [Bool.and_eq_true, decide_eq_true_iff, decide_eq_true_iff]
    exact ⟨hlow.le, hhigh.le⟩
  · rw [Bool.and_eq_true, decide_eq_true_iff, decide_eq_true_iff]
    exact ⟨hlow, hhigh⟩

/-- The value of a number, as a quotient and as the middle of its
neighbourhood. -/
theorem value_eq {mantissa : Nat} (hmantissa : 0 < mantissa) (exponent : Int) :
    (neighbourhood mantissa exponent).value = (mantissa : ℚ) * 2 ^ exponent ∧
      ((mantissa * twoTo exponent.toNat : Nat) : ℚ) / (twoTo (-exponent).toNat : Nat) =
        (mantissa : ℚ) * 2 ^ exponent := by
  obtain ⟨hvalue, -, -⟩ := neighbourhood_bounds hmantissa exponent
  have hunit : (2 : ℚ) ^ exponent ≠ 0 := zpow_ne_zero _ two_ne_zero
  refine ⟨(div_eq_iff hunit).1 hvalue, ?_⟩
  rw [← zpow_toNat_div 2 exponent]
  simp only [twoTo_eq, Nat.cast_mul, Nat.cast_pow, Nat.cast_ofNat]
  rw [mul_div_assoc]

/-- The grid with seventeen digits is fine enough for every number. -/
theorem exists_onGrid_seventeen {mantissa : Nat} {exponent : Int} (hmantissa : 0 < mantissa)
    (hless : mantissa < 2 ^ 53) {size : Int}
    (hsize : (10 : ℚ) ^ (size - 1) ≤ (mantissa : ℚ) * 2 ^ exponent) :
    ∃ count, (neighbourhood mantissa exponent).onGrid (size - 17) = some count := by
  have hunit : (0 : ℚ) < 2 ^ exponent := zpow_pos two_pos exponent
  have hscale : (0 : ℚ) < 10 ^ (size - 17) := zpow_pos (by norm_num) _
  obtain ⟨hvalue, -⟩ := value_eq hmantissa exponent
  apply exists_onGrid
  rw [hvalue, power_eq, Nat.cast_ofNat]
  have hnonneg : 0 ≤ (mantissa : ℚ) * 2 ^ exponent / 10 ^ (size - 17) := by positivity
  have hfloor : (((mantissa : ℚ) * 2 ^ exponent / 10 ^ (size - 17)).floor.toNat : ℚ) =
      ⌊(mantissa : ℚ) * 2 ^ exponent / 10 ^ (size - 17)⌋ := by
    have hfloorNonneg := Int.floor_nonneg.2 hnonneg
    exact_mod_cast congrArg (Int.cast (R := ℚ)) (Int.toNat_of_nonneg hfloorNonneg)
  have hfloorLe := Int.floor_le ((mantissa : ℚ) * 2 ^ exponent / 10 ^ (size - 17))
  have hltFloor := Int.lt_floor_add_one ((mantissa : ℚ) * 2 ^ exponent / 10 ^ (size - 17))
  rw [Nat.cast_add, Nat.cast_one, hfloor]
  generalize (⌊(mantissa : ℚ) * 2 ^ exponent / 10 ^ (size - 17)⌋ : ℚ) = count at *
  rw [le_div_iff₀ hscale] at hfloorLe
  rw [div_lt_iff₀ hscale] at hltFloor
  have hfine : (10 : ℚ) ^ 16 * 10 ^ (size - 17) ≤ (mantissa : ℚ) * 2 ^ exponent := by
    rw [← zpow_natCast, ← zpow_add₀ (by norm_num)]
    have hsum : ((16 : Nat) : Int) + (size - 17) = size - 1 := by omega
    rwa [hsum]
  obtain ⟨spacing, hspacing⟩ : ∃ spacing : ℚ, 10 ^ (size - 17) / 2 ^ exponent = spacing := ⟨_, rfl⟩
  have hspacing' : (10 : ℚ) ^ (size - 17) = spacing * 2 ^ exponent := by
    rw [← hspacing, div_mul_cancel₀ _ hunit.ne']
  rw [hspacing'] at hfloorLe hltFloor hfine ⊢
  have hlower : count * spacing ≤ mantissa := by
    refine le_of_mul_le_mul_right ?_ hunit
    linarith
  have hupper : (mantissa : ℚ) < (count + 1) * spacing := by
    refine lt_of_mul_lt_mul_right ?_ hunit.le
    linarith
  have hsmall : 10 ^ 16 * spacing ≤ (mantissa : ℚ) := by
    refine le_of_mul_le_mul_right ?_ hunit
    linarith
  have hmantissaLt : (mantissa : ℚ) < 2 ^ 53 := by exact_mod_cast hless
  have hdivide : ∀ n : ℚ, n * (spacing * 2 ^ exponent) / 2 ^ exponent = n * spacing := by
    intro n
    field_simp
  by_cases hpower : mantissa = 2 ^ 52 ∧ -1074 < exponent
  · refine .inr (contains_of_bounds hmantissa ?_ ?_) <;> rw [hdivide]
    · rw [if_pos hpower]
      linarith
    · have hexact : (mantissa : ℚ) = 2 ^ 52 := by exact_mod_cast hpower.1
      linarith
  · by_cases hclose : (mantissa : ℚ) - 1 / 2 < count * spacing
    · refine .inl (contains_of_bounds hmantissa ?_ ?_) <;> rw [hdivide]
      · rwa [if_neg hpower]
      · linarith
    · refine .inr (contains_of_bounds hmantissa ?_ ?_) <;> rw [hdivide]
      · rw [if_neg hpower]
        linarith
      · linarith

/-- The shortest decimal of a number is worth a rational near it. -/
theorem shortest_near {mantissa : Nat} {exponent : Int} (hmantissa : 0 < mantissa)
    (hless : mantissa < 2 ^ 53) :
    (shortest mantissa exponent).WellWritten ∧
      Near mantissa exponent (shortest mantissa exponent).value := by
  have hunits : ∀ {unit : Int} {count : Nat},
      (neighbourhood mantissa exponent).onGrid unit = some count →
        (Decimal.ofUnits count unit).WellWritten ∧
          Near mantissa exponent (Decimal.ofUnits count unit).value := by
    intro unit count hgrid
    have hnear := near_of_contains hmantissa (contains_of_onGrid hgrid)
    rw [power_eq, Nat.cast_ofNat] at hnear
    have hcount : 0 < count := by
      rcases Nat.eq_zero_or_pos count with rfl | hpos
      · simpa using hnear.pos hmantissa
      · exact hpos
    obtain ⟨hwritten, hvalue⟩ := Decimal.ofUnits_spec hcount unit
    exact ⟨hwritten, hvalue.symm ▸ hnear⟩
  unfold shortest
  dsimp only
  obtain ⟨size, hsize⟩ : ∃ size, decimalSize (mantissa * twoTo exponent.toNat)
      (twoTo (-exponent).toNat) = size := ⟨_, rfl⟩
  have hexists : ∃ count, (neighbourhood mantissa exponent).onGrid (size - 17) = some count := by
    apply exists_onGrid_seventeen hmantissa hless
    have hnum : 0 < mantissa * twoTo exponent.toNat := by
      rw [twoTo_eq]
      positivity
    have hden : 0 < twoTo (-exponent).toNat := by
      rw [twoTo_eq]
      positivity
    have hle := decimalSize_le hnum hden
    rwa [hsize, (value_eq hmantissa exponent).2] at hle
  rw [hsize]
  cases hfound : (List.range 17).findSome? fun shorter =>
      ((neighbourhood mantissa exponent).onGrid (size - (shorter + 1 : Nat))).map fun count =>
        Decimal.ofUnits count (size - (shorter + 1 : Nat)) with
  | none =>
    obtain ⟨count, hcount⟩ := hexists
    have hnone := List.findSome?_eq_none_iff.1 hfound 16 (by decide)
    have hseventeen : size - ((16 + 1 : Nat) : Int) = size - 17 := rfl
    rw [hseventeen, hcount] at hnone
    cases hnone
  | some found =>
    obtain ⟨shorter, -, hshorter⟩ := List.exists_of_findSome?_eq_some hfound
    obtain ⟨count, hgrid, rfl⟩ := Option.map_eq_some_iff.1 hshorter
    exact hunits hgrid

/-! ## Reading a decimal -/

/-- Ten to the four hundredth is out of reach of all numbers. -/
theorem Near.bounds {mantissa : Nat} {exponent : Int} {q : ℚ} (hnear : Near mantissa exponent q)
    (hcanonical : Canonical mantissa exponent) (hmantissa : 0 < mantissa) :
    (10 : ℚ) ^ (-400 : Int) < q ∧ q < 10 ^ (399 : Int) := by
  obtain ⟨hless, hleast, hgreatest, -⟩ := hcanonical
  have hunit : (0 : ℚ) < 2 ^ exponent := zpow_pos two_pos exponent
  have hlow := (le_div_iff₀ hunit).1 hnear.low
  have hhigh := (div_le_iff₀ hunit).1 hnear.high
  have hone : (1 : ℚ) ≤ mantissa := by exact_mod_cast hmantissa
  have hmantissaLt : (mantissa : ℚ) + 1 ≤ 2 ^ 53 := by exact_mod_cast hless
  have hsmallest : (2 : ℚ) ^ (-1074 : Int) ≤ 2 ^ exponent :=
    zpow_le_zpow_right₀ one_le_two hleast
  have hlargest : (2 : ℚ) ^ exponent ≤ 2 ^ (971 : Int) := zpow_le_zpow_right₀ one_le_two hgreatest
  constructor
  · have hhalf : 1 / 2 * (2 : ℚ) ^ exponent ≤ q :=
      le_trans (mul_le_mul_of_nonneg_right (by linarith) hunit.le) hlow
    refine lt_of_lt_of_le ?_ (le_trans (mul_le_mul_of_nonneg_left hsmallest (by norm_num)) hhalf)
    have hhalve : 1 / 2 * (2 : ℚ) ^ (-1074 : Int) = (2 ^ 1075)⁻¹ := by
      rw [zpow_neg, one_div, ← mul_inv, pow_succ', zpow_ofNat]
    rw [hhalve, zpow_neg, zpow_ofNat]
    apply inv_strictAnti₀ (by positivity)
    have hblocks : ((2 : ℚ) ^ 43) ^ 25 < (10 ^ 16) ^ 25 :=
      pow_lt_pow_left₀ (by norm_num) (by positivity) (by decide)
    rwa [← pow_mul, ← pow_mul] at hblocks
  · have hq : q ≤ 2 ^ 53 * 2 ^ exponent :=
      le_trans hhigh (mul_le_mul_of_nonneg_right (by linarith) hunit.le)
    apply lt_of_le_of_lt (le_trans hq (mul_le_mul_of_nonneg_left hlargest (by positivity)))
    rw [zpow_ofNat, zpow_ofNat, ← pow_add]
    have hblocks : ((2 : ℚ) ^ 64) ^ 16 < (10 ^ 24) ^ 16 :=
      pow_lt_pow_left₀ (by norm_num) (by positivity) (by decide)
    rw [← pow_mul, ← pow_mul] at hblocks
    exact lt_of_lt_of_le hblocks (pow_le_pow_right₀ (by norm_num) (by decide))

/-- A decimal that is worth a rational near a number is read as that number. -/
theorem ofDecimal_eq (negative : Bool) {mantissa : Nat} {exponent : Int}
    (hcanonical : Canonical mantissa exponent) (hmantissa : 0 < mantissa) {digits : Nat}
    {scale : Int} (hnear : Near mantissa exponent ((digits : ℚ) * 10 ^ scale)) :
    ofDecimal negative digits scale = .finite negative mantissa exponent hcanonical := by
  have hten : ∀ n : Int, (0 : ℚ) < 10 ^ n := fun n => zpow_pos (by norm_num) n
  have hdigits : 0 < digits := by
    rcases Nat.eq_zero_or_pos digits with rfl | hpos
    · simpa using hnear.pos hmantissa
    · exact hpos
  obtain ⟨hbelow, habove⟩ := hnear.bounds hcanonical hmantissa
  obtain ⟨hlengthLow, hlengthHigh⟩ := toDigits_length_bounds hdigits
  have hsizeHigh : ¬ (400 : Int) < (Nat.toDigits 10 digits).length + scale := by
    intro hlarge
    have hmul := mul_le_mul_of_nonneg_right hlengthLow (hten scale).le
    rw [← zpow_add₀ (by norm_num)] at hmul
    have hpow : (10 : ℚ) ^ (399 : Int) ≤ 10 ^ ((Nat.toDigits 10 digits).length - 1 + scale) :=
      zpow_le_zpow_right₀ (by norm_num) (by omega)
    linarith
  have hsizeLow : ¬ ((Nat.toDigits 10 digits).length + scale : Int) < -400 := by
    intro hsmall
    have hmul := mul_lt_mul_of_pos_right hlengthHigh (hten scale)
    rw [← zpow_add₀ (by norm_num)] at hmul
    have hpow : (10 : ℚ) ^ ((Nat.toDigits 10 digits).length + scale) ≤ 10 ^ (-400 : Int) :=
      zpow_le_zpow_right₀ (by norm_num) (by omega)
    linarith
  have hquotient : ((digits * tenTo scale.toNat : Nat) : ℚ) / (tenTo (-scale).toNat : Nat) =
      (digits : ℚ) * 10 ^ scale := by
    rw [← zpow_toNat_div 10 scale]
    simp only [tenTo_eq, Nat.cast_mul, Nat.cast_pow, Nat.cast_ofNat]
    rw [mul_div_assoc]
  unfold ofDecimal
  rw [if_neg (by omega)]
  dsimp only
  rw [if_neg hsizeHigh, if_neg hsizeLow]
  refine roundRatio_eq negative hcanonical hmantissa ?_ (hquotient ▸ hnear)
  simp only [tenTo_eq]
  positivity

end Binary64

end FlowDesk
