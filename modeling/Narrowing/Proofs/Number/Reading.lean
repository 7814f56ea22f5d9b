import Mathlib.Algebra.Order.Field.Power
import Mathlib.Tactic.FieldSimp
import Mathlib.Tactic.Linarith
import Mathlib.Tactic.Positivity
import Mathlib.Tactic.Ring
import Narrowing.Proofs.Number.Nearest
/-!
# What is read as a number

A decimal is read as the number that is nearest to it.  The decimals that are read as a given
magnitude are the ones between its ends, which is what the search for the shortest decimal looks
at.  Here the two are shown to agree: a quotient is rounded to a magnitude exactly if it lies
between the ends, and there is a number to round it to because it is not beyond the greatest end.

Exponents far out of range are settled without a computation.  They are settled rightly, as no
magnitude other than zero has an end out there.
-/

namespace Narrowing

namespace Magnitude

variable {numerator denominator : Nat}

/-! ### Rounded quotients lie between the ends -/

section

variable {m : Magnitude} {step quotient remainder : Nat}

/-- A multiple of the step is rounded down to, if at most half a step is left. -/
lemma covers_of_rounded_down (hstep : denominator * 2 ^ m.scale = step) (hpos : 0 < step)
    (hnumerator : step * m.significand + remainder = numerator) (hhalf : 2 * remainder ≤ step)
    (heven : 2 * remainder = step → m.significand % 2 = 0) : m.Covers numerator denominator := by
  obtain ⟨hone, htwo⟩ := m.below_bounds
  have hupper : m.upperUnits * denominator = 4 * (step * m.significand) + 2 * step := by
    rw [upperUnits, Nat.mul_assoc, Nat.mul_comm _ denominator, hstep, Nat.add_mul, Nat.mul_assoc,
      Nat.mul_comm step]
  have hlower : m.lowerUnits * denominator ≤ 4 * (step * m.significand) - step := by
    rw [lowerUnits, Nat.mul_assoc, Nat.mul_comm _ denominator, hstep, Nat.sub_mul, Nat.mul_assoc,
      Nat.mul_comm step]
    exact Nat.sub_le_sub_left (Nat.le_mul_of_pos_left step hone) _
  refine ⟨by omega, by omega, fun hodd => ?_⟩
  have hmul : step ≤ step * m.significand := Nat.le_mul_of_pos_right step (by omega)
  omega

/-- The next multiple is rounded up to, if at least half a step is left, and the steps below it
are not smaller. -/
lemma covers_of_rounded_up (hstep : denominator * 2 ^ m.scale = step) (hbelow : m.below = 2)
    (hsignificand : m.significand = quotient + 1) (hremainder : remainder < step)
    (hnumerator : step * quotient + remainder = numerator) (hhalf : step ≤ 2 * remainder)
    (heven : 2 * remainder = step → m.significand % 2 = 0) : m.Covers numerator denominator := by
  have hupper : m.upperUnits * denominator = 4 * (step * quotient) + 6 * step := by
    rw [upperUnits, Nat.mul_assoc, Nat.mul_comm _ denominator, hstep, hsignificand, Nat.mul_succ,
      Nat.add_assoc, Nat.add_mul, Nat.mul_assoc, Nat.mul_comm step]
  have hlower : m.lowerUnits * denominator = 4 * (step * quotient) + 2 * step := by
    have hfour : 4 * m.significand - m.below = 4 * quotient + 2 := by omega
    rw [lowerUnits, hfour, Nat.mul_assoc, Nat.mul_comm _ denominator, hstep, Nat.add_mul,
      Nat.mul_assoc, Nat.mul_comm step]
  exact ⟨by omega, by omega, fun hodd => by omega⟩

/-- A power of two is rounded up to from the scale below it. -/
lemma covers_of_rounded_full (hstep : denominator * 2 ^ m.scale = 2 * step)
    (hscale : m.scale ≠ 0) (hsignificand : m.significand = 2 ^ 52)
    (hquotient : quotient = 2 ^ 53 - 1) (hremainder : remainder < step)
    (hnumerator : step * quotient + remainder = numerator) (hhalf : step ≤ 2 * remainder) :
    m.Covers numerator denominator := by
  have hbelow : m.below = 1 := if_pos ⟨hsignificand, hscale⟩
  have hupper : m.upperUnits * denominator = (4 * 2 ^ 52 + 2) * (2 * step) := by
    rw [upperUnits, Nat.mul_assoc, Nat.mul_comm _ denominator, hstep, hsignificand]
  have hlower : m.lowerUnits * denominator = (4 * 2 ^ 52 - 1) * (2 * step) := by
    rw [lowerUnits, Nat.mul_assoc, Nat.mul_comm _ denominator, hstep, hsignificand, hbelow]
  rw [hquotient] at hnumerator
  exact ⟨by omega, by omega, fun hodd => by omega⟩

end

/-- A quotient that is rounded to a magnitude lies between the ends. -/
lemma covers_of_nearest? (hpos : 0 < denominator) {m : Magnitude}
    (h : nearest? numerator denominator = some m) : m.Covers numerator denominator := by
  have hdivision := Nat.div_add_mod numerator
    (denominator * 2 ^ gridScale numerator denominator)
  have hstep : 0 < denominator * 2 ^ gridScale numerator denominator :=
    Nat.mul_pos hpos (Nat.two_pow_pos _)
  have hremainder := Nat.mod_lt numerator hstep
  have hcases := rounded_cases numerator (denominator * 2 ^ gridScale numerator denominator)
  obtain ⟨hlt, hfull⟩ := quotient_bounds numerator denominator
  rw [nearest?_eq] at h
  generalize gridScale numerator denominator = scale at *
  generalize rounded numerator (denominator * 2 ^ scale) = multiple at *
  generalize numerator % (denominator * 2 ^ scale) = remainder at *
  generalize numerator / (denominator * 2 ^ scale) = quotient at *
  split at h
  · next hmultiple =>
    obtain ⟨hsignificand, hscale⟩ := ofParts?_eq_some_iff.1 h
    have hdouble : denominator * 2 ^ m.scale = 2 * (denominator * 2 ^ scale) := by
      rw [hscale, Nat.pow_succ, ← Nat.mul_assoc, Nat.mul_comm]
    rcases hcases with ⟨rfl, -, -⟩ | ⟨rfl, hhalf, -⟩
    · omega
    · exact covers_of_rounded_full hdouble (by omega) hsignificand (by omega) hremainder hdivision
        hhalf
  · next hmultiple =>
    obtain ⟨hsignificand, hscale⟩ := ofParts?_eq_some_iff.1 h
    rw [← hscale] at hstep hdivision hremainder hcases hfull
    rcases hcases with ⟨rfl, hhalf, heven⟩ | ⟨rfl, hhalf, heven⟩
    · rw [← hsignificand] at hdivision heven
      exact covers_of_rounded_down rfl hstep hdivision hhalf heven
    · have hbelow : m.below = 2 := by
        rcases m.below_cases with ⟨hone, hpower⟩ | ⟨htwo, -⟩
        · have hzero : ¬ (m.significand = Nat.pow 2 52 ∧ m.scale ≠ 0) := by
            rintro ⟨-, hne⟩
            have := hfull.resolve_left hne
            omega
          exact if_neg hzero
        · exact htwo
      rw [← hsignificand] at heven
      exact covers_of_rounded_up rfl hbelow hsignificand hremainder hdivision hhalf heven

/-! ### Quotients between the ends are rounded -/

lemma two_pow_scale_le (m : Magnitude) : 2 ^ m.scale ≤ 2 ^ 2045 := by
  have hpow {k : Nat} (hk : m.scale ≤ k) : 2 ^ m.scale ≤ 2 ^ k :=
    Nat.pow_le_pow_right (by decide) hk
  exact hpow m.scale_le

/-- Of the greatest magnitude the upper end is not read as it any more, and other magnitudes have
a smaller one. -/
lemma lt_of_covers (hpos : 0 < denominator) {m : Magnitude} (h : m.Covers numerator denominator) :
    4 * numerator < (2 ^ 55 - 2) * 2 ^ 2045 * denominator := by
  have hsignificand : m.significand < 2 ^ 53 := m.significand_lt
  have hscale := m.two_pow_scale_le
  have hupper := h.le_upper
  have htop : 0 < 2 ^ 2045 := by positivity
  generalize 2 ^ 2045 = top at *
  by_cases hodd : m.significand % 2 = 1
  · have hle : m.upperUnits ≤ (2 ^ 55 - 2) * top := Nat.mul_le_mul (by omega) hscale
    exact Nat.lt_of_lt_of_le (h.of_odd hodd).2 (Nat.mul_le_mul_right _ hle)
  · have hle : m.upperUnits ≤ (2 ^ 55 - 3) * top := Nat.mul_le_mul (by omega) hscale
    have hlt : (2 ^ 55 - 3) * top < (2 ^ 55 - 2) * top := by omega
    exact Nat.lt_of_le_of_lt hupper (Nat.mul_lt_mul_of_pos_right (Nat.lt_of_le_of_lt hle hlt) hpos)

/-- **A quotient is rounded to a magnitude exactly if it lies between the ends.** -/
theorem nearest?_eq_some_iff (hpos : 0 < denominator) {m : Magnitude} :
    nearest? numerator denominator = some m ↔ m.Covers numerator denominator := by
  refine ⟨covers_of_nearest? hpos, fun h => ?_⟩
  obtain ⟨n, hn⟩ := exists_nearest? (lt_of_covers hpos h)
  rw [hn, eq_of_covers hpos h (covers_of_nearest? hpos hn)]

/-! ### Quantities between the ends -/

/-- A quantity rounds to the magnitude, as a count of `10 ^ (-1074)`. -/
structure Rounds (m : Magnitude) (size : ℚ) : Prop where
  lower_le : (m.lowerEnd : ℚ) ≤ 4 * size
  le_upper : 4 * size ≤ m.upperEnd
  of_odd : m.significand % 2 = 1 → (m.lowerEnd : ℚ) < 4 * size ∧ 4 * size < m.upperEnd

variable {m : Magnitude}

/-- What lies between two quantities that round to a magnitude rounds to it. -/
lemma Rounds.between {x y z : ℚ} (hx : m.Rounds x) (hz : m.Rounds z) (hxy : x ≤ y) (hyz : y ≤ z) :
    m.Rounds y where
  lower_le := by linarith [hx.lower_le]
  le_upper := by linarith [hz.le_upper]
  of_odd hodd := ⟨by linarith [(hx.of_odd hodd).1], by linarith [(hz.of_odd hodd).2]⟩

lemma covers_iff_rounds (hpos : 0 < denominator) :
    m.Covers numerator denominator ↔
      m.Rounds ((numerator : ℚ) / denominator * (Nat.pow 5 1074 : ℕ)) := by
  have hden : (0 : ℚ) < denominator := by exact_mod_cast hpos
  have hsize (fives : ℚ) : 4 * ((numerator : ℚ) / denominator * fives) =
      4 * numerator / denominator * fives := by ring
  have hlower : (m.lowerEnd : ℚ) = m.lowerUnits * (Nat.pow 5 1074 : ℕ) := by
    rw [lowerEnd_eq, Nat.cast_mul]
  have hupper : (m.upperEnd : ℚ) = m.upperUnits * (Nat.pow 5 1074 : ℕ) := by
    rw [upperEnd_eq, Nat.cast_mul]
  have hfives : (0 : ℚ) < (Nat.pow 5 1074 : ℕ) := Nat.cast_pos.2 fives_pos
  generalize ((Nat.pow 5 1074 : ℕ) : ℚ) = fives at *
  have hle (end_ : ℕ) : (end_ : ℚ) * fives ≤ 4 * (numerator / denominator * fives) ↔
      end_ * denominator ≤ 4 * numerator := by
    rw [hsize, mul_le_mul_iff_of_pos_right hfives, le_div_iff₀ hden]
    exact_mod_cast Iff.rfl
  have hge (end_ : ℕ) : 4 * (numerator / denominator * fives) ≤ (end_ : ℚ) * fives ↔
      4 * numerator ≤ end_ * denominator := by
    rw [hsize, mul_le_mul_iff_of_pos_right hfives, div_le_iff₀ hden]
    exact_mod_cast Iff.rfl
  have hlt : (m.lowerEnd : ℚ) < 4 * (numerator / denominator * fives) ∧
      4 * (numerator / denominator * fives) < (m.upperEnd : ℚ) ↔
      m.lowerUnits * denominator < 4 * numerator ∧ 4 * numerator < m.upperUnits * denominator := by
    rw [← not_le, ← not_le, hlower, hupper, hge, hle, Nat.not_le, Nat.not_le]
  constructor
  · intro h
    refine ⟨?_, ?_, fun hodd => hlt.2 (h.of_odd hodd)⟩
    · rw [hlower, hle]
      exact h.lower_le
    · rw [hupper, hge]
      exact h.le_upper
  · intro h
    refine ⟨?_, ?_, fun hodd => hlt.1 (h.of_odd hodd)⟩
    · rw [← hle, ← hlower]
      exact h.lower_le
    · rw [← hge, ← hupper]
      exact h.le_upper

lemma isRounded_iff_rounds (count : ℕ) : m.isRounded count = true ↔ m.Rounds count := by
  have hfives : ((Nat.pow 5 1074 : ℕ) : ℚ) ≠ 0 := Nat.cast_ne_zero.2 (Nat.ne_of_gt fives_pos)
  rw [isRounded_iff_covers, covers_iff_rounds fives_pos, div_mul_cancel₀ _ hfives]

lemma tens_eq_mul : (10 : ℚ) ^ 1074 = Double.unitsPerOne * (Nat.pow 5 1074 : ℕ) := by
  have htens := tens_eq
  generalize 1074 = k at htens ⊢
  rw [← Nat.cast_mul, ← htens]
  exact (Nat.cast_pow 10 k).symm

lemma lowerEnd_ge (hm : m.significand ≠ 0) : 2 * Nat.pow 5 1074 ≤ m.lowerEnd := by
  have hbelow := m.below_bounds.2
  have hscale : 1 ≤ 2 ^ m.scale := Nat.one_le_two_pow
  have hlower : 2 * 1 ≤ m.lowerUnits := Nat.mul_le_mul (by omega) hscale
  rw [lowerEnd_eq]
  generalize Nat.pow 5 1074 = fives
  exact Nat.mul_le_mul_right fives hlower

lemma upperEnd_le (m : Magnitude) : m.upperEnd ≤ 2 ^ 55 * 2 ^ 2045 * Nat.pow 5 1074 := by
  have hsignificand : m.significand < 2 ^ 53 := m.significand_lt
  have hscale := m.two_pow_scale_le
  rw [upperEnd_eq, upperUnits]
  generalize Nat.pow 5 1074 = fives
  generalize 2 ^ 2045 = top at *
  exact Nat.mul_le_mul_right fives (Nat.mul_le_mul (by omega) hscale)

end Magnitude

/-! ### Decimals -/

namespace Decimal

/-- The quantity of a decimal. -/
def quantity (d : Decimal) : ℚ := d.coefficient * 10 ^ d.exponent

/-- The decimal as a count of `10 ^ (-1074)`, which need not be whole. -/
def size (d : Decimal) : ℚ := d.quantity * 10 ^ 1074

lemma size_eq (d : Decimal) : d.size = d.coefficient * 10 ^ (d.exponent + 1074) := by
  rw [size, quantity, mul_assoc, zpow_add₀ (by norm_num)]
  norm_cast

/-- The decimal is read as the magnitude. -/
def ReadsAs (d : Decimal) (m : Magnitude) : Prop :=
  Double.ofDecimal false d.coefficient d.exponent = .finite false m

end Decimal

namespace Double

variable {m : Magnitude}

lemma ofRatio_eq_finite_iff {numerator denominator : Nat} (hpos : 0 < denominator) :
    ofRatio false numerator denominator = .finite false m ↔
      m.Rounds ((numerator : ℚ) / denominator * 10 ^ 1074) := by
  have hsize : ((numerator * unitsPerOne : ℕ) : ℚ) / denominator * (Nat.pow 5 1074 : ℕ) =
      numerator / denominator * 10 ^ 1074 := by
    rw [Magnitude.tens_eq_mul, Nat.cast_mul]
    ring
  rw [← hsize, ← Magnitude.covers_iff_rounds hpos, ← Magnitude.nearest?_eq_some_iff hpos, ofRatio]
  cases Magnitude.nearest? (numerator * unitsPerOne) denominator <;> simp [ofMagnitude]

end Double

namespace Decimal

variable {d : Decimal} {m : Magnitude}

lemma ten_zpow_natCast (k : ℕ) : (10 : ℚ) ^ (k : ℤ) = (10 ^ k : ℕ) := by
  rw [zpow_natCast, Nat.cast_pow, Nat.cast_ofNat]

lemma ten_zpow_le {i j : ℤ} (h : i ≤ j) : (10 : ℚ) ^ i ≤ 10 ^ j :=
  zpow_le_zpow_right₀ (by norm_num) h

lemma ten_zpow_pos (i : ℤ) : (0 : ℚ) < 10 ^ i := by positivity

/-- Zero rounds to no other magnitude. -/
lemma not_rounds_of_coefficient_eq_zero (hm : m.significand ≠ 0) (h : d.coefficient = 0) :
    ¬ m.Rounds d.size := by
  intro hrounds
  have hlower : (0 : ℚ) < m.lowerEnd :=
    Nat.cast_pos.2 (Nat.lt_of_lt_of_le (Nat.mul_pos (by decide) Magnitude.fives_pos)
      (Magnitude.lowerEnd_ge hm))
  have hsize : d.size = 0 := by rw [size_eq, h, Nat.cast_zero, zero_mul]
  have hle := hrounds.lower_le
  rw [hsize, mul_zero] at hle
  exact absurd hle (not_le.2 hlower)

/-- A decimal with a large exponent is beyond all magnitudes. -/
lemma not_rounds_of_large (hpos : 0 < d.coefficient) (h : 400 < d.exponent) :
    ¬ m.Rounds d.size := by
  intro hrounds
  have hend : 2 ^ 55 * 2 ^ 2045 * Nat.pow 5 1074 < 10 ^ 1475 := by decide +kernel
  have hupper : (m.upperEnd : ℚ) < (10 ^ 1475 : ℕ) :=
    Nat.cast_lt.2 (Nat.lt_of_le_of_lt m.upperEnd_le hend)
  have hpower : (10 : ℚ) ^ ((1475 : ℕ) : ℤ) ≤ 10 ^ (d.exponent + 1074) := ten_zpow_le (by omega)
  have hcoefficient : (1 : ℚ) ≤ d.coefficient := by exact_mod_cast hpos
  have hsize : (10 : ℚ) ^ (d.exponent + 1074) ≤ d.size := by
    rw [size_eq]
    exact le_mul_of_one_le_left (ten_zpow_pos _).le hcoefficient
  have hle := hrounds.le_upper
  rw [ten_zpow_natCast] at hpower
  linarith [ten_zpow_pos (d.exponent + 1074)]

/-- A decimal with an exponent so small that its coefficient does not make up for it is nearer to
zero than to another magnitude. -/
lemma not_rounds_of_small (hm : m.significand ≠ 0)
    (h : d.coefficient.log2 + 1 + d.exponent < -400) : ¬ m.Rounds d.size := by
  intro hrounds
  have hend : 2 * 10 ^ 673 ≤ Nat.pow 5 1074 := by decide +kernel
  have hlower : ((2 * (2 * 10 ^ 673) : ℕ) : ℚ) ≤ m.lowerEnd :=
    Nat.cast_le.2 (Nat.le_trans (Nat.mul_le_mul_left 2 hend) (Magnitude.lowerEnd_ge hm))
  have hcoefficient : d.coefficient < 10 ^ (d.coefficient.log2 + 1) :=
    Nat.lt_of_lt_of_le Nat.lt_log2_self (Nat.pow_le_pow_left (by decide) _)
  have hsize : d.size < 10 ^ ((673 : ℕ) : ℤ) := by
    calc d.size = d.coefficient * 10 ^ (d.exponent + 1074) := d.size_eq
      _ < 10 ^ ((d.coefficient.log2 + 1 : ℕ) : ℤ) * 10 ^ (d.exponent + 1074) := by
          rw [ten_zpow_natCast]
          exact mul_lt_mul_of_pos_right (Nat.cast_lt.2 hcoefficient) (ten_zpow_pos _)
      _ = 10 ^ (((d.coefficient.log2 + 1 : ℕ) : ℤ) + (d.exponent + 1074)) :=
          (zpow_add₀ (by norm_num) _ _).symm
      _ ≤ 10 ^ ((673 : ℕ) : ℤ) := ten_zpow_le (by omega)
  have hle := hrounds.lower_le
  rw [ten_zpow_natCast] at hsize
  rw [Nat.cast_mul, Nat.cast_mul, Nat.cast_ofNat] at hlower
  linarith

/-- **A decimal is read as a magnitude other than zero exactly if it lies between its ends.** -/
theorem readsAs_iff (hm : m.significand ≠ 0) : d.ReadsAs m ↔ m.Rounds d.size := by
  have hzero : ¬ (Double.finite false .zero = .finite false m) := by
    rintro h
    rw [← (Double.finite.inj h).2] at hm
    exact hm rfl
  unfold ReadsAs Double.ofDecimal
  split
  · next hcoefficient =>
    exact iff_of_false hzero (not_rounds_of_coefficient_eq_zero hm hcoefficient)
  next hcoefficient =>
  have hpos : 0 < d.coefficient := Nat.pos_of_ne_zero hcoefficient
  split
  · next hlarge => exact iff_of_false Double.noConfusion (not_rounds_of_large hpos hlarge)
  split
  · next hsmall => exact iff_of_false hzero (not_rounds_of_small hm hsmall)
  split
  · next hsign =>
    have hexponent : ((d.exponent.toNat : ℕ) : ℤ) = d.exponent := Int.toNat_of_nonneg hsign
    have hquantity : ((d.coefficient * 10 ^ d.exponent.toNat : ℕ) : ℚ) / (1 : ℕ) = d.quantity := by
      rw [quantity, ← hexponent, ten_zpow_natCast, Nat.cast_mul, Nat.cast_one, div_one,
        Int.toNat_natCast]
    rw [size, ← hquantity]
    exact Double.ofRatio_eq_finite_iff Nat.one_pos
  · next hsign =>
    have hexponent : d.exponent = -(((-d.exponent).toNat : ℕ) : ℤ) := by omega
    have hquantity : (d.coefficient : ℚ) / (10 ^ (-d.exponent).toNat : ℕ) = d.quantity := by
      rw [quantity, hexponent, zpow_neg, ten_zpow_natCast, div_eq_mul_inv, neg_neg,
        Int.toNat_natCast]
    rw [size, ← hquantity]
    exact Double.ofRatio_eq_finite_iff (Nat.pow_pos (by decide))

end Decimal

end Narrowing
