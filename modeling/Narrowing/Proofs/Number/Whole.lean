import Mathlib.Tactic.Lemma
import Mathlib.Algebra.Group.Nat.Defs
import Narrowing.Number.Double
/-!
# Whole numbers

A whole number below `2 ^ 53` is a double precision number as it stands: it is a whole count of
units whose significand has at most 53 bits.  Rounding gives back every magnitude, so such a
number is not rounded, and it is the whole number that it was.
-/

namespace Narrowing

namespace Magnitude

lemma units_eq (m : Magnitude) : m.units = m.significand * 2 ^ m.scale := rfl

/-- The scale of a magnitude is read off the length of its units. -/
lemma log2_units_sub (m : Magnitude) : m.units.log2 - 52 = m.scale := by
  rw [units_eq]
  rcases m.normal with hscale | hfull
  · -- an unscaled significand has at most 53 bits
    rw [hscale, Nat.pow_zero, Nat.mul_one]
    rcases Nat.eq_zero_or_pos m.significand with hzero | hpos
    · rw [hzero, Nat.log2_zero]
    · have hlog : m.significand.log2 < 53 :=
        (Nat.log2_lt (Nat.ne_of_gt hpos)).2 m.significand_lt
      omega
  · -- a scaled one has exactly 53, and scaling appends as many
    have hpos : 0 < 2 ^ m.scale := Nat.two_pow_pos _
    have hne : m.significand * 2 ^ m.scale ≠ 0 :=
      Nat.mul_ne_zero (Nat.ne_of_gt (Nat.lt_of_lt_of_le (by decide) hfull)) (Nat.ne_of_gt hpos)
    have hlog : (m.significand * 2 ^ m.scale).log2 = 52 + m.scale := by
      refine (Nat.log2_eq_iff hne).2 ⟨?_, ?_⟩
      · rw [Nat.pow_add]
        exact Nat.mul_le_mul_right _ hfull
      · rw [Nat.add_right_comm, Nat.pow_add]
        exact Nat.mul_lt_mul_of_pos_right m.significand_lt hpos
    omega

lemma roundsUp_zero (quotient : Nat) {divisor : Nat} (h : 0 < divisor) :
    roundsUp quotient 0 divisor = false := by
  have hne : (0 == divisor) = false := by simpa using Nat.ne_of_lt h
  simp [roundsUp, hne]

/-- Rounding the units of a magnitude gives the magnitude. -/
lemma nearest?_units (m : Magnitude) : nearest? m.units 1 = some m := by
  have hpos : 0 < Nat.pow 2 m.scale := Nat.two_pow_pos _
  have hquotient : m.units / Nat.pow 2 m.scale = m.significand := Nat.mul_div_cancel _ hpos
  have hremainder : m.units % Nat.pow 2 m.scale = 0 := Nat.mul_mod_left _ _
  have hparts : ofParts? m.significand m.scale = some m :=
    dif_pos ⟨m.significand_lt, m.scale_le, m.normal⟩
  simp only [nearest?, Nat.div_one, log2_units_sub, Nat.one_mul, hquotient, hremainder,
    roundsUp_zero _ hpos, Bool.false_eq_true, if_false]
  rw [if_neg (Nat.ne_of_lt m.significand_lt), hparts]

end Magnitude

namespace Double

lemma unitsPerOne_eq : unitsPerOne = 2 ^ 1074 := by decide +kernel

lemma unitsPerOne_pos : 0 < unitsPerOne := by decide +kernel

/-- A whole number below `2 ^ 53` is a whole count of units with 53 bits. -/
lemma exists_units_eq {n : Nat} (h : n < 2 ^ 53) :
    ∃ m : Magnitude, m.units = n * unitsPerOne := by
  rcases Nat.eq_zero_or_pos n with rfl | hpos
  · exact ⟨.zero, by rw [Magnitude.units_eq, Nat.zero_mul]; rfl⟩
  · have hne : n ≠ 0 := Nat.ne_of_gt hpos
    have hlog : n.log2 < 53 := (Nat.log2_lt hne).2 h
    -- the digits are shifted up until they fill the significand
    have hlow : 2 ^ 52 ≤ n * 2 ^ (52 - n.log2) := by
      calc 2 ^ 52 = 2 ^ n.log2 * 2 ^ (52 - n.log2) := by rw [← Nat.pow_add]; congr 1; omega
        _ ≤ n * 2 ^ (52 - n.log2) := Nat.mul_le_mul_right _ (Nat.log2_self_le hne)
    have hhigh : n * 2 ^ (52 - n.log2) < 2 ^ 53 := by
      calc n * 2 ^ (52 - n.log2) < 2 ^ (n.log2 + 1) * 2 ^ (52 - n.log2) :=
            Nat.mul_lt_mul_of_pos_right Nat.lt_log2_self (Nat.two_pow_pos _)
        _ = 2 ^ 53 := by rw [← Nat.pow_add]; congr 1; omega
    refine ⟨⟨n * 2 ^ (52 - n.log2), n.log2 + 1022, hhigh, by omega, Or.inr hlow⟩, ?_⟩
    have hexponent : 52 - n.log2 + (n.log2 + 1022) = 1074 := by omega
    rw [Magnitude.units_eq, Nat.mul_assoc, ← pow_add, hexponent, unitsPerOne_eq]

lemma ofRatio_eq_finite {n : Nat} {m : Magnitude} (h : m.units = n * unitsPerOne)
    (negative : Bool) : ofRatio negative n 1 = .finite negative m := by
  rw [ofRatio, ← h, Magnitude.nearest?_units, ofMagnitude]

lemma toInt?_finite {n : Nat} {m : Magnitude} (h : m.units = n * unitsPerOne) :
    toInt? (.finite false m) = some (n : Int) := by
  have hmod : m.units % unitsPerOne = 0 := by rw [h, Nat.mul_mod_left]
  have hdiv : m.units / unitsPerOne = n := by rw [h, Nat.mul_div_cancel _ unitsPerOne_pos]
  simp only [toInt?, hmod, hdiv, if_true, Bool.false_eq_true, if_false]

/-- A whole number below `2 ^ 53` is the whole number that it was. -/
theorem toInt?_ofNat {n : Nat} (h : n < 2 ^ 53) : (ofNat n).toInt? = some (n : Int) := by
  obtain ⟨m, hm⟩ := exists_units_eq h
  rw [ofNat, ofRatio_eq_finite hm, toInt?_finite hm]

lemma isNaN_ofNat {n : Nat} (h : n < 2 ^ 53) : (ofNat n).isNaN = false := by
  obtain ⟨m, hm⟩ := exists_units_eq h
  rw [ofNat, ofRatio_eq_finite hm]
  rfl

end Double

end Narrowing
