import Mathlib.Tactic.Lemma
import Narrowing.Number.Shortest
import Narrowing.Proofs.Number.Whole
/-!
# A decimal rounds to one magnitude

The quantities that round to a magnitude are those between its two ends, with the ends if the
significand is even.  This file shows that no quantity rounds to two magnitudes: of two
magnitudes the upper end of the smaller one lies at or below the lower end of the larger one,
and where the two ends meet, one of the significands is odd.

The search for the shortest decimal only ever stops at a decimal that rounds to the magnitude
it was started for.  So the shortest decimals of two magnitudes are never equal in quantity.
-/

namespace Narrowing

/-- The decimal as a count of `10 ^ (-1074)`. -/
def Decimal.count (d : Decimal) : Nat := d.coefficient * 10 ^ (d.exponent + 1074).toNat

lemma Decimal.count_zero (exponent : Int) : Decimal.count ⟨0, exponent⟩ = 0 := by
  rw [count, Nat.zero_mul]

lemma Decimal.count_mk (coefficient j : Nat) :
    Decimal.count ⟨coefficient, (j : Int) - 1074⟩ = coefficient * 10 ^ j := by
  have hexponent : ((j : Int) - 1074 + 1074).toNat = j := by omega
  rw [count, hexponent]

namespace Magnitude

/-- No two magnitudes have as many units. -/
lemma eq_of_units_eq {m n : Magnitude} (h : m.units = n.units) : m = n := by
  have hm := nearest?_units m
  rw [h, nearest?_units] at hm
  exact (Option.some.inj hm).symm

lemma significand_eq_zero {m : Magnitude} (h : m.units = 0) : m.significand = 0 := by
  rw [units_eq] at h
  exact (Nat.mul_eq_zero.1 h).resolve_right (Nat.ne_of_gt (Nat.two_pow_pos _))

/-! ### The ends in units -/

/-- How far the lower end is from the magnitude, in quarters of a step. -/
def below (m : Magnitude) : Nat :=
  if m.significand = Nat.pow 2 52 ∧ m.scale ≠ 0 then 1 else 2

/-- Four times the lower end in units. -/
def lowerUnits (m : Magnitude) : Nat := (4 * m.significand - m.below) * 2 ^ m.scale

/-- Four times the upper end in units. -/
def upperUnits (m : Magnitude) : Nat := (4 * m.significand + 2) * 2 ^ m.scale

lemma lowerEnd_eq (m : Magnitude) : m.lowerEnd = m.lowerUnits * Nat.pow 5 1074 := rfl

lemma upperEnd_eq (m : Magnitude) : m.upperEnd = m.upperUnits * Nat.pow 5 1074 := rfl

lemma tenths_eq (m : Magnitude) : m.tenths = m.units * Nat.pow 5 1074 := rfl

lemma tenths_eq_zero {m : Magnitude} (h : m.units = 0) : m.tenths = 0 := by
  rw [tenths_eq, h]
  generalize Nat.pow 5 1074 = fives
  exact Nat.zero_mul fives

lemma fives_pos : 0 < Nat.pow 5 1074 := by decide +kernel

lemma tens_eq : Nat.pow 10 1074 = Double.unitsPerOne * Nat.pow 5 1074 := by decide +kernel

lemma below_cases (m : Magnitude) :
    m.below = 1 ∧ m.significand = 2 ^ 52 ∨
      m.below = 2 ∧ (m.significand = 2 ^ 52 → m.scale = 0) := by
  unfold below
  split
  · next h => exact .inl ⟨rfl, h.1⟩
  · next h =>
    refine .inr ⟨rfl, fun hs => ?_⟩
    have : ¬ m.scale ≠ 0 := fun hscale => h ⟨hs, hscale⟩
    omega

lemma below_bounds (m : Magnitude) : 1 ≤ m.below ∧ m.below ≤ 2 := by
  rcases below_cases m with ⟨hbelow, -⟩ | ⟨hbelow, -⟩ <;> omega

/-- A significand that is scaled has all its bits, so that the larger scale wins. -/
lemma mul_two_pow_lt_units {m : Magnitude} {s k : Nat} (hs : s < 2 ^ 53) (hk : k < m.scale) :
    s * 2 ^ k < m.units := by
  have hfull : 2 ^ 52 ≤ m.significand := m.normal.resolve_left (by omega)
  have hpow : 2 ^ (k + 1) ≤ 2 ^ m.scale := Nat.pow_le_pow_right (by decide) hk
  calc s * 2 ^ k < 2 ^ 53 * 2 ^ k := Nat.mul_lt_mul_of_pos_right hs (Nat.two_pow_pos _)
    _ = 2 ^ 52 * 2 ^ (k + 1) := by rw [Nat.pow_succ 2 k]; omega
    _ ≤ m.units := Nat.mul_le_mul hfull hpow

/-- Of two magnitudes the larger one has the larger scale, or the larger significand. -/
lemma scale_lt_or_significand_lt {m n : Magnitude} (h : m.units < n.units) :
    m.scale < n.scale ∨ m.scale = n.scale ∧ m.significand < n.significand := by
  rcases Nat.lt_trichotomy m.scale n.scale with hlt | heq | hgt
  · exact .inl hlt
  · rw [units_eq, units_eq, heq] at h
    exact .inr ⟨heq, Nat.lt_of_mul_lt_mul_right h⟩
  · have hlt : n.units < m.units := mul_two_pow_lt_units n.significand_lt hgt
    omega

/-- The quantities that round to the smaller one of two magnitudes lie below those that round
to the larger one.  They meet in their ends at most, and then one significand is odd. -/
lemma upperUnits_le_lowerUnits {m n : Magnitude} (h : m.units < n.units) :
    m.upperUnits ≤ n.lowerUnits ∧
      (m.upperUnits = n.lowerUnits → m.significand % 2 = 1 ∨ n.significand % 2 = 1) := by
  have hpos : 0 < 2 ^ m.scale := Nat.two_pow_pos _
  rcases scale_lt_or_significand_lt h with hscale | ⟨hscale, hsignificand⟩
  · -- between the scales lies the largest significand of the smaller one, which is odd
    have hm : m.significand < 2 ^ 53 := m.significand_lt
    have hn : 2 ^ 52 ≤ n.significand := n.normal.resolve_left (by omega)
    have hlow : 2 ^ 54 - 1 ≤ 4 * n.significand - n.below := by
      rcases below_cases n with ⟨hbelow, -⟩ | ⟨hbelow, hne⟩
      · omega
      · have : n.significand ≠ 2 ^ 52 := fun hs => by have := hne hs; omega
        omega
    have hpow : 2 ^ (m.scale + 1) ≤ 2 ^ n.scale := Nat.pow_le_pow_right (by decide) hscale
    have hmiddle : (2 ^ 55 - 2) * 2 ^ m.scale ≤ n.lowerUnits := by
      calc (2 ^ 55 - 2) * 2 ^ m.scale = (2 ^ 54 - 1) * 2 ^ (m.scale + 1) := by
            rw [Nat.pow_succ 2 m.scale]; omega
        _ ≤ n.lowerUnits := Nat.mul_le_mul hlow hpow
    have hupper : m.upperUnits ≤ (2 ^ 55 - 2) * 2 ^ m.scale :=
      Nat.mul_le_mul_right _ (by omega)
    refine ⟨Nat.le_trans hupper hmiddle, fun heq => .inl ?_⟩
    have hsame : m.upperUnits = (2 ^ 55 - 2) * 2 ^ m.scale :=
      Nat.le_antisymm hupper (heq ▸ hmiddle)
    have := Nat.eq_of_mul_eq_mul_right hpos hsame
    omega
  · obtain ⟨hone, htwo⟩ := below_bounds n
    refine ⟨?_, fun heq => ?_⟩
    · rw [upperUnits, lowerUnits, hscale]
      exact Nat.mul_le_mul_right _ (by omega)
    · rw [upperUnits, lowerUnits, ← hscale] at heq
      have hends := Nat.eq_of_mul_eq_mul_right hpos heq
      omega

/-! ### What rounds to a magnitude -/

/-- A quotient of units rounds to the magnitude: it lies between the ends, and is neither of them
if the significand is odd. -/
structure Covers (m : Magnitude) (numerator denominator : Nat) : Prop where
  lower_le : m.lowerUnits * denominator ≤ 4 * numerator
  le_upper : 4 * numerator ≤ m.upperUnits * denominator
  of_odd : m.significand % 2 = 1 →
    m.lowerUnits * denominator < 4 * numerator ∧ 4 * numerator < m.upperUnits * denominator

lemma isRounded_iff_covers {m : Magnitude} {count : Nat} :
    m.isRounded count = true ↔ m.Covers count (Nat.pow 5 1074) := by
  unfold isRounded
  rw [lowerEnd_eq, upperEnd_eq]
  split
  · next heven =>
    rw [Bool.and_eq_true, decide_eq_true_eq, decide_eq_true_eq]
    exact ⟨fun h => ⟨h.1, h.2, fun hodd => by omega⟩, fun h => ⟨h.lower_le, h.le_upper⟩⟩
  · next hodd =>
    rw [Bool.and_eq_true, decide_eq_true_eq, decide_eq_true_eq]
    exact ⟨fun h => ⟨Nat.le_of_lt h.1, Nat.le_of_lt h.2, fun _ => h⟩,
      fun h => h.of_odd (by omega)⟩

lemma le_of_isRounded {m : Magnitude} {count : Nat} (h : m.isRounded count = true) :
    m.lowerEnd ≤ 4 * count ∧ 4 * count ≤ m.upperEnd :=
  ⟨(isRounded_iff_covers.1 h).lower_le, (isRounded_iff_covers.1 h).le_upper⟩

lemma not_covers_of_units_lt {m n : Magnitude} (h : m.units < n.units)
    {numerator denominator : Nat} (hpos : 0 < denominator)
    (hm : m.Covers numerator denominator) : ¬ n.Covers numerator denominator := by
  intro hn
  obtain ⟨hle, hmeet⟩ := upperUnits_le_lowerUnits h
  have hends : m.upperUnits * denominator ≤ n.lowerUnits * denominator :=
    Nat.mul_le_mul_right _ hle
  have hupper := hm.le_upper
  have hlower := hn.lower_le
  -- the quotient is where the ends meet, which belongs to even significands only
  have heq : m.upperUnits * denominator = n.lowerUnits * denominator :=
    Nat.le_antisymm hends (by omega)
  rcases hmeet (Nat.eq_of_mul_eq_mul_right hpos heq) with hodd | hodd
  · have := (hm.of_odd hodd).2
    omega
  · have := (hn.of_odd hodd).1
    omega

/-- No quantity rounds to two magnitudes. -/
theorem eq_of_covers {m n : Magnitude} {numerator denominator : Nat} (hpos : 0 < denominator)
    (hm : m.Covers numerator denominator) (hn : n.Covers numerator denominator) : m = n := by
  rcases Nat.lt_trichotomy m.units n.units with hlt | heq | hgt
  · exact absurd hn (not_covers_of_units_lt hlt hpos hm)
  · exact eq_of_units_eq heq
  · exact absurd hm (not_covers_of_units_lt hgt hpos hn)

lemma eq_of_isRounded {m n : Magnitude} {count : Nat} (hm : m.isRounded count = true)
    (hn : n.isRounded count = true) : m = n :=
  eq_of_covers fives_pos (isRounded_iff_covers.1 hm) (isRounded_iff_covers.1 hn)

/-! ### The search -/

lemma isRounded_tenths (m : Magnitude) : m.isRounded m.tenths = true := by
  have hfactor : 0 < 2 ^ m.scale * Nat.pow 5 1074 :=
    Nat.mul_pos (Nat.two_pow_pos _) fives_pos
  have hfour : 4 * m.tenths = 4 * m.significand * (2 ^ m.scale * Nat.pow 5 1074) := by
    rw [tenths_eq, units_eq, Nat.mul_assoc, Nat.mul_assoc]
  have hlower : m.lowerEnd = (4 * m.significand - m.below) * (2 ^ m.scale * Nat.pow 5 1074) := by
    rw [lowerEnd_eq, lowerUnits, Nat.mul_assoc]
  have hupper : m.upperEnd = (4 * m.significand + 2) * (2 ^ m.scale * Nat.pow 5 1074) := by
    rw [upperEnd_eq, upperUnits, Nat.mul_assoc]
  unfold isRounded
  rw [hfour, hlower, hupper]
  split
  · simp only [Bool.and_eq_true, decide_eq_true_eq]
    exact ⟨Nat.mul_le_mul_right _ (by omega), Nat.mul_le_mul_right _ (by omega)⟩
  · have hbelow : 1 ≤ m.below := (below_bounds m).1
    simp only [Bool.and_eq_true, decide_eq_true_eq]
    exact ⟨Nat.mul_lt_mul_of_pos_right (by omega) hfactor,
      Nat.mul_lt_mul_of_pos_right (by omega) hfactor⟩

/-- The search stops at a point that rounds to the magnitude, from whatever grid it starts. -/
lemma isRounded_searchGrid (m : Magnitude) (j : Nat) :
    m.isRounded ((m.searchGrid j).1 * Nat.pow 10 (m.searchGrid j).2) = true := by
  induction j with
  | zero =>
    rw [searchGrid]
    show m.isRounded (m.tenths * 1) = true
    rw [Nat.mul_one, isRounded_tenths]
  | succ j ih =>
    rw [searchGrid]
    split
    · next hbelow habove =>
      split
      · exact hbelow
      · exact habove
    · next hbelow _ => exact hbelow
    · next _ habove => exact habove
    · exact ih

/-- The shortest decimal rounds to the magnitude. -/
theorem isRounded_shortest (m : Magnitude) : m.isRounded m.shortest.count = true := by
  rw [shortest, Decimal.count_mk]
  exact isRounded_searchGrid m _

end Magnitude

end Narrowing
