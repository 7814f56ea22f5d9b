import Mathlib.Tactic.IntervalCases
import Narrowing.Proofs.Number.Numeral
import Narrowing.Proofs.Number.Reading
import Narrowing.Proofs.Number.Search
/-!
# Shortest decimals

The decimal that the search stops at is read as the number that it was searched for, no decimal
with fewer digits is, and of those with as many digits none is nearer.  A decimal that is read as
the number may lie on any grid, so all of them are compared with the one that was found.

On a coarser grid there is none.  On the same grid the search has taken the nearest.  On a finer
grid a decimal with as many digits or fewer is less than a power of ten that the found decimal has
reached, so that this power is read as the number as well.  As it lies on a grid that was searched
before, this can only be if the found decimal has one digit.  Then the power is the nearest decimal
above, and what remains is that the number is closer to it than to the nine tenths of it.
-/

namespace Narrowing

/-! ### The size of a decimal -/

namespace Decimal

variable {d : Decimal}

lemma coefficient_lt (d : Decimal) : d.coefficient < 10 ^ d.digits.length :=
  (Nat.length_toDigits_le_iff (by decide) d.length_digits_pos).1 (Nat.le_refl _)

lemma le_coefficient (hpos : 0 < d.coefficient) : 10 ^ (d.digits.length - 1) ≤ d.coefficient := by
  rcases Nat.eq_zero_or_pos (d.digits.length - 1) with hzero | hlength
  · rw [hzero]
    exact hpos
  · refine Nat.le_of_not_lt fun hlt => ?_
    have hle : d.digits.length ≤ d.digits.length - 1 :=
      (Nat.length_toDigits_le_iff (by decide) hlength).2 hlt
    omega

/-- A decimal is less than the power of ten that its point stands for. -/
lemma size_lt (d : Decimal) : d.size < 10 ^ (d.point + 1074) := by
  have hsplit : d.point + 1074 = (d.digits.length : ℤ) + (d.exponent + 1074) := by
    rw [point]
    omega
  rw [size_eq, hsplit, zpow_add₀ (by norm_num) (d.digits.length : ℤ), ten_zpow_natCast]
  exact mul_lt_mul_of_pos_right (Nat.cast_lt.2 d.coefficient_lt) (ten_zpow_pos _)

/-- A decimal other than zero has reached the power of ten before that. -/
lemma le_size (hpos : 0 < d.coefficient) : 10 ^ (d.point + 1073) ≤ d.size := by
  have hlength := d.length_digits_pos
  have hsplit : d.point + 1073 = ((d.digits.length - 1 : ℕ) : ℤ) + (d.exponent + 1074) := by
    rw [point]
    omega
  rw [size_eq, hsplit, zpow_add₀ (by norm_num) ((d.digits.length - 1 : ℕ) : ℤ), ten_zpow_natCast]
  exact mul_le_mul_of_nonneg_right (Nat.cast_le.2 (le_coefficient hpos)) (ten_zpow_pos _).le

/-- On the grids that are searched the size is a whole count. -/
lemma size_eq_cast {j : ℕ} (h : d.exponent + 1074 = j) :
    d.size = ((d.coefficient * Nat.pow 10 j : ℕ) : ℚ) := by
  rw [size_eq, h, ten_zpow_natCast, Nat.cast_mul]
  rfl

lemma coefficient_pos_of_rounds {m : Magnitude} (hm : m.significand ≠ 0) (h : m.Rounds d.size) :
    0 < d.coefficient :=
  Nat.pos_of_ne_zero fun hzero => not_rounds_of_coefficient_eq_zero hm hzero h

end Decimal

namespace Magnitude

variable {m : Magnitude}

/-! ### The grid that was found -/

/-- A decimal is what the search stops at, on this grid. -/
structure IsFound (m : Magnitude) (d : Decimal) (grid : ℕ) : Prop where
  exponent_eq : d.exponent + 1074 = grid
  rounds : m.Rounds d.size
  stops : m.Stops (coarsest m.tenths) (d.coefficient, grid)

/-- The shortest decimal is what the search stops at. -/
lemma exists_isFound (m : Magnitude) : ∃ grid, m.IsFound m.shortest grid := by
  have hrounded := isRounded_searchGrid m (coarsest m.tenths)
  have hstops := stops_searchGrid m (coarsest m.tenths)
  rw [shortest]
  generalize m.searchGrid (coarsest m.tenths) = found at hrounded hstops ⊢
  obtain ⟨point, grid⟩ := found
  have hexponent : (Decimal.mk point (grid - 1074)).exponent + 1074 = grid := Int.sub_add_cancel _ _
  refine ⟨grid, hexponent, ?_, hstops⟩
  rw [Decimal.size_eq_cast hexponent]
  exact (isRounded_iff_rounds _).1 hrounded

section

variable {d : Decimal} {grid : ℕ} (h : m.IsFound d grid)
include h

/-- If a coarser grid has a point that rounds to the magnitude, it was not searched.  Then the
decimal was found on the first grid and has one digit. -/
lemma IsFound.length_eq_one (hm : m.significand ≠ 0) {j : ℕ} (hj : grid < j) {a : ℕ}
    (ha : m.isRounded (a * Nat.pow 10 j) = true) : d.digits.length = 1 := by
  have hunits : m.units ≠ 0 := fun hzero => hm (significand_eq_zero hzero)
  have hfirst := tenths_lt_coarsest hunits
  obtain ⟨hstart, hgrid, -, hpoint⟩ := h.stops
  generalize coarsest m.tenths = start at *
  have hbeyond : start < j := by
    refine Nat.lt_of_not_le fun hle => ?_
    exact Nat.not_lt.2 (hgrid j hle a ha) hj
  -- a point of a grid beyond the first one is a point of the first one
  obtain ⟨k, rfl⟩ := Nat.exists_eq_add_of_le' (Nat.le_of_lt hbeyond)
  rw [mul_pow_ten_add] at ha
  obtain rfl : grid = start := Nat.le_antisymm hstart (hgrid start (Nat.le_refl _) _ ha)
  have hquotient : m.tenths / Nat.pow 10 grid < 9 :=
    (Nat.div_lt_iff_lt_mul (Nat.pow_pos (by decide))).2 hfirst
  have hdigit : d.coefficient < 10 := Nat.lt_of_le_of_lt hpoint (Nat.succ_lt_succ hquotient)
  rw [Decimal.digits, Nat.toDigits_of_lt_base hdigit, List.length_singleton]

/-- On its own grid the decimal is nearest. -/
lemma IsFound.abs_sub_le {a : ℕ} (ha : m.isRounded (a * Nat.pow 10 grid) = true) :
    |d.size - m.tenths| ≤ |((a * Nat.pow 10 grid : ℕ) : ℚ) - m.tenths| := by
  have hdist (x y : ℕ) : ((Nat.dist x y : ℕ) : ℚ) = |(y : ℚ) - x| := by
    rcases Nat.le_total x y with hle | hle
    · rw [Nat.dist_eq_sub_of_le hle, Nat.cast_sub hle, abs_of_nonneg]
      exact sub_nonneg.2 (Nat.cast_le.2 hle)
    · rw [Nat.dist_comm, Nat.dist_eq_sub_of_le hle, Nat.cast_sub hle, abs_sub_comm, abs_of_nonneg]
      exact sub_nonneg.2 (Nat.cast_le.2 hle)
  rw [Decimal.size_eq_cast h.exponent_eq, ← hdist, ← hdist, Nat.cast_le]
  exact h.stops.dist_le a ha

/-- Between the decimal and one whose point does not stand as far behind there is a power of ten.
So the decimal has one digit, or the power would have been found before it. -/
lemma IsFound.of_point_lt (hm : m.significand ≠ 0) {b : Decimal} (hb : m.Rounds b.size)
    (hpoint : b.point < d.point) :
    d.digits.length = 1 ∧ m.isRounded (1 * Nat.pow 10 grid) = true := by
  have hlength := d.length_digits_pos
  have hexponent : d.point + 1073 = ((d.digits.length - 1 + grid : ℕ) : ℤ) := by
    have hgrid := h.exponent_eq
    rw [Decimal.point]
    omega
  have hpower : m.isRounded (1 * Nat.pow 10 (d.digits.length - 1 + grid)) = true := by
    have hcast : ((1 * Nat.pow 10 (d.digits.length - 1 + grid) : ℕ) : ℚ) =
        10 ^ (d.point + 1073) := by
      rw [hexponent, Decimal.ten_zpow_natCast, Nat.one_mul]
      rfl
    rw [isRounded_iff_rounds, hcast]
    refine hb.between h.rounds ?_ (Decimal.le_size (Decimal.coefficient_pos_of_rounds hm h.rounds))
    exact b.size_lt.le.trans (Decimal.ten_zpow_le (by omega))
  have hone : d.digits.length = 1 := by
    by_contra hne
    exact hne (h.length_eq_one hm (by omega) hpower)
  rw [hone, Nat.sub_self, Nat.zero_add] at hpower
  exact ⟨hone, hpower⟩

end

/-! ### Powers of ten -/

/-- The least magnitudes are multiples of almost half a thousand, in a power of ten. -/
lemma exists_fives_bounds : ∃ k, 494 * Nat.pow 10 k ≤ Nat.pow 5 1074 ∧
    Nat.pow 5 1074 ≤ 495 * Nat.pow 10 k :=
  ⟨748, by decide +kernel, by decide +kernel⟩

lemma pow_near_thousand (i k : ℕ) : Nat.pow 10 i ≤ 100 * Nat.pow 10 k ∨
    Nat.pow 10 i = 1000 * Nat.pow 10 k ∨ 10000 * Nat.pow 10 k ≤ Nat.pow 10 i := by
  have hpow {j l : ℕ} (hle : j ≤ l) : Nat.pow 10 j ≤ Nat.pow 10 l :=
    Nat.pow_le_pow_right (by decide) hle
  rcases Nat.lt_trichotomy i (3 + k) with hi | rfl | hi
  · exact .inl (Nat.le_trans (hpow (by omega)) (Nat.le_of_eq (pow_ten_add 2 k)))
  · exact .inr (.inl (pow_ten_add 3 k))
  · exact .inr (.inr (Nat.le_trans (Nat.le_of_eq (pow_ten_add 4 k).symm) (hpow (by omega))))

/-- A magnitude is no more than a twentieth below a power of ten that rounds to it.  Half a step
is more than a twentieth for nine magnitudes only, and one thousand is the only power of ten that
may round to one of them. -/
lemma le_of_isRounded_power (hm : m.significand ≠ 0) {i : ℕ}
    (h : m.isRounded (Nat.pow 10 i) = true) (hlt : m.tenths < Nat.pow 10 i) :
    95 * Nat.pow 10 i ≤ 100 * m.tenths := by
  have hupper := (le_of_isRounded h).2
  have htenths : m.tenths = m.significand * (2 ^ m.scale * Nat.pow 5 1074) := by
    rw [tenths_eq, units_eq, Nat.mul_assoc]
  have hend : m.upperEnd = 4 * (m.significand * (2 ^ m.scale * Nat.pow 5 1074)) +
      2 * (2 ^ m.scale * Nat.pow 5 1074) := by
    rw [upperEnd_eq, upperUnits, Nat.mul_assoc, Nat.add_mul, Nat.mul_assoc 4]
  rw [hend] at hupper
  rw [htenths] at hlt ⊢
  obtain ⟨k, hlow, hhigh⟩ := exists_fives_bounds
  generalize Nat.pow 5 1074 = fives at *
  rcases Nat.lt_or_ge m.significand 10 with hten | hten
  · have hscale : m.scale = 0 := m.normal.resolve_right fun hfull =>
      Nat.not_le.2 hten (Nat.le_trans (by decide) hfull)
    have hpower := pow_near_thousand i k
    have hunit : 0 < Nat.pow 10 k := Nat.pow_pos (by decide)
    have hpos : 0 < m.significand := Nat.pos_of_ne_zero hm
    rw [hscale, Nat.pow_zero, Nat.one_mul] at hupper hlt ⊢
    generalize Nat.pow 10 i = power at *
    generalize Nat.pow 10 k = unit at *
    generalize m.significand = s at *
    interval_cases s <;> omega
  · -- half a step is at most a twentieth
    have hstep := Nat.mul_le_mul_right (2 ^ m.scale * fives) hten
    generalize 2 ^ m.scale * fives = step at *
    generalize m.significand * step = count at *
    generalize Nat.pow 10 i = power at *
    omega

/-! ### Shortest and nearest -/

/-- The quantity of a magnitude. -/
def quantity (m : Magnitude) : ℚ := m.units / Double.unitsPerOne

lemma tenths_eq_quantity (m : Magnitude) : (m.tenths : ℚ) = m.quantity * 10 ^ 1074 := by
  have hunits : (Double.unitsPerOne : ℚ) ≠ 0 :=
    Nat.cast_ne_zero.2 (Nat.ne_of_gt Double.unitsPerOne_pos)
  rw [tenths_eq, quantity, tens_eq_mul, ← mul_assoc, div_mul_cancel₀ _ hunits, Nat.cast_mul]

end Magnitude

namespace Decimal

/-- Which of two decimals is nearer to a magnitude can be told from their sizes. -/
lemma dist_le_of_size {a b : Decimal} {m : Magnitude}
    (h : |a.size - m.tenths| ≤ |b.size - m.tenths|) :
    |a.quantity - m.quantity| ≤ |b.quantity - m.quantity| := by
  have htens : (0 : ℚ) < 10 ^ 1074 := by positivity
  rw [size, size, Magnitude.tenths_eq_quantity, ← sub_mul, ← sub_mul, abs_mul, abs_mul] at h
  exact le_of_mul_le_mul_right h (abs_pos.2 htens.ne')

/-- The decimal is the shortest for a magnitude: it is read as the magnitude, no decimal with
fewer digits is, and none with as many digits is nearer. -/
structure IsShortest (d : Decimal) (m : Magnitude) : Prop where
  reads : d.ReadsAs m
  length_le : ∀ b : Decimal, b.ReadsAs m → d.digits.length ≤ b.digits.length
  dist_le : ∀ b : Decimal, b.ReadsAs m → b.digits.length = d.digits.length →
    |d.quantity - m.quantity| ≤ |b.quantity - m.quantity|

end Decimal

namespace Magnitude

variable {m : Magnitude}

/-- A decimal of one digit that was found is no farther than a decimal of one digit on a finer
grid. -/
lemma IsFound.abs_sub_le_of_finer {d b : Decimal} {grid : ℕ} (h : m.IsFound d grid)
    (hm : m.significand ≠ 0) (hpower : m.isRounded (1 * Nat.pow 10 grid) = true)
    (hdigit : b.digits.length = 1) (hfiner : b.exponent + 1074 < grid) :
    |d.size - m.tenths| ≤ |b.size - m.tenths| := by
  have hpow : (10 : ℚ) ^ (grid : ℤ) = ((Nat.pow 10 grid : ℕ) : ℚ) := Decimal.ten_zpow_natCast grid
  have hnine : (b.coefficient : ℚ) ≤ 9 := by
    have hlt := b.coefficient_lt
    rw [hdigit, pow_one] at hlt
    exact_mod_cast Nat.le_of_lt_succ hlt
  have hbsize : b.size ≤ 9 * 10 ^ ((grid : ℤ) - 1) := by
    rw [Decimal.size_eq]
    exact mul_le_mul hnine (Decimal.ten_zpow_le (by omega)) (Decimal.ten_zpow_pos _).le (by norm_num)
  have hbtenths : 10 * b.size ≤ 9 * ((Nat.pow 10 grid : ℕ) : ℚ) := by
    rw [zpow_sub_one₀ (by norm_num), hpow] at hbsize
    linarith
  have hnearest := h.abs_sub_le hpower
  have hpos : (0 : ℚ) < ((Nat.pow 10 grid : ℕ) : ℚ) := Nat.cast_pos.2 (Nat.pow_pos (by decide))
  rw [Nat.one_mul] at hnearest hpower
  refine hnearest.trans (le_trans ?_ (neg_le_abs _))
  rcases Nat.lt_or_ge m.tenths (Nat.pow 10 grid) with hlt | hge
  · have hclose : 95 * ((Nat.pow 10 grid : ℕ) : ℚ) ≤ 100 * m.tenths := by
      exact_mod_cast le_of_isRounded_power hm hpower hlt
    have hlt' : (m.tenths : ℚ) < ((Nat.pow 10 grid : ℕ) : ℚ) := Nat.cast_lt.2 hlt
    rw [abs_of_pos (sub_pos.2 hlt')]
    linarith
  · have hge' : ((Nat.pow 10 grid : ℕ) : ℚ) ≤ m.tenths := Nat.cast_le.2 hge
    rw [abs_of_nonpos (sub_nonpos.2 hge')]
    linarith

/-- A decimal that is read as the magnitude and has no more digits than the one that was found has
as many, and is no nearer. -/
lemma IsFound.compare {d b : Decimal} {grid : ℕ} (h : m.IsFound d grid) (hm : m.significand ≠ 0)
    (hb : m.Rounds b.size) (hlength : b.digits.length ≤ d.digits.length) :
    b.digits.length = d.digits.length ∧ |d.size - m.tenths| ≤ |b.size - m.tenths| := by
  have hpos := b.length_digits_pos
  have hgrid := h.exponent_eq
  have hbpoint : b.point = b.digits.length + b.exponent := rfl
  have hdpoint : d.point = d.digits.length + d.exponent := rfl
  rcases Int.lt_or_le (b.exponent + 1074) grid with hfiner | hcoarser
  · obtain ⟨hone, hpower⟩ := h.of_point_lt hm hb (by omega)
    exact ⟨by omega, h.abs_sub_le_of_finer hm hpower (by omega) hfiner⟩
  · obtain ⟨k, hk⟩ := Int.le.dest hcoarser
    have hexponent : b.exponent + 1074 = ((k + grid : ℕ) : ℤ) := by omega
    have hsize := Decimal.size_eq_cast hexponent
    have hrounded := (isRounded_iff_rounds _).2 (hsize ▸ hb)
    constructor
    · by_contra hne
      have hone : d.digits.length = 1 := by
        rcases Nat.eq_zero_or_pos k with rfl | hk
        · exact (h.of_point_lt hm hb (by omega)).1
        · exact h.length_eq_one hm (by omega) hrounded
      omega
    · rw [mul_pow_ten_add] at hsize hrounded
      rw [hsize]
      exact h.abs_sub_le hrounded

/-- **The shortest decimal is the shortest and the nearest.** -/
theorem isShortest_shortest (hm : m.significand ≠ 0) : m.shortest.IsShortest m := by
  obtain ⟨grid, h⟩ := m.exists_isFound
  refine ⟨(Decimal.readsAs_iff hm).2 h.rounds, fun b hb => ?_, fun b hb hlength => ?_⟩
  · rcases Nat.le_total b.digits.length m.shortest.digits.length with hle | hle
    · exact (h.compare hm ((Decimal.readsAs_iff hm).1 hb) hle).1.ge
    · exact hle
  · exact Decimal.dist_le_of_size (h.compare hm ((Decimal.readsAs_iff hm).1 hb) hlength.le).2

end Magnitude

end Narrowing
