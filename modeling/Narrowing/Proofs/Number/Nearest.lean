import Mathlib.Data.Nat.Dist
import Narrowing.Proofs.Number.RoundTrip
/-!
# Rounding to the nearest number

A quotient is rounded on the grid of the magnitudes around it: its quotient by the step of the
grid is a significand, and the remainder says which of the two neighbours is nearer.  This file
shows that no magnitude of any scale is nearer than the one that is chosen, and that it has the
even significand where another one is as near.  Every magnitude lies at or outside the two
neighbours: at the same or a larger scale because it is a multiple of the step, and at a smaller
scale because it has too few bits.

Integers of 64 bits never round to an infinity, and an integer rounds to the finite number that
is nearest to it among all finite numbers of either sign.
-/

namespace Narrowing

namespace Magnitude

/-! ### The grid -/

/-- The step of the grid that a quotient is rounded on, as a scale. -/
def gridScale (numerator denominator : Nat) : Nat := (numerator / denominator).log2 - 52

/-- The multiple of a divisor that a quotient is rounded to. -/
def rounded (numerator divisor : Nat) : Nat :=
  if roundsUp (numerator / divisor) (numerator % divisor) divisor then numerator / divisor + 1
  else numerator / divisor

lemma nearest?_eq (numerator denominator : Nat) :
    nearest? numerator denominator =
      if rounded numerator (denominator * 2 ^ gridScale numerator denominator) = 2 ^ 53 then
        ofParts? (2 ^ 52) (gridScale numerator denominator + 1)
      else
        ofParts? (rounded numerator (denominator * 2 ^ gridScale numerator denominator))
          (gridScale numerator denominator) := rfl

/-- Rounding goes down at most to one half and up at least from one half, and at one half to
the even multiple. -/
lemma rounded_cases (numerator divisor : Nat) :
    (rounded numerator divisor = numerator / divisor ∧
        2 * (numerator % divisor) ≤ divisor ∧
        (2 * (numerator % divisor) = divisor → rounded numerator divisor % 2 = 0)) ∨
      (rounded numerator divisor = numerator / divisor + 1 ∧
        divisor ≤ 2 * (numerator % divisor) ∧
        (2 * (numerator % divisor) = divisor → rounded numerator divisor % 2 = 0)) := by
  unfold rounded
  split
  · next h =>
    rw [roundsUp, Bool.or_eq_true, Bool.and_eq_true, decide_eq_true_eq, beq_iff_eq,
      beq_iff_eq] at h
    exact .inr ⟨rfl, by omega, by omega⟩
  · next h =>
    rw [roundsUp, Bool.or_eq_true, Bool.and_eq_true, decide_eq_true_eq, beq_iff_eq,
      beq_iff_eq] at h
    exact .inl ⟨rfl, by omega, by omega⟩

/-- A number that lies at or outside the two multiples around a numerator is no nearer to it than
the rounded multiple.  If it is another number and as near, the rounded multiple is even. -/
lemma rounded_nearest {numerator divisor other : Nat} (hpos : 0 < divisor)
    (hside : other ≤ divisor * (numerator / divisor) ∨
      divisor * (numerator / divisor) + divisor ≤ other) :
    Nat.dist numerator (divisor * rounded numerator divisor) ≤ Nat.dist numerator other ∧
      (other ≠ divisor * rounded numerator divisor →
        Nat.dist numerator (divisor * rounded numerator divisor) = Nat.dist numerator other →
        rounded numerator divisor % 2 = 0) := by
  have hdivision := Nat.div_add_mod numerator divisor
  have hremainder := Nat.mod_lt numerator hpos
  have hcases := rounded_cases numerator divisor
  unfold Nat.dist
  generalize rounded numerator divisor = multiple at *
  generalize numerator / divisor = quotient at *
  generalize numerator % divisor = remainder at *
  rcases hcases with ⟨rfl, hhalf, heven⟩ | ⟨rfl, hhalf, heven⟩
  · generalize divisor * multiple = below at *
    refine ⟨by omega, fun hne htie => heven ?_⟩
    omega
  · rw [Nat.mul_succ]
    generalize divisor * quotient = below at *
    refine ⟨by omega, fun hne htie => heven ?_⟩
    omega

/-- The quotient by the step is a significand. -/
lemma quotient_bounds (numerator denominator : Nat) :
    numerator / (denominator * 2 ^ gridScale numerator denominator) < 2 ^ 53 ∧
      (gridScale numerator denominator = 0 ∨
        2 ^ 52 ≤ numerator / (denominator * 2 ^ gridScale numerator denominator)) := by
  rw [← Nat.div_div_eq_div_mul, gridScale]
  generalize numerator / denominator = c
  have hstep : 0 < 2 ^ (c.log2 - 52) := Nat.two_pow_pos _
  have hhigh : c < 2 ^ (c.log2 + 1) := Nat.lt_log2_self
  by_cases hlog : c.log2 ≤ 52
  · have hzero : c.log2 - 52 = 0 := by omega
    have hpow : 2 ^ (c.log2 + 1) ≤ 2 ^ 53 := Nat.pow_le_pow_right (by decide) (by omega)
    rw [hzero, Nat.pow_zero, Nat.div_one]
    exact ⟨by omega, .inl rfl⟩
  · have hne : c ≠ 0 := by
      intro hc
      rw [hc, Nat.log2_zero] at hlog
      omega
    have hlow : 2 ^ c.log2 ≤ c := Nat.log2_self_le hne
    refine ⟨(Nat.div_lt_iff_lt_mul hstep).2 ?_, .inr ((Nat.le_div_iff_mul_le hstep).2 ?_)⟩
    · have hexponent : 53 + (c.log2 - 52) = c.log2 + 1 := by omega
      rw [← Nat.pow_add, hexponent]
      exact hhigh
    · have hexponent : 52 + (c.log2 - 52) = c.log2 := by omega
      rw [← Nat.pow_add, hexponent]
      exact hlow

section

variable {numerator denominator : Nat}

lemma ofParts?_eq_some_iff {significand scale : Nat} {m : Magnitude} :
    ofParts? significand scale = some m ↔ m.significand = significand ∧ m.scale = scale := by
  unfold ofParts?
  constructor
  · intro h
    split at h
    · obtain rfl := Option.some.inj h
      exact ⟨rfl, rfl⟩
    · exact nomatch h
  · rintro ⟨rfl, rfl⟩
    exact dif_pos ⟨m.significand_lt, m.scale_le, m.normal⟩

/-- The magnitude that is chosen is the rounded multiple of the step. -/
lemma of_nearest? {m : Magnitude} (h : nearest? numerator denominator = some m) :
    m.units = rounded numerator (denominator * 2 ^ gridScale numerator denominator) *
        2 ^ gridScale numerator denominator ∧
      (rounded numerator (denominator * 2 ^ gridScale numerator denominator) % 2 = 0 →
        m.significand % 2 = 0) := by
  rw [nearest?_eq] at h
  generalize gridScale numerator denominator = scale at *
  generalize rounded numerator (denominator * 2 ^ scale) = multiple at *
  split at h
  · next hfull =>
    obtain ⟨hsignificand, hscale⟩ := ofParts?_eq_some_iff.1 h
    rw [units_eq, hsignificand, hscale, hfull]
    refine ⟨?_, fun _ => by decide⟩
    rw [Nat.pow_succ 2 scale]
    omega
  · obtain ⟨hsignificand, hscale⟩ := ofParts?_eq_some_iff.1 h
    rw [units_eq, hsignificand, hscale]
    exact ⟨rfl, id⟩

/-- No magnitude lies between two neighbours on the grid. -/
lemma units_le_or_le (n : Magnitude) {quotient scale : Nat}
    (hfull : scale = 0 ∨ 2 ^ 52 ≤ quotient) :
    n.units ≤ quotient * 2 ^ scale ∨ (quotient + 1) * 2 ^ scale ≤ n.units := by
  rw [units_eq]
  by_cases hscale : scale ≤ n.scale
  · -- a multiple of the step
    have hsplit : 2 ^ n.scale = 2 ^ (n.scale - scale) * 2 ^ scale := by
      rw [← Nat.pow_add]
      congr 1
      omega
    rw [hsplit, ← Nat.mul_assoc]
    rcases Nat.lt_or_ge quotient (n.significand * 2 ^ (n.scale - scale)) with hlt | hge
    · exact .inr (Nat.mul_le_mul_right _ hlt)
    · exact .inl (Nat.mul_le_mul_right _ hge)
  · have hpow : 2 ^ (n.scale + 1) ≤ 2 ^ scale := Nat.pow_le_pow_right (by decide) (by omega)
    have hquotient : 2 ^ 52 ≤ quotient := hfull.resolve_left (by omega)
    refine .inl ?_
    calc n.significand * 2 ^ n.scale ≤ 2 ^ 53 * 2 ^ n.scale :=
          Nat.mul_le_mul_right _ (Nat.le_of_lt n.significand_lt)
      _ = 2 ^ 52 * 2 ^ (n.scale + 1) := by rw [Nat.pow_succ 2 n.scale]; omega
      _ ≤ quotient * 2 ^ scale := Nat.mul_le_mul hquotient hpow

/-! ### The nearest magnitude -/

/-- No magnitude is nearer to a quotient than this one, and its significand is even if another
one is as near. -/
structure IsNearest (m : Magnitude) (numerator denominator : Nat) : Prop where
  dist_le : ∀ n : Magnitude,
    Nat.dist numerator (m.units * denominator) ≤ Nat.dist numerator (n.units * denominator)
  even : ∀ n : Magnitude, n ≠ m →
    Nat.dist numerator (m.units * denominator) = Nat.dist numerator (n.units * denominator) →
    m.significand % 2 = 0

/-- What is chosen is nearest. -/
theorem isNearest_of_nearest? (hpos : 0 < denominator) {m : Magnitude}
    (h : nearest? numerator denominator = some m) : m.IsNearest numerator denominator := by
  obtain ⟨hunits, heven⟩ := of_nearest? h
  have hfull := (quotient_bounds numerator denominator).2
  generalize gridScale numerator denominator = scale at *
  have hdivisor : 0 < denominator * 2 ^ scale := Nat.mul_pos hpos (Nat.two_pow_pos _)
  -- everything is compared in multiples of the divisor
  have hgrid (k : Nat) : k * 2 ^ scale * denominator = denominator * 2 ^ scale * k := by
    rw [Nat.mul_comm k, Nat.mul_comm _ denominator, Nat.mul_assoc]
  have hside (n : Magnitude) :
      n.units * denominator ≤
          denominator * 2 ^ scale * (numerator / (denominator * 2 ^ scale)) ∨
        denominator * 2 ^ scale * (numerator / (denominator * 2 ^ scale)) +
          denominator * 2 ^ scale ≤ n.units * denominator := by
    rcases n.units_le_or_le hfull with hle | hle
    · refine .inl ?_
      rw [← hgrid]
      exact Nat.mul_le_mul_right _ hle
    · refine .inr ?_
      rw [← Nat.mul_succ, ← hgrid]
      exact Nat.mul_le_mul_right _ hle
  have hnear (n : Magnitude) := rounded_nearest hdivisor (hside n)
  have hchosen : m.units * denominator =
      denominator * 2 ^ scale * rounded numerator (denominator * 2 ^ scale) := by
    rw [hunits, hgrid]
  constructor
  · intro n
    rw [hchosen]
    exact (hnear n).1
  · intro n hn htie
    have hne : n.units * denominator ≠ m.units * denominator := fun heq =>
      hn (eq_of_units_eq (Nat.eq_of_mul_eq_mul_right hpos heq))
    rw [hchosen] at hne htie
    exact heven ((hnear n).2 hne htie)

/-- A quotient has a nearest magnitude if it is less than half a step above the greatest one. -/
lemma exists_nearest? (h : 4 * numerator < (2 ^ 55 - 2) * 2 ^ 2045 * denominator) :
    ∃ m, nearest? numerator denominator = some m := by
  have hpos : 0 < denominator := by
    refine Nat.pos_of_ne_zero fun hzero => ?_
    rw [hzero, Nat.mul_zero] at h
    exact Nat.not_lt_zero _ h
  have hscale : gridScale numerator denominator ≤ 2045 := by
    have hbits : (2 ^ 55 - 2) * 2 ^ 2045 ≤ 4 * 2 ^ 2098 := by decide +kernel
    have hlt : numerator / denominator < 2 ^ 2098 := by
      rw [Nat.div_lt_iff_lt_mul hpos]
      have hle := Nat.lt_of_lt_of_le h (Nat.mul_le_mul_right denominator hbits)
      rw [Nat.mul_assoc] at hle
      exact Nat.lt_of_mul_lt_mul_left hle
    unfold gridScale
    by_cases hzero : numerator / denominator = 0
    · rw [hzero, Nat.log2_zero]
      omega
    · have := (Nat.log2_lt hzero).2 hlt
      omega
  obtain ⟨hlt, hfull⟩ := quotient_bounds numerator denominator
  have hdivision := Nat.div_add_mod numerator
    (denominator * 2 ^ gridScale numerator denominator)
  have hcases := rounded_cases numerator
    (denominator * 2 ^ gridScale numerator denominator)
  rw [nearest?_eq]
  generalize gridScale numerator denominator = scale at *
  generalize rounded numerator (denominator * 2 ^ scale) = multiple at *
  generalize numerator % (denominator * 2 ^ scale) = remainder at *
  generalize numerator / (denominator * 2 ^ scale) = quotient at *
  split
  · next hmultiple =>
    -- on the coarsest grid the quotient would be at least half a step above the greatest one
    have hne : scale ≠ 2045 := by
      rintro rfl
      rcases hcases with ⟨rfl, -, -⟩ | ⟨rfl, hhalf, -⟩
      · omega
      · have hquotient : quotient = 2 ^ 53 - 1 := by omega
        rw [Nat.mul_assoc, Nat.mul_comm _ denominator] at h
        rw [hquotient] at hdivision
        generalize denominator * 2 ^ 2045 = step at *
        omega
    exact ⟨_, dif_pos ⟨by decide, by omega, .inr (by decide)⟩⟩
  · next hnotFull =>
    have hsignificand : multiple < 2 ^ 53 := by omega
    have hnormal : scale = 0 ∨ 2 ^ 52 ≤ multiple := by omega
    exact ⟨_, dif_pos ⟨hsignificand, by omega, hnormal⟩⟩

end

end Magnitude

/-! ### The nearest number -/

namespace Double

/-- How far a finite number is from an integer, in units. -/
def distance (n : Int) (negative : Bool) (m : Magnitude) : Nat :=
  ((if negative then -(m.units : Int) else m.units) - n * unitsPerOne).natAbs

/-- A number is the one that an integer rounds to.  It is finite and has a sign only if the
integer has, no finite number is nearer, and its significand is even if another one is as
near. -/
inductive IsNearest (n : Int) : Double → Prop
  | finite {m : Magnitude} :
    (∀ negative k, distance n (n < 0) m ≤ distance n negative k) →
    (∀ negative k, (Double.finite (n < 0) m).equal (.finite negative k) = false →
      distance n (n < 0) m = distance n negative k → m.significand % 2 = 0) →
    IsNearest n (.finite (n < 0) m)

lemma units_zero : Magnitude.zero.units = 0 := by
  rw [Magnitude.units_eq]
  exact Nat.zero_mul _

lemma mul_unitsPerOne (n : Int) :
    n * unitsPerOne = if n < 0 then -((n.natAbs * unitsPerOne : Nat) : Int)
      else ((n.natAbs * unitsPerOne : Nat) : Int) := by
  rw [Int.natCast_mul]
  generalize (unitsPerOne : Int) = units
  split
  · rw [← Int.neg_mul]
    congr 1
    omega
  · congr 1
    omega

/-- The magnitude nearest to that of an integer, with the sign of the integer, is nearest. -/
lemma isNearest_finite {n : Int} {m : Magnitude}
    (h : m.IsNearest (n.natAbs * unitsPerOne) 1) : IsNearest n (.finite (n < 0) m) := by
  have hn := mul_unitsPerOne n
  have hzero := h.dist_le .zero
  rw [units_zero] at hzero
  generalize n.natAbs * unitsPerOne = size at *
  -- on the other side of zero no number is nearer than zero
  refine .finite (fun negative k => ?_) (fun negative k hne htie => ?_)
  · have hk := h.dist_le k
    unfold Nat.dist at hzero hk
    unfold distance
    rw [hn]
    by_cases hsign : n < 0 <;> cases negative <;> simp [hsign] <;> omega
  · unfold distance at htie
    rw [hn] at htie
    by_cases hm : m.units = 0
    · rw [Magnitude.significand_eq_zero hm]
    by_cases hsame : negative = decide (n < 0)
    · subst hsame
      have hk : k ≠ m := by
        rintro rfl
        simp [equal, isNaN] at hne
      refine h.even k hk ?_
      unfold Nat.dist
      by_cases hsign : n < 0 <;> simp [hsign] at htie <;> omega
    · have hk : Magnitude.zero ≠ m := by
        rintro rfl
        exact hm units_zero
      refine h.even .zero hk ?_
      rw [units_zero]
      unfold Nat.dist at hzero ⊢
      by_cases hsign : n < 0 <;> cases negative <;> simp [hsign] at htie hsame <;> omega

/-- An integer that is not too large rounds to the nearest number. -/
theorem isNearest_ofInt {n : Int} {bits : Nat} (h : n.natAbs < 2 ^ bits)
    (hbits : bits + 1074 ≤ 2097) : IsNearest n (ofInt n) := by
  have hsize : n.natAbs * unitsPerOne < 2 ^ (bits + 1074) := by
    rw [pow_add, ← unitsPerOne_eq]
    exact Nat.mul_lt_mul_of_pos_right h unitsPerOne_pos
  have hpow {k : Nat} (hk : bits + 1074 ≤ k) : 2 ^ (bits + 1074) ≤ 2 ^ k :=
    Nat.pow_le_pow_right (by decide) hk
  have hend : 4 * 2 ^ 2097 ≤ (2 ^ 55 - 2) * 2 ^ 2045 * 1 := by decide +kernel
  obtain ⟨m, hm⟩ := Magnitude.exists_nearest? (Nat.lt_of_lt_of_le
    (Nat.mul_lt_mul_of_pos_left (Nat.lt_of_lt_of_le hsize (hpow hbits)) (by decide)) hend)
  rw [ofInt, ofRatio, hm, ofMagnitude]
  exact isNearest_finite (Magnitude.isNearest_of_nearest? (by decide) hm)

end Double

end Narrowing
