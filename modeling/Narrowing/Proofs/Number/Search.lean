import Mathlib.Data.Nat.Dist
import Mathlib.Tactic.Ring
import Narrowing.Proofs.Number.RoundTrip
/-!
# What the search stops at

The search for the shortest decimal looks at the two points of each grid that are around the
magnitude.  That is enough: what rounds to a magnitude lies together, so if any point of a grid
rounds to it, one of these two does.  The search therefore stops at the coarsest grid with a point
that rounds to the magnitude, and of these points it takes the nearest.

The grid that it starts from is so coarse that a point of it that is found has one digit.
-/

namespace Narrowing

namespace Magnitude

variable {m : Magnitude}

/-! ### Grids -/

lemma pow_ten_add (j k : Nat) : Nat.pow 10 (j + k) = 10 ^ j * Nat.pow 10 k := Nat.pow_add 10 j k

/-- A point of a grid is a point of each finer grid. -/
lemma mul_pow_ten_add (a j k : Nat) : a * Nat.pow 10 (j + k) = a * 10 ^ j * Nat.pow 10 k := by
  rw [pow_ten_add, Nat.mul_assoc]

/-! ### Neighbours on a grid -/

/-- What lies between two counts that round to a magnitude rounds to it. -/
lemma isRounded_between {x y z : Nat} (hx : m.isRounded x = true) (hz : m.isRounded z = true)
    (hxy : x ≤ y) (hyz : y ≤ z) : m.isRounded y = true := by
  rw [isRounded_iff_covers] at hx hz ⊢
  have hlower := hx.lower_le
  have hupper := hz.le_upper
  refine ⟨by omega, by omega, fun hodd => ?_⟩
  have hlower' := (hx.of_odd hodd).1
  have hupper' := (hz.of_odd hodd).2
  omega

lemma lt_succ_div_mul {count step : Nat} (hstep : 0 < step) :
    count < (count / step + 1) * step := by
  rw [Nat.mul_comm]
  exact Nat.lt_mul_div_succ count hstep

/-- If a point of a grid rounds to the magnitude, the neighbour of the magnitude on the same side
does. -/
lemma isRounded_neighbour {a step : Nat} (hstep : 0 < step)
    (h : m.isRounded (a * step) = true) :
    a ≤ m.tenths / step ∧ m.isRounded (m.tenths / step * step) = true ∨
      m.tenths / step + 1 ≤ a ∧ m.isRounded ((m.tenths / step + 1) * step) = true := by
  rcases Nat.lt_or_ge (m.tenths / step) a with hlt | hge
  · refine .inr ⟨hlt, isRounded_between m.isRounded_tenths h ?_ (Nat.mul_le_mul_right _ hlt)⟩
    exact Nat.le_of_lt (lt_succ_div_mul hstep)
  · exact .inl ⟨hge, isRounded_between h m.isRounded_tenths (Nat.mul_le_mul_right _ hge)
      (Nat.div_mul_le_self _ _)⟩

lemma dist_below {a step : Nat} (h : a ≤ m.tenths / step) :
    Nat.dist m.tenths (m.tenths / step * step) ≤ Nat.dist m.tenths (a * step) := by
  have hmul : a * step ≤ m.tenths / step * step := Nat.mul_le_mul_right _ h
  have hle := Nat.div_mul_le_self m.tenths step
  unfold Nat.dist
  omega

lemma dist_above {a step : Nat} (hstep : 0 < step) (h : m.tenths / step + 1 ≤ a) :
    Nat.dist m.tenths ((m.tenths / step + 1) * step) ≤ Nat.dist m.tenths (a * step) := by
  have hmul : (m.tenths / step + 1) * step ≤ a * step := Nat.mul_le_mul_right _ h
  have hlt : m.tenths < (m.tenths / step + 1) * step := lt_succ_div_mul hstep
  unfold Nat.dist
  omega

/-- Of the two neighbours the one below is nearer if less than half a step is left. -/
lemma dist_below_lt_iff {step : Nat} (hstep : 0 < step) :
    Nat.dist m.tenths (m.tenths / step * step) <
        Nat.dist m.tenths ((m.tenths / step + 1) * step) ↔ 2 * (m.tenths % step) < step := by
  have hdivision := Nat.div_add_mod' m.tenths step
  have hremainder := Nat.mod_lt m.tenths hstep
  rw [Nat.succ_mul]
  unfold Nat.dist
  omega

/-! ### The search -/

/-- A point is what the search stops at: no coarser grid has a point that rounds to the
magnitude, on its own grid no such point is nearer, and it is a neighbour of the magnitude. -/
structure Stops (m : Magnitude) (start : Nat) (found : Nat × Nat) : Prop where
  le_start : found.2 ≤ start
  le_grid : ∀ i ≤ start, ∀ a, m.isRounded (a * Nat.pow 10 i) = true → i ≤ found.2
  dist_le : ∀ a, m.isRounded (a * Nat.pow 10 found.2) = true →
    Nat.dist m.tenths (found.1 * Nat.pow 10 found.2) ≤
      Nat.dist m.tenths (a * Nat.pow 10 found.2)
  le_succ : found.1 ≤ m.tenths / Nat.pow 10 found.2 + 1

lemma stops_zero (m : Magnitude) : m.Stops 0 (m.tenths, 0) where
  le_start := Nat.le_refl 0
  le_grid _ hi _ _ := hi
  dist_le a _ := by
    have hone : m.tenths * Nat.pow 10 0 = m.tenths := Nat.mul_one _
    rw [hone, Nat.dist_self]
    exact Nat.zero_le _
  le_succ := by
    have hone : m.tenths / Nat.pow 10 0 = m.tenths := Nat.div_one _
    rw [hone]
    exact Nat.le_succ _

/-- On the grid that it has come to, the search stops at a neighbour that is no farther than any
point that rounds to the magnitude. -/
lemma stops_here {j point : Nat} (hpoint : point ≤ m.tenths / Nat.pow 10 j + 1)
    (hdist : ∀ a, m.isRounded (a * Nat.pow 10 j) = true →
      Nat.dist m.tenths (point * Nat.pow 10 j) ≤ Nat.dist m.tenths (a * Nat.pow 10 j)) :
    m.Stops j (point, j) :=
  ⟨Nat.le_refl j, fun _ hi _ _ => hi, hdist, hpoint⟩

/-- **The search stops at the coarsest grid that it can**, and at the nearest point there. -/
theorem stops_searchGrid (m : Magnitude) (j : Nat) : m.Stops j (m.searchGrid j) := by
  induction j with
  | zero => exact m.stops_zero
  | succ j ih =>
    have hstep : 0 < Nat.pow 10 (j + 1) := Nat.pow_pos (by decide)
    have hnearer := dist_below_lt_iff (m := m) hstep
    rw [searchGrid]
    split
    · split
      · next hhalf =>
        refine stops_here (Nat.le_succ _) fun a ha => ?_
        rcases isRounded_neighbour hstep ha with ⟨hside, -⟩ | ⟨hside, -⟩
        · exact dist_below hside
        · exact Nat.le_trans (Nat.le_of_lt (hnearer.2 hhalf)) (dist_above hstep hside)
      · next hhalf =>
        refine stops_here (Nat.le_refl _) fun a ha => ?_
        rcases isRounded_neighbour hstep ha with ⟨hside, -⟩ | ⟨hside, -⟩
        · exact Nat.le_trans (Nat.le_of_not_lt (mt hnearer.1 hhalf)) (dist_below hside)
        · exact dist_above hstep hside
    · next _ habove =>
      refine stops_here (Nat.le_succ _) fun a ha => ?_
      rcases isRounded_neighbour hstep ha with ⟨hside, -⟩ | ⟨-, hrounded⟩
      · exact dist_below hside
      · exact absurd (hrounded.symm.trans habove) (by decide)
    · next hbelow _ =>
      refine stops_here (Nat.le_refl _) fun a ha => ?_
      rcases isRounded_neighbour hstep ha with ⟨-, hrounded⟩ | ⟨hside, -⟩
      · exact absurd (hrounded.symm.trans hbelow) (by decide)
      · exact dist_above hstep hside
    · next hbelow habove =>
      refine ⟨Nat.le_succ_of_le ih.le_start, fun i hi a ha => ?_, ih.dist_le, ih.le_succ⟩
      rcases Nat.le_succ_iff.1 hi with hle | rfl
      · exact ih.le_grid i hle a ha
      · rcases isRounded_neighbour hstep ha with ⟨-, hrounded⟩ | ⟨-, hrounded⟩
        · exact absurd (hrounded.symm.trans hbelow) (by decide)
        · exact absurd (hrounded.symm.trans habove) (by decide)

/-! ### The first grid -/

/-- Ninety-three bits are less than twenty-eight digits, and over many bits a tenth is lost. -/
lemma mul_two_pow_le {a : Nat} (h : 26 ≤ a) : 10 * (2 ^ 93) ^ a ≤ 9 * (10 ^ 28) ^ a := by
  obtain ⟨b, rfl⟩ := Nat.exists_eq_add_of_le h
  have hstart : 10 * (2 ^ 93) ^ 26 ≤ 9 * (10 ^ 28) ^ 26 := by decide +kernel
  have hrest : (2 ^ 93) ^ b ≤ (10 ^ 28) ^ b := Nat.pow_le_pow_left (by decide) b
  calc 10 * (2 ^ 93) ^ (26 + b) = 10 * (2 ^ 93) ^ 26 * (2 ^ 93) ^ b := by
        rw [Nat.pow_add, Nat.mul_assoc]
    _ ≤ 9 * (10 ^ 28) ^ 26 * (10 ^ 28) ^ b := Nat.mul_le_mul hstart hrest
    _ = 9 * (10 ^ 28) ^ (26 + b) := by rw [Nat.pow_add, Nat.mul_assoc]

/-- The first grid is so coarse that a large count is less than nine steps. -/
lemma lt_coarsest {count : Nat} (h : 2493 ≤ count.log2) :
    count < 9 * Nat.pow 10 (coarsest count) := by
  have hcount : count < 2 ^ (count.log2 + 1) := Nat.lt_log2_self
  have hrest : ∀ r < 93, 2 ^ r ≤ 10 ^ (28 * r / 93 + 1) := by decide
  have hlarge : 2494 ≤ count.log2 + 1 := Nat.succ_le_succ h
  unfold coarsest
  generalize count.log2 + 1 = bits at *
  have hbits := Nat.div_add_mod bits 93
  have hmod := Nat.mod_lt bits (y := 93) (by decide)
  generalize bits / 93 = a at *
  generalize bits % 93 = r at *
  have hexponent : 28 * bits / 93 = 28 * a + 28 * r / 93 := by omega
  have hpow : 10 * 2 ^ bits ≤ 10 * (9 * 10 ^ (28 * a + 28 * r / 93)) := by
    calc 10 * 2 ^ bits = 10 * (2 ^ 93) ^ a * 2 ^ r := by
          rw [← hbits, Nat.pow_add, Nat.pow_mul, Nat.mul_assoc]
      _ ≤ 9 * (10 ^ 28) ^ a * 10 ^ (28 * r / 93 + 1) :=
          Nat.mul_le_mul (mul_two_pow_le (by omega)) (hrest r hmod)
      _ = 10 * (9 * 10 ^ (28 * a + 28 * r / 93)) := by
          rw [Nat.pow_succ 10 (28 * r / 93), Nat.pow_add 10 (28 * a), Nat.pow_mul 10 28]
          ring
  rw [hexponent]
  exact Nat.lt_of_lt_of_le hcount (Nat.le_of_mul_le_mul_left hpow (by decide))

/-- A magnitude other than zero has less than nine steps of the first grid. -/
lemma tenths_lt_coarsest (hm : m.units ≠ 0) : m.tenths < 9 * Nat.pow 10 (coarsest m.tenths) := by
  obtain ⟨bits, hbits, hpow⟩ : ∃ bits, 2493 ≤ bits ∧ Nat.pow 2 bits ≤ Nat.pow 5 1074 :=
    ⟨2493, Nat.le_refl _, by decide +kernel⟩
  have hle : Nat.pow 2 bits ≤ m.tenths :=
    Nat.le_trans hpow (Nat.le_mul_of_pos_left _ (Nat.pos_of_ne_zero hm))
  have hne : m.tenths ≠ 0 := Nat.ne_of_gt (Nat.lt_of_lt_of_le (Nat.two_pow_pos _) hle)
  exact lt_coarsest (Nat.le_trans hbits ((Nat.le_log2 hne).2 hle))

end Magnitude

end Narrowing
