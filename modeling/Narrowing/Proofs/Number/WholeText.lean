import Narrowing.Proofs.Number.Search
import Narrowing.Proofs.Number.Threshold
/-!
# The text of a whole number

A whole number below `2 ^ 53` is written as its numeral.  The search for the shortest decimal
starts at a grid that is coarser than ones, and the number itself is a point of the grid of ones.
So the search stops at whole tens, hundreds or at ones, and what it stops at rounds to the number.
The decimals that round to it are at most half a step away from it, and a step is at most one:
among the whole numbers only the number itself rounds to it.  The digits that were found, with
zeros after them, are therefore its numeral, and a numeral of at most 21 digits is written out in
full.
-/

namespace Narrowing

namespace Magnitude

/-! ### Whole numbers that round to a magnitude -/

lemma tenths_of_units_eq {m : Magnitude} {n : Nat} (h : m.units = n * Double.unitsPerOne) :
    m.tenths = n * Nat.pow 10 1074 := by
  rw [tenths_eq, h, tens_eq, Nat.mul_assoc]

/-- A multiple of `2 ^ k` units that fits into a significand has no larger step. -/
lemma step_le_of_units_eq {m : Magnitude} {n k : Nat} (h : m.units = n * 2 ^ k)
    (hn : n < 2 ^ 53) : 2 ^ m.scale ≤ 2 ^ k := by
  refine Nat.pow_le_pow_right (by decide) (Nat.le_of_not_lt fun hlarge => ?_)
  exact Nat.ne_of_lt (mul_two_pow_lt_units hn hlarge) h.symm

/-- What rounds to a magnitude is at most half a step away from it. -/
lemma near_of_isRounded {m : Magnitude} {count : Nat}
    (h : m.isRounded (count * Nat.pow 5 1074) = true) :
    2 * m.units ≤ 2 * count + 2 ^ m.scale ∧ 2 * count ≤ 2 * m.units + 2 ^ m.scale := by
  obtain ⟨hlower, hupper⟩ := le_of_isRounded h
  rw [lowerEnd_eq, ← Nat.mul_assoc] at hlower
  rw [upperEnd_eq, ← Nat.mul_assoc] at hupper
  have hlow : m.lowerUnits ≤ 4 * count := Nat.le_of_mul_le_mul_right hlower fives_pos
  have hupp : 4 * count ≤ m.upperUnits := Nat.le_of_mul_le_mul_right hupper fives_pos
  have hbelow : (4 * m.significand - 2) * 2 ^ m.scale ≤ m.lowerUnits :=
    Nat.mul_le_mul_right _ (Nat.sub_le_sub_left (below_bounds m).2 _)
  rw [Nat.sub_mul, Nat.mul_assoc, ← units_eq] at hbelow
  rw [upperUnits, Nat.add_mul, Nat.mul_assoc, ← units_eq] at hupp
  omega

/-- The only whole number that rounds to a whole number below `2 ^ 53` is that number. -/
lemma eq_of_isRounded_whole {m : Magnitude} {n k : Nat}
    (hunits : m.units = n * Double.unitsPerOne) (hn : n < 2 ^ 53)
    (hk : m.isRounded (k * Double.unitsPerOne * Nat.pow 5 1074) = true) : k = n := by
  have hpos : 0 < Double.unitsPerOne := Double.unitsPerOne_pos
  have hstep : 2 ^ m.scale ≤ Double.unitsPerOne := by
    rw [Double.unitsPerOne_eq] at hunits ⊢
    exact step_le_of_units_eq hunits hn
  obtain ⟨hlower, hupper⟩ := near_of_isRounded hk
  rw [hunits] at hlower hupper
  generalize Double.unitsPerOne = one at hpos hstep hlower hupper
  generalize 2 ^ m.scale = step at hstep hlower hupper
  -- half a step is less than one, so that neither number is below the other
  rcases Nat.lt_trichotomy k n with hlt | heq | hgt
  · have hmul : (k + 1) * one ≤ n * one := Nat.mul_le_mul_right _ hlt
    rw [Nat.succ_mul] at hmul
    omega
  · exact heq
  · have hmul : (n + 1) * one ≤ k * one := Nat.mul_le_mul_right _ hgt
    rw [Nat.succ_mul] at hmul
    omega

/-! ### The grids of the search -/

/-- The search stops at the first grid that the magnitude is a point of, or before. -/
lemma le_searchGrid {m : Magnitude} {k : Nat} (h : Nat.pow 10 k ∣ m.tenths) {j : Nat}
    (hj : k ≤ j) : k ≤ (m.searchGrid j).2 := by
  refine (stops_searchGrid m j).le_grid k hj (m.tenths / Nat.pow 10 k) ?_
  rw [Nat.div_mul_cancel h, isRounded_tenths]

/-- The search for a whole number other than zero starts at ones or at a coarser grid. -/
lemma le_coarsest {n : Nat} (h : 0 < n) : 1074 ≤ coarsest (n * Nat.pow 10 1074) := by
  obtain ⟨bits, hbits, hpow⟩ : ∃ bits, 3567 ≤ bits ∧ Nat.pow 2 bits ≤ Nat.pow 10 1074 :=
    ⟨3567, Nat.le_refl _, by decide +kernel⟩
  have hle : Nat.pow 2 bits ≤ n * Nat.pow 10 1074 :=
    Nat.le_trans hpow (Nat.le_mul_of_pos_left _ h)
  have hne : n * Nat.pow 10 1074 ≠ 0 :=
    Nat.ne_of_gt (Nat.lt_of_lt_of_le (Nat.two_pow_pos _) hle)
  have hlog : bits ≤ (n * Nat.pow 10 1074).log2 := (Nat.le_log2 hne).2 hle
  unfold coarsest
  omega

lemma ten_pow_add {a c : Nat} (h : Nat.pow 10 a = c) (e : Nat) :
    Nat.pow 10 (a + e) = 10 ^ e * c := by
  rw [← h, Nat.add_comm]
  exact pow_ten_add e a

/-- The shortest decimal of a whole number other than zero is the number in whole powers of
ten. -/
lemma exists_shortest_eq {m : Magnitude} {n : Nat} (hunits : m.units = n * Double.unitsPerOne)
    (hpos : 0 < n) (hn : n < 2 ^ 53) :
    ∃ k e : Nat, m.shortest = ⟨k, e⟩ ∧ k * 10 ^ e = n := by
  have htenths := tenths_of_units_eq hunits
  have hdvd : Nat.pow 10 1074 ∣ m.tenths := ⟨n, by rw [htenths, Nat.mul_comm]⟩
  have hgrid : 1074 ≤ (m.searchGrid (coarsest m.tenths)).2 :=
    le_searchGrid hdvd (htenths ▸ le_coarsest hpos)
  have hrounded := isRounded_searchGrid m (coarsest m.tenths)
  generalize hfound : m.searchGrid (coarsest m.tenths) = found at hgrid hrounded
  obtain ⟨k, j⟩ := found
  obtain ⟨e, rfl⟩ := Nat.exists_eq_add_of_le hgrid
  refine ⟨k, e, ?_, ?_⟩
  · have hexponent : ((1074 + e : Nat) : Int) - 1074 = e := by omega
    rw [shortest, hfound]
    exact congrArg (Decimal.mk k) hexponent
  · simp only [ten_pow_add tens_eq, ← Nat.mul_assoc] at hrounded
    exact eq_of_isRounded_whole hunits hn hrounded

end Magnitude

/-! ### Its digits -/

lemma toDigits_mul_ten {k : Nat} (h : 0 < k) :
    Nat.toDigits 10 (k * 10) = Nat.toDigits 10 k ++ ['0'] := by
  have happend := Nat.toDigits_append_toDigits (b := 10) (d := 0) (by decide) h (by decide)
  rw [Nat.add_zero, Nat.mul_comm] at happend
  exact happend.symm

/-- The numeral of a number in whole powers of ten ends in as many zeros. -/
lemma toDigits_mul_ten_pow {k : Nat} (h : 0 < k) (e : Nat) :
    Nat.toDigits 10 (k * 10 ^ e) = Nat.toDigits 10 k ++ List.replicate e '0' := by
  induction e with
  | zero => simp
  | succ e ih =>
    rw [Nat.pow_succ, ← Nat.mul_assoc, toDigits_mul_ten (Nat.mul_pos h (Nat.pow_pos (by decide))),
      ih, List.append_assoc, List.replicate_succ']

namespace NumberLayout

/-- A whole number that is short enough is written as its numeral. -/
lemma writeDecimal_whole {k : Nat} (hk : 0 < k) (e : Nat) (h : k * 10 ^ e < 10 ^ 21) :
    forKeys.writeDecimal ⟨k, e⟩ = Nat.toDigits 10 (k * 10 ^ e) := by
  have hdigits : (Decimal.mk k e).digits = Nat.toDigits 10 k := rfl
  have hlength : (Nat.toDigits 10 k).length + e ≤ 21 := by
    have hle := (Nat.length_toDigits_le_iff (by decide) (by decide)).2 h
    rwa [toDigits_mul_ten_pow hk, List.length_append, List.length_replicate] at hle
  have hpos : 0 < (Nat.toDigits 10 k).length := Nat.length_toDigits_pos
  have hpoint : (Decimal.mk k e).point = ((Nat.toDigits 10 k).length + e : Nat) := by
    rw [Decimal.point, hdigits, Int.natCast_add]
  have hzeros : (((Nat.toDigits 10 k).length + e : Nat) : Int).toNat -
      (Nat.toDigits 10 k).length = e := by omega
  have hrange : forKeys.leastPoint ≤ (Decimal.mk k e).point ∧
      (Decimal.mk k e).point ≤ forKeys.greatestPoint := by
    rw [hpoint]
    simp only [forKeys]
    omega
  rw [writeDecimal, if_pos hrange, writeInFull, hdigits, hpoint, if_neg (by omega),
    if_neg (by omega), hzeros, toDigits_mul_ten_pow hk]
  exact List.append_nil _

end NumberLayout

namespace Double

lemma keyText_ofNat_zero : (ofNat 0).keyText = toString 0 := by decide +kernel

/-- **A whole number is written as its numeral**, if it fits into a significand. -/
theorem keyText_ofNat {n : Nat} (h : n < 2 ^ 53) : (ofNat n).keyText = toString n := by
  rcases Nat.eq_zero_or_pos n with rfl | hpos
  · exact keyText_ofNat_zero
  · obtain ⟨m, hm⟩ := exists_units_eq h
    obtain ⟨k, e, hshortest, hn⟩ := Magnitude.exists_shortest_eq hm hpos h
    have hk : 0 < k := by
      refine Nat.pos_of_ne_zero fun hzero => ?_
      rw [hzero, Nat.zero_mul] at hn
      omega
    have hnonzero : m.significand ≠ 0 := by
      intro hzero
      rw [Magnitude.units_eq, hzero, Nat.zero_mul] at hm
      exact absurd hm.symm (Nat.ne_of_gt (Nat.mul_pos hpos unitsPerOne_pos))
    have htext : NumberLayout.forKeys.write (.finite false m) = Nat.toDigits 10 n := by
      have hlt : k * 10 ^ e < 10 ^ 21 := by
        rw [hn]
        omega
      rw [NumberLayout.write, if_neg hnonzero, if_neg Bool.false_ne_true, List.nil_append,
        hshortest, NumberLayout.writeDecimal_whole hk e hlt, hn]
    rw [ofNat, ofRatio_eq_finite hm, keyText_eq_write, htext, Nat.toString_eq_ofList_toDigits]

end Double

end Narrowing
