import Narrowing.Proofs.Number.Numeral
/-!
# Where an exponent begins

The key text of a number has an exponent if the number is at least `10 ^ 21`, or below the number
nearest to `10 ^ (-6)`.  So the choice is made by comparing numbers, before any digit is known.
As a layout says it, the choice depends on the digits: on where the point of the shortest decimal
stands.  Here the two are shown to be one choice for every number.

What carries this is that shortest decimals are in the order of their numbers: whatever rounds to
the smaller of two magnitudes lies below whatever rounds to the larger one.  A limit whose shortest
decimal is a power of ten is then passed by a number exactly if the power is passed by the shortest
decimal of the number, and that is a matter of its point.
-/

namespace Narrowing

/-- Key text as a layout: in full from `0.000001` up to but not including `10 ^ 21`, and otherwise
with an exponent that always has a sign. -/
def NumberLayout.forKeys : NumberLayout := ⟨-5, 21, false, true, false, "Infinity"⟩

/-! ### The order of shortest decimals -/

namespace Decimal

/-- A decimal is less than a power of ten if its point does not stand behind that of the power. -/
lemma count_lt_iff {d : Decimal} (hpos : 0 < d.coefficient) (hexponent : -1074 ≤ d.exponent)
    {k : Int} (hk : -1074 ≤ k) : d.count < 10 ^ (k + 1074).toNat ↔ d.point ≤ k := by
  have hlength : 0 < d.digits.length := d.length_digits_pos
  have hpoint : d.point = d.digits.length + d.exponent := rfl
  rw [count]
  obtain ⟨e, he⟩ : ∃ e, (d.exponent + 1074).toNat = e := ⟨_, rfl⟩
  rcases Nat.lt_or_ge e (k + 1074).toNat with hlt | hge
  · obtain ⟨r, hr⟩ := Nat.exists_eq_add_of_lt hlt
    have hshorter : d.digits.length ≤ r + 1 ↔ d.coefficient < 10 ^ (r + 1) :=
      Nat.length_toDigits_le_iff (by decide) (Nat.succ_pos r)
    have hsplit : 10 ^ (k + 1074).toNat = 10 ^ (r + 1) * 10 ^ e := by
      rw [← Nat.pow_add]
      congr 1
      omega
    rw [he, hsplit, Nat.mul_lt_mul_right (Nat.pow_pos (by decide)), ← hshorter]
    omega
  · have hle : 10 ^ (k + 1074).toNat ≤ d.coefficient * 10 ^ e :=
      Nat.le_trans (Nat.pow_le_pow_right (by decide) hge) (Nat.le_mul_of_pos_left _ hpos)
    rw [he]
    omega

end Decimal

namespace Magnitude

variable {m n : Magnitude}

lemma count_shortest_lt (h : m.units < n.units) : m.shortest.count < n.shortest.count := by
  have hm := isRounded_shortest m
  have hn := isRounded_shortest n
  have hends : m.upperEnd ≤ n.lowerEnd := Nat.mul_le_mul_right _ (upperUnits_le_lowerUnits h).1
  have hupper := (le_of_isRounded hm).2
  have hlower := (le_of_isRounded hn).1
  refine Nat.lt_of_le_of_ne (by omega) fun heq => ?_
  rw [heq] at hm
  rw [eq_of_isRounded hm hn] at h
  exact Nat.lt_irrefl _ h

/-- Shortest decimals are in the order of the magnitudes. -/
theorem count_shortest_lt_iff : m.shortest.count < n.shortest.count ↔ m.units < n.units := by
  refine ⟨fun h => ?_, count_shortest_lt⟩
  rcases Nat.lt_trichotomy m.units n.units with hlt | heq | hgt
  · exact hlt
  · rw [eq_of_units_eq heq] at h
    exact absurd h (Nat.lt_irrefl _)
  · exact absurd h (Nat.lt_asymm (count_shortest_lt hgt))

lemma units_pos (h : m.significand ≠ 0) : 0 < m.units :=
  Nat.pos_of_ne_zero fun hzero => h (significand_eq_zero hzero)

lemma coefficient_shortest_pos (h : m.significand ≠ 0) : 0 < m.shortest.coefficient := by
  have hzero : zero.units < m.units := units_pos h
  refine Nat.pos_of_ne_zero fun hcoefficient => ?_
  have hcount : m.shortest.count = 0 := by rw [Decimal.count, hcoefficient, Nat.zero_mul]
  have hlt := count_shortest_lt hzero
  omega

/-- The search does not go below the grid of units. -/
lemma le_exponent_shortest (m : Magnitude) : -1074 ≤ m.shortest.exponent := by
  have hexponent : m.shortest.exponent = ((m.searchGrid (coarsest m.tenths)).2 : Int) - 1074 := rfl
  omega

/-- A magnitude is below one that is written as a power of ten if its point does not stand behind
that of the power. -/
theorem units_lt_iff_point_le {limit : Magnitude} {k : Int} (hlimit : limit.shortest = ⟨1, k⟩)
    (hm : m.significand ≠ 0) : m.units < limit.units ↔ m.shortest.point ≤ k := by
  have hk : -1074 ≤ k := by
    have hle := le_exponent_shortest limit
    rwa [hlimit] at hle
  have hpower : limit.shortest.count = 10 ^ (k + 1074).toNat := by
    rw [hlimit, Decimal.count, Nat.one_mul]
  rw [← count_shortest_lt_iff, hpower]
  exact Decimal.count_lt_iff (coefficient_shortest_pos hm) (le_exponent_shortest m) hk

end Magnitude

/-! ### The two limits -/

namespace Double

lemma equal_iff (x y : Double) :
    x.equal y = true ↔
      x.isZero = true ∧ y.isZero = true ∨ x.isNaN = false ∧ x = y := by
  simp [equal]

lemma lt_finite (a b : Magnitude) :
    (finite false a).lt (finite false b) = true ↔ a.units < b.units := by
  simp [lt, signedUnits]

lemma le_finite (a b : Magnitude) :
    (finite false a).le (finite false b) = true ↔ a.units ≤ b.units := by
  have hzero {m : Magnitude} : m.significand = 0 → m.units = 0 := by
    intro h
    rw [Magnitude.units_eq, h, Nat.zero_mul]
  rw [le, Bool.or_eq_true, lt_finite, equal_iff, Nat.le_iff_lt_or_eq]
  refine or_congr_right ⟨?_, fun h => .inr ⟨rfl, by rw [Magnitude.eq_of_units_eq h]⟩⟩
  rintro (⟨ha, hb⟩ | ⟨-, h⟩)
  · rw [hzero (of_decide_eq_true ha), hzero (of_decide_eq_true hb)]
  · rw [(finite.inj h).2]

lemma exists_leastLarge : ∃ m, leastLarge = finite false m ∧ m.shortest = ⟨1, 21⟩ :=
  ⟨(Magnitude.nearest? (10 ^ 21 * unitsPerOne) 1).get (by decide +kernel),
    by decide +kernel, by decide +kernel⟩

lemma exists_leastPlain : ∃ m, leastPlain = finite false m ∧ m.shortest = ⟨1, -6⟩ :=
  ⟨(Magnitude.nearest? unitsPerOne (10 ^ 6)).get (by decide +kernel),
    by decide +kernel, by decide +kernel⟩

variable {m : Magnitude}

/-- A number is at least `10 ^ 21` exactly if more than 21 digits stand before its point. -/
theorem leastLarge_le_iff (negative : Bool) (hm : m.significand ≠ 0) :
    leastLarge.le (finite negative m).abs = true ↔ 21 < m.shortest.point := by
  obtain ⟨limit, hlimit, hshortest⟩ := exists_leastLarge
  rw [hlimit, abs, le_finite, ← Nat.not_lt, Magnitude.units_lt_iff_point_le hshortest hm]
  omega

/-- A number is below the one nearest to `10 ^ (-6)` exactly if at least six zeros stand between
the point and its digits. -/
theorem lt_leastPlain_iff (negative : Bool) (hm : m.significand ≠ 0) :
    (finite negative m).abs.lt leastPlain = true ↔ m.shortest.point ≤ -6 := by
  obtain ⟨limit, hlimit, hshortest⟩ := exists_leastPlain
  rw [hlimit, abs, lt_finite, Magnitude.units_lt_iff_point_le hshortest hm]

/-! ### The exponent -/

lemma signExponent_append {mantissa : List Char} (h : 'e' ∉ mantissa) (exponent : List Char) :
    signExponent (mantissa ++ 'e' :: exponent) =
      if exponent.head? = some '-' then mantissa ++ 'e' :: exponent
      else mantissa ++ 'e' :: '+' :: exponent := by
  rw [signExponent, Decimal.takeWhile_bne_append h, Decimal.dropWhile_bne_append h]

/-- A sign before the text plays no part. -/
lemma signExponent_writeExponent {sign : List Char} (hsign : 'e' ∉ sign) (d : Decimal) :
    signExponent (sign ++ NumberLayout.writeExponent false d.digits d.point) =
      sign ++ NumberLayout.writeExponent true d.digits d.point := by
  have hmantissa : 'e' ∉ sign ++
      (d.digits.take 1 ++ if d.digits.length ≤ 1 then [] else '.' :: d.digits.drop 1) := by
    intro h
    rcases List.mem_append.1 h with h | h
    · exact hsign h
    · exact NumberLayout.mark_not_mem_firstPoint h
  have hsplit (plus : Bool) : sign ++ NumberLayout.writeExponent plus d.digits d.point =
      (sign ++ (d.digits.take 1 ++ if d.digits.length ≤ 1 then [] else '.' :: d.digits.drop 1)) ++
        'e' :: ((if d.point - 1 < 0 then ['-'] else if plus then ['+'] else []) ++
          Nat.toDigits 10 (d.point - 1).natAbs) := (List.append_assoc _ _ _).symm
  rw [hsplit, hsplit, signExponent_append hmantissa]
  by_cases hnegative : d.point - 1 < 0
  · simp [hnegative]
  · have hhead : (Nat.toDigits 10 (d.point - 1).natAbs).head? ≠ some '-' := by
      intro h
      have hmem := List.mem_of_mem_head? h
      exact absurd (Nat.isDigit_of_mem_toDigits (by decide) (by decide) hmem) (by decide)
    simp [hnegative, hhead]

/-! ### The layout of key text -/

lemma equal_zero_iff (negative : Bool) (m : Magnitude) :
    (finite negative m).equal zero = true ↔ m.significand = 0 := by
  rw [equal_iff]
  constructor
  · rintro (⟨h, -⟩ | ⟨-, h⟩)
    · exact of_decide_eq_true h
    · rw [(finite.inj h).2]
      rfl
  · intro h
    exact .inl ⟨decide_eq_true h, rfl⟩

/-- Of a number other than zero the key text is written by the layout. -/
lemma keyText_finite (negative : Bool) (hm : m.significand ≠ 0) :
    (finite negative m).keyText = String.ofList (NumberLayout.forKeys.write (finite negative m)) := by
  have hequal : ¬ (finite negative m).equal zero = true := by rwa [equal_zero_iff]
  have hsign : 'e' ∉ (if negative then ['-'] else []) := by cases negative <;> decide
  have hlarge := leastLarge_le_iff negative hm
  have hsmall := lt_leastPlain_iff negative hm
  rw [keyText, if_neg (by simp [isNaN]), if_neg (by simp [isInfinite]), if_neg hequal]
  split
  · next hlimits =>
    rw [Bool.or_eq_true, hlarge, hsmall] at hlimits
    have hexponent : ¬ (NumberLayout.forKeys.leastPoint ≤ m.shortest.point ∧
        m.shortest.point ≤ NumberLayout.forKeys.greatestPoint) := by
      simp only [NumberLayout.forKeys]
      omega
    have hscientific : ¬ (NumberLayout.scientific.leastPoint ≤ m.shortest.point ∧
        m.shortest.point ≤ NumberLayout.scientific.greatestPoint) := by
      simp only [NumberLayout.scientific]
      omega
    rw [NumberLayout.write, NumberLayout.write, if_neg hm, if_neg hm, NumberLayout.writeDecimal,
      NumberLayout.writeDecimal, if_neg hexponent, if_neg hscientific]
    exact congrArg String.ofList (signExponent_writeExponent hsign m.shortest)
  · next hlimits =>
    rw [Bool.or_eq_true, hlarge, hsmall] at hlimits
    have hfull : NumberLayout.forKeys.leastPoint ≤ m.shortest.point ∧
        m.shortest.point ≤ NumberLayout.forKeys.greatestPoint := by
      simp only [NumberLayout.forKeys]
      omega
    have hplain : NumberLayout.plain.leastPoint ≤ m.shortest.point ∧
        m.shortest.point ≤ NumberLayout.plain.greatestPoint := by
      simp only [NumberLayout.plain]
      omega
    rw [NumberLayout.write, NumberLayout.write, if_neg hm, if_neg hm, NumberLayout.writeDecimal,
      NumberLayout.writeDecimal, if_pos hfull, if_pos hplain]
    rfl

/-- **Key text has a layout.**  Comparing a number with the two limits comes to looking at where
its point stands. -/
theorem keyText_eq_write (x : Double) :
    x.keyText = String.ofList (NumberLayout.forKeys.write x) := by
  cases x with
  | nan => decide
  | infinite negative => cases negative <;> decide
  | finite negative m =>
    by_cases hm : m.significand = 0
    · have hequal : (finite negative m).equal zero = true := (equal_zero_iff negative m).2 hm
      rw [keyText, if_neg (by simp [isNaN]), if_neg (by simp [isInfinite]), if_pos hequal]
      simp [NumberLayout.write, hm, NumberLayout.forKeys]
    · exact keyText_finite negative hm

end Double

end Narrowing
