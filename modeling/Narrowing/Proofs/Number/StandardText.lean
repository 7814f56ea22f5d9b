import Narrowing.Proofs.Number.Minimal
import Narrowing.Proofs.Number.Threshold
/-!
# The standard text of a number

The text of a number as a property key is the one that ECMAScript gives to it.  The standard takes
the shortest digits that are read as the number and the place of the point, and has four forms for
them: the digits with zeros after them, with a point among them, with zeros before them, and with
an exponent.  Zero, the infinities and NaN have texts of their own.
-/

namespace Narrowing

/-- The standard form of the digits `d₁…dₖ` of a decimal `0.d₁…dₖ * 10 ^ n`. -/
structure NumberLayout.IsStandard (digits : List Char) (n : ℤ) (text : List Char) : Prop where
  /-- Zeros stand after the digits. -/
  whole : digits.length ≤ n → n ≤ 21 →
    text = digits ++ List.replicate (n - digits.length).toNat '0'
  /-- A point stands after the digit with the number `n`. -/
  mixed : 0 < n → n ≤ 21 → n < digits.length →
    text = digits.take n.toNat ++ '.' :: digits.drop n.toNat
  /-- Zeros stand between the point and the digits. -/
  fraction : -6 < n → n ≤ 0 → text = '0' :: '.' :: (List.replicate (-n).toNat '0' ++ digits)
  /-- A signed exponent stands after the digits. -/
  exponent : ¬ (-6 < n ∧ n ≤ 21) → ∃ first rest, digits = first :: rest ∧
    text = first :: ((if rest = [] then [] else '.' :: rest) ++
      'e' :: (if n - 1 < 0 then '-' else '+') :: Nat.toDigits 10 (n - 1).natAbs)

namespace NumberLayout

/-- The layout of key text has the standard form. -/
lemma isStandard_forKeys (d : Decimal) :
    IsStandard d.digits d.point (forKeys.writeDecimal d) := by
  have hfull (h : -6 < d.point ∧ d.point ≤ 21) :
      forKeys.writeDecimal d = writeInFull false d.digits d.point :=
    if_pos ⟨by simp only [forKeys]; omega, h.2⟩
  refine ⟨fun hlength hn => ?_, fun hpos hn hlength => ?_, fun hpos hn => ?_, fun hn => ?_⟩
  · have hpos := d.length_digits_pos
    have hzeros : d.point.toNat - d.digits.length = (d.point - d.digits.length).toNat := by omega
    rw [hfull ⟨by omega, hn⟩, writeInFull, if_neg (by omega), if_neg (by omega), hzeros]
    exact List.append_nil _
  · rw [hfull ⟨by omega, hn⟩, writeInFull, if_neg (by omega), if_pos hlength]
  · rw [hfull ⟨hpos, by omega⟩, writeInFull, if_pos hn]
  · obtain ⟨first, rest, hdigits⟩ := List.exists_cons_of_length_pos d.length_digits_pos
    have hexponent : forKeys.writeDecimal d = writeExponent true d.digits d.point :=
      if_neg fun h => hn ⟨by simp only [forKeys] at h; omega, h.2⟩
    refine ⟨first, rest, hdigits, ?_⟩
    rw [hexponent, writeExponent, hdigits]
    by_cases hrest : rest = []
    · by_cases hsign : d.point - 1 < 0 <;> simp [hrest, hsign]
    · have hlength : 0 < rest.length := List.length_pos_iff.2 hrest
      by_cases hsign : d.point - 1 < 0 <;> simp [hrest, hsign]

end NumberLayout

/-- A decimal is `0.d₁…dₖ * 10 ^ n` for its digits and the place of its point. -/
lemma Decimal.quantity_eq (d : Decimal) :
    d.quantity = (Nat.ofDigitChars 10 d.digits 0 : ℚ) / 10 ^ d.digits.length * 10 ^ d.point := by
  have hpow : (10 : ℚ) ^ d.digits.length ≠ 0 := by positivity
  rw [quantity, ofDigitChars_digits, point, zpow_add₀ (by norm_num), zpow_natCast]
  field_simp

namespace Double

/-- The text is the one that the standard gives to the number. -/
structure IsStandardText (x : Double) (text : String) : Prop where
  nan : x = .nan → text = "NaN"
  infinite : ∀ negative, x = .infinite negative →
    text = if negative then "-Infinity" else "Infinity"
  zero : x.isZero = true → text = "0"
  finite : ∀ negative m, x = .finite negative m → m.significand ≠ 0 → ∃ d : Decimal,
    d.IsShortest m ∧
    d.quantity = (Nat.ofDigitChars 10 d.digits 0 : ℚ) / 10 ^ d.digits.length * 10 ^ d.point ∧
    ∃ cs, NumberLayout.IsStandard d.digits d.point cs ∧
      text.toList = (if x.lt Double.zero then ['-'] else []) ++ cs

lemma finite_lt_zero (negative : Bool) {m : Magnitude} (hm : m.significand ≠ 0) :
    (Double.finite negative m).lt .zero = negative := by
  have hpos := Magnitude.units_pos hm
  have hzero : signedUnits false .zero = 0 := by decide
  cases negative with
  | false =>
    rw [Double.zero, lt, hzero, signedUnits, if_neg Bool.false_ne_true]
    exact decide_eq_false (by omega)
  | true =>
    rw [Double.zero, lt, hzero, signedUnits, if_pos rfl]
    exact decide_eq_true (by omega)

/-- **Key text is the standard text**, for every number. -/
theorem key_text_is_standard (x : Double) : x.IsStandardText x.keyText where
  nan h := by rw [h]; rfl
  infinite negative h := by
    rw [h]
    cases negative <;> decide
  zero h := by
    cases x with
    | nan => exact nomatch h
    | infinite negative => exact nomatch h
    | finite negative m =>
      have hm : m.significand = 0 := of_decide_eq_true h
      rw [keyText_eq_write, NumberLayout.write, if_pos hm]
      cases negative <;> decide
  finite negative m h hm := by
    refine ⟨m.shortest, Magnitude.isShortest_shortest hm, m.shortest.quantity_eq, _,
      NumberLayout.isStandard_forKeys m.shortest, ?_⟩
    rw [h, keyText_eq_write, String.toList_ofList, NumberLayout.write, if_neg hm,
      finite_lt_zero negative hm]

/-- Both limits and the numbers before them. -/
example : [ofDecimal false 9999999999999999 5, ofDecimal false 1 21,
      ofDecimal true 9999999999999997 (-22), ofDecimal true 1 (-6)].map keyText =
    ["999999999999999900000", "1e+21", "-9.999999999999997e-7", "-0.000001"] := by decide +kernel

end Double

end Narrowing
