import Narrowing.Proofs.Text.Numeral
/-!
# Key text is a numeral

What a layout writes of a decimal that is not zero has the parts of a numeral, wherever its point
stands: before the point there is always a digit, the mark of an exponent follows a digit, and
the exponent has at most one sign.  So the key text of every finite number is a numeral.  The
texts of NaN and of the infinities have a letter where a digit has to be and are none.
-/

namespace Narrowing

open Text

namespace Text.IsDigitRow

variable {cs rest : List Char}

lemma append (hcs : IsDigitRow cs) (hrest : IsDigitRow rest) : IsDigitRow (cs ++ rest) :=
  List.forall_mem_append.2 ⟨hcs, hrest⟩

lemma take (hcs : IsDigitRow cs) (count : Nat) : IsDigitRow (cs.take count) :=
  fun c hc => hcs c (List.mem_of_mem_take hc)

lemma drop (hcs : IsDigitRow cs) (count : Nat) : IsDigitRow (cs.drop count) :=
  fun c hc => hcs c (List.mem_of_mem_drop hc)

end Text.IsDigitRow

namespace NumberLayout

variable {sign : List Char}

lemma isDigitRow_digits (d : Decimal) : IsDigitRow d.digits :=
  fun c hc => (isDigit_iff c).1 (Decimal.isDigit_of_mem_digits hc)

lemma isDigitRow_zeros (count : Nat) : IsDigitRow (List.replicate count '0') := by
  intro c hc
  rw [List.eq_of_mem_replicate hc]
  decide

/-- What is written in full has no exponent. -/
lemma isNumeral_writeInFull (hsign : IsSign sign) (fraction : Bool) (d : Decimal) (point : Int) :
    IsNumeral (sign ++ writeInFull fraction d.digits point) := by
  have hdigits := isDigitRow_digits d
  have hlength := d.length_digits_pos
  have hnone : IsExponent [] := .inl rfl
  unfold writeInFull
  split
  · have hfraction := (isDigitRow_zeros (-point).toNat).append hdigits
    have hnumeral := IsNumeral.intro hsign (List.cons_ne_nil '0' []) (isDigitRow_zeros 1)
      (.inr ⟨_, hfraction, rfl⟩) hnone
    rwa [List.append_nil] at hnumeral
  · split
    · have hne : d.digits.take point.toNat ≠ [] := by
        rw [← List.length_pos_iff, List.length_take]
        omega
      have hnumeral := IsNumeral.intro hsign hne (hdigits.take _)
        (.inr ⟨_, hdigits.drop point.toNat, rfl⟩) hnone
      rwa [List.append_nil] at hnumeral
    · have hwhole := hdigits.append (isDigitRow_zeros (point.toNat - d.digits.length))
      have hfraction : IsFraction (if fraction then ['.', '0'] else []) := by
        cases fraction with
        | true => exact .inr ⟨['0'], isDigitRow_zeros 1, rfl⟩
        | false => exact .inl rfl
      have hne := List.append_ne_nil_of_left_ne_nil (List.length_pos_iff.1 hlength)
        (List.replicate (point.toNat - d.digits.length) '0')
      have hnumeral := IsNumeral.intro hsign hne hwhole hfraction hnone
      rwa [List.append_nil] at hnumeral

/-- What is written with an exponent has one digit before the point. -/
lemma isNumeral_writeExponent (hsign : IsSign sign) (plus : Bool) (d : Decimal) (point : Int) :
    IsNumeral (sign ++ writeExponent plus d.digits point) := by
  have hdigits := isDigitRow_digits d
  have hlength := d.length_digits_pos
  have hne : d.digits.take 1 ≠ [] := by
    rw [← List.length_pos_iff, List.length_take]
    omega
  have hfraction : IsFraction (if d.digits.length ≤ 1 then [] else '.' :: d.digits.drop 1) := by
    split
    · exact .inl rfl
    · exact .inr ⟨_, hdigits.drop 1, rfl⟩
  have hexponentSign :
      IsSign (if point - 1 < 0 then ['-'] else if plus then ['+'] else []) := by
    split
    · exact .inr (.inr rfl)
    · split
      · exact .inr (.inl rfl)
      · exact .inl rfl
  have hexponent : IsDigitRow (Nat.toDigits 10 (point - 1).natAbs) :=
    fun c hc => (isDigit_iff c).1 (Nat.isDigit_of_mem_toDigits (by decide) (by decide) hc)
  have hnumeral := IsNumeral.intro hsign hne (hdigits.take 1) hfraction
    (.inr ⟨'e', _, _, .inl rfl, hexponentSign, Nat.toDigits_ne_nil, hexponent, rfl⟩)
  rwa [← List.append_assoc (d.digits.take 1)] at hnumeral

/-- What a layout writes of a decimal is a numeral, with a sign or without. -/
theorem isNumeral_writeDecimal (layout : NumberLayout) (hsign : IsSign sign) (d : Decimal) :
    IsNumeral (sign ++ layout.writeDecimal d) := by
  unfold writeDecimal
  split
  · exact isNumeral_writeInFull hsign layout.fraction d d.point
  · exact isNumeral_writeExponent hsign layout.plus d d.point

end NumberLayout

namespace Double

lemma isNumeral_keyText_finite (negative : Bool) (m : Magnitude) :
    IsNumeral (finite negative m).keyText.toList := by
  have hsign : IsSign (if (finite negative m).isSigned then ['-'] else []) := by
    split
    · exact .inr (.inr rfl)
    · exact .inl rfl
  rw [toList_keyText, unsignedText]
  by_cases hzero : m.significand = 0
  · rw [if_pos hzero]
    exact .intro hsign (List.cons_ne_nil '0' []) (NumberLayout.isDigitRow_zeros 1) (.inl rfl)
      (.inl rfl)
  · rw [if_neg hzero]
    exact NumberLayout.isNumeral_writeDecimal _ hsign _

lemma isNumeral_keyText_iff (x : Double) :
    IsNumeral x.keyText.toList ↔ ∃ negative m, x = .finite negative m := by
  cases x with
  | nan =>
    have htext : ¬ IsNumeral nan.keyText.toList := by
      rw [← isNumber_iff]
      decide
    exact iff_of_false htext fun ⟨_, _, h⟩ => nomatch h
  | infinite negative =>
    have htext : ¬ IsNumeral (infinite negative).keyText.toList := by
      rw [← isNumber_iff]
      cases negative <;> decide
    exact iff_of_false htext fun ⟨_, _, h⟩ => nomatch h
  | finite negative m => exact iff_of_true (isNumeral_keyText_finite negative m) ⟨_, _, rfl⟩

end Double

/-- **Key text is a numeral exactly if the number is finite**, and then it is accepted as a number
string. -/
theorem Guard.key_text_is_numeral_iff (p : Predicates) (x : Double) :
    ((check p (.classifier .isNumberString) (.string x.keyText)).result = true ↔
        ∃ negative m, x = .finite negative m) ∧
      (IsNumeral x.keyText.toList ↔ ∃ negative m, x = .finite negative m) := by
  refine ⟨?_, x.isNumeral_keyText_iff⟩
  rw [result_check_isNumberString_iff, ← x.isNumeral_keyText_iff]
  simp [Value.string?]

end Narrowing
