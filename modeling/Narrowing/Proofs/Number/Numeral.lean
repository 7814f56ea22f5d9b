import Mathlib.Data.List.TakeWhile
import Narrowing.Number.Layout
import Narrowing.Proofs.Number.RoundTrip
/-!
# Reading written numbers

Where the decimal point of a number stands decides how it is written: with leading zeros, with
a point among its digits, with trailing zeros, or with an exponent.  Here such a text is read
back without a look at the form it is in.  The digits before and after the point are one
number, and the point and the exponent say how far it is shifted.

What is read is the quantity that was written, in every layout.  So two numbers with the same
text have shortest decimals that are equal in quantity, and as no quantity rounds to two
magnitudes, the text of a number determines the number but for the sign of zero.
-/

namespace Narrowing

namespace Decimal

/-! ### The reader -/

/-- The number of an exponent, with a sign or without. -/
def readExponent : List Char → Int
  | '-' :: digits => -(Nat.ofDigitChars 10 digits 0 : Int)
  | '+' :: digits => Nat.ofDigitChars 10 digits 0
  | digits => Nat.ofDigitChars 10 digits 0

/-- The decimal of digits that may have a point among them. -/
def readMantissa (cs : List Char) : Decimal :=
  let whole := cs.takeWhile (· != '.')
  let fraction := (cs.dropWhile (· != '.')).drop 1
  ⟨Nat.ofDigitChars 10 (whole ++ fraction) 0, -fraction.length⟩

/-- The decimal of a text without a sign: digits that may have a point among them, and then
perhaps an exponent. -/
def read (cs : List Char) : Decimal :=
  let mantissa := readMantissa (cs.takeWhile (· != 'e'))
  ⟨mantissa.coefficient,
    mantissa.exponent + readExponent ((cs.dropWhile (· != 'e')).drop 1)⟩

lemma takeWhile_bne_append {c : Char} {cs : List Char} (h : c ∉ cs) (rest : List Char) :
    (cs ++ c :: rest).takeWhile (· != c) = cs := by
  have hall : ∀ a ∈ cs, (a != c) = true := by
    intro a ha
    exact bne_iff_ne.2 fun hac => h (hac ▸ ha)
  rw [List.takeWhile_append_of_pos hall, List.takeWhile_cons_of_neg (by simp), List.append_nil]

lemma dropWhile_bne_append {c : Char} {cs : List Char} (h : c ∉ cs) (rest : List Char) :
    (cs ++ c :: rest).dropWhile (· != c) = c :: rest := by
  have hall : ∀ a ∈ cs, (a != c) = true := by
    intro a ha
    exact bne_iff_ne.2 fun hac => h (hac ▸ ha)
  rw [List.dropWhile_append_of_pos hall, List.dropWhile_cons_of_neg (by simp)]

lemma takeWhile_bne_eq_self {c : Char} {cs : List Char} (h : c ∉ cs) :
    cs.takeWhile (· != c) = cs := by
  refine List.takeWhile_eq_self_iff.2 fun a ha => ?_
  exact bne_iff_ne.2 fun hac => h (hac ▸ ha)

lemma dropWhile_bne_eq_nil {c : Char} {cs : List Char} (h : c ∉ cs) :
    cs.dropWhile (· != c) = [] := by
  refine List.dropWhile_eq_nil_iff.2 fun a ha => ?_
  exact bne_iff_ne.2 fun hac => h (hac ▸ ha)

lemma readMantissa_whole {whole : List Char} (h : '.' ∉ whole) :
    readMantissa whole = ⟨Nat.ofDigitChars 10 whole 0, 0⟩ := by
  rw [readMantissa, takeWhile_bne_eq_self h, dropWhile_bne_eq_nil h]
  simp

lemma readMantissa_point {whole : List Char} (h : '.' ∉ whole) (fraction : List Char) :
    readMantissa (whole ++ '.' :: fraction) =
      ⟨Nat.ofDigitChars 10 (whole ++ fraction) 0, -fraction.length⟩ := by
  rw [readMantissa, takeWhile_bne_append h, dropWhile_bne_append h]
  rfl

lemma read_of_not_mem {cs : List Char} (h : 'e' ∉ cs) : read cs = readMantissa cs := by
  rw [read, takeWhile_bne_eq_self h, dropWhile_bne_eq_nil h]
  simp [readExponent]

lemma read_exponent {mantissa : List Char} (h : 'e' ∉ mantissa) (exponent : List Char) :
    read (mantissa ++ 'e' :: exponent) =
      ⟨(readMantissa mantissa).coefficient,
        (readMantissa mantissa).exponent + readExponent exponent⟩ := by
  rw [read, takeWhile_bne_append h, dropWhile_bne_append h]
  rfl

/-! ### Digits -/

lemma isDigit_of_mem_digits {d : Decimal} {c : Char} (h : c ∈ d.digits) : c.isDigit = true :=
  Nat.isDigit_of_mem_toDigits (by decide) (by decide) h

lemma length_digits_pos (d : Decimal) : 0 < d.digits.length := Nat.length_toDigits_pos

lemma ofDigitChars_digits (d : Decimal) : Nat.ofDigitChars 10 d.digits 0 = d.coefficient :=
  Nat.ofDigitChars_ten_toDigits

/-- The marks of a text are no digits. -/
lemma not_mem_of_isDigit {cs : List Char} (h : ∀ c ∈ cs, c.isDigit = true) {mark : Char}
    (hmark : mark.isDigit = false) : mark ∉ cs := by
  intro hmem
  rw [h mark hmem] at hmark
  exact Bool.noConfusion hmark

lemma readExponent_digits {cs : List Char} (h : ∀ c ∈ cs, c.isDigit = true) :
    readExponent cs = Nat.ofDigitChars 10 cs 0 := by
  unfold readExponent
  split
  · exact absurd (h '-' List.mem_cons_self) (by decide)
  · exact absurd (h '+' List.mem_cons_self) (by decide)
  · rfl

/-- Zeros after the coefficient count as much as in the exponent. -/
lemma count_shift (coefficient k : Nat) {exponent : Int} (h : -1074 ≤ exponent) :
    count ⟨10 ^ k * coefficient, exponent⟩ = count ⟨coefficient, exponent + k⟩ := by
  have hexponent : (exponent + k + 1074).toNat = k + (exponent + 1074).toNat := by omega
  rw [count, count, hexponent, Nat.pow_add, Nat.mul_comm (10 ^ k), Nat.mul_assoc]

end Decimal

namespace NumberLayout

open Decimal

variable {d : Decimal}

/-! ### What is written in full -/

/-- What is written in full are digits and at most one point. -/
lemma isDigit_of_mem_writeInFull {fraction : Bool} {point : Int} {c : Char}
    (h : c ∈ writeInFull fraction d.digits point) : c.isDigit = true ∨ c = '.' := by
  unfold writeInFull at h
  split at h
  · simp only [List.mem_cons, List.mem_append, List.mem_replicate] at h
    rcases h with rfl | rfl | ⟨-, rfl⟩ | h
    · exact .inl rfl
    · exact .inr rfl
    · exact .inl rfl
    · exact .inl (isDigit_of_mem_digits h)
  · split at h
    · simp only [List.mem_append, List.mem_cons] at h
      rcases h with h | rfl | h
      · exact .inl (isDigit_of_mem_digits (List.mem_of_mem_take h))
      · exact .inr rfl
      · exact .inl (isDigit_of_mem_digits (List.mem_of_mem_drop h))
    · simp only [List.mem_append, List.mem_replicate] at h
      rcases h with (h | ⟨-, rfl⟩) | h
      · exact .inl (isDigit_of_mem_digits h)
      · exact .inl rfl
      · cases fraction with
        | false => exact absurd h List.not_mem_nil
        | true =>
          simp only [if_true, List.mem_cons, List.not_mem_nil, or_false] at h
          rcases h with rfl | rfl
          · exact .inr rfl
          · exact .inl rfl

lemma mark_not_mem_writeInFull (fraction : Bool) (point : Int) :
    'e' ∉ writeInFull fraction d.digits point := by
  intro h
  rcases isDigit_of_mem_writeInFull h with h | h <;> revert h <;> decide

/-- Zeros before the digits add nothing to the coefficient. -/
lemma readMantissa_zeros_before (zeros : Nat) :
    readMantissa (['0'] ++ '.' :: (List.replicate zeros '0' ++ d.digits)) =
      ⟨d.coefficient, -(zeros + d.digits.length : Nat)⟩ := by
  have hwhole : '.' ∉ ['0'] := by decide
  rw [readMantissa_point hwhole, Nat.ofDigitChars_append, Nat.ofDigitChars_append,
    Nat.ofDigitChars_replicate_zero, List.length_append, List.length_replicate]
  exact congrArg (Decimal.mk · _) (ofDigitChars_digits d)

/-- Digits that are cut in two are put together again. -/
lemma readMantissa_cut (k : Nat) :
    readMantissa (d.digits.take k ++ '.' :: d.digits.drop k) =
      ⟨d.coefficient, -(d.digits.length - k : Nat)⟩ := by
  have hwhole : '.' ∉ d.digits.take k :=
    not_mem_of_isDigit (fun c hc => isDigit_of_mem_digits (List.mem_of_mem_take hc)) rfl
  rw [readMantissa_point hwhole, List.take_append_drop, ofDigitChars_digits, List.length_drop]

/-- Zeros after the digits count as much as in the exponent. -/
lemma count_readMantissa_zeros_after (fraction : Bool) (zeros : Nat) :
    (readMantissa (d.digits ++ List.replicate zeros '0' ++
      if fraction then ['.', '0'] else [])).count = count ⟨d.coefficient, zeros⟩ := by
  have hdigits : ∀ c ∈ d.digits ++ List.replicate zeros '0', c.isDigit = true := by
    intro c hc
    rcases List.mem_append.1 hc with hc | hc
    · exact isDigit_of_mem_digits hc
    · rw [List.eq_of_mem_replicate hc]
      rfl
  have hwhole : '.' ∉ d.digits ++ List.replicate zeros '0' := not_mem_of_isDigit hdigits rfl
  have hcoefficient : Nat.ofDigitChars 10 (d.digits ++ List.replicate zeros '0') 0 =
      10 ^ zeros * d.coefficient := by
    rw [Nat.ofDigitChars_append, Nat.ofDigitChars_replicate_zero, ofDigitChars_digits]
  cases fraction with
  | false =>
    rw [if_neg Bool.false_ne_true, List.append_nil, readMantissa_whole hwhole, hcoefficient,
      count_shift _ _ (by decide), Int.zero_add]
  | true =>
    rw [if_pos rfl, readMantissa_point hwhole, Nat.ofDigitChars_append, hcoefficient]
    have htenfold (n : Nat) : Nat.ofDigitChars 10 ['0'] n = 10 ^ 1 * n := rfl
    rw [htenfold, count_shift _ _ (by decide), count_shift _ _ (by decide)]
    congr 2
    simp

/-- Reading what is written in full gives the quantity. -/
lemma count_read_writeInFull (fraction : Bool) :
    (read (writeInFull fraction d.digits d.point)).count = d.count := by
  have hpoint : d.point = d.digits.length + d.exponent := rfl
  rw [read_of_not_mem (mark_not_mem_writeInFull fraction d.point), writeInFull]
  split
  · have hexponent : -(((-d.point).toNat + d.digits.length : Nat) : Int) = d.exponent := by omega
    have hread := readMantissa_zeros_before (d := d) (-d.point).toNat
    rw [hexponent] at hread
    exact congrArg count hread
  · split
    · have hexponent : -((d.digits.length - d.point.toNat : Nat) : Int) = d.exponent := by omega
      rw [readMantissa_cut, hexponent]
    · have hexponent : ((d.point.toNat - d.digits.length : Nat) : Int) = d.exponent := by omega
      rw [count_readMantissa_zeros_after, hexponent]

/-! ### What is written with an exponent -/

lemma readExponent_signed (plus : Bool) (exponent : Int) :
    readExponent ((if exponent < 0 then ['-'] else if plus then ['+'] else []) ++
      Nat.toDigits 10 exponent.natAbs) = exponent := by
  have hdigits : Nat.ofDigitChars 10 (Nat.toDigits 10 exponent.natAbs) 0 = exponent.natAbs :=
    Nat.ofDigitChars_ten_toDigits
  split
  · rw [List.singleton_append, readExponent, hdigits]
    omega
  · cases plus with
    | true =>
      rw [if_pos rfl, List.singleton_append, readExponent, hdigits]
      omega
    | false =>
      rw [if_neg Bool.false_ne_true, List.nil_append, readExponent_digits, hdigits]
      · omega
      · exact fun c hc => Nat.isDigit_of_mem_toDigits (by decide) (by decide) hc

/-- The digits with a point after the first are the decimal with that point. -/
lemma readMantissa_firstPoint :
    readMantissa (d.digits.take 1 ++ if d.digits.length ≤ 1 then [] else '.' :: d.digits.drop 1) =
      ⟨d.coefficient, 1 - d.digits.length⟩ := by
  have hlength := length_digits_pos d
  split
  · next hle =>
    have hwhole : '.' ∉ d.digits := not_mem_of_isDigit (fun _ => isDigit_of_mem_digits) rfl
    rw [List.append_nil, List.take_of_length_le hle, readMantissa_whole hwhole,
      ofDigitChars_digits]
    congr 1
    omega
  · rw [readMantissa_cut]
    congr 1
    omega

/-- Before an exponent there are digits and at most one point. -/
lemma mark_not_mem_firstPoint :
    'e' ∉ d.digits.take 1 ++ if d.digits.length ≤ 1 then [] else '.' :: d.digits.drop 1 := by
  intro h
  rcases List.mem_append.1 h with h | h
  · exact absurd (isDigit_of_mem_digits (List.mem_of_mem_take h)) (by decide)
  · split at h
    · exact absurd h List.not_mem_nil
    · rcases List.mem_cons.1 h with h | h
      · exact absurd h (by decide)
      · exact absurd (isDigit_of_mem_digits (List.mem_of_mem_drop h)) (by decide)

/-- Reading what is written with an exponent gives the decimal. -/
lemma read_writeExponent (plus : Bool) : read (writeExponent plus d.digits d.point) = d := by
  have hexponent : 1 - (d.digits.length : Int) + (d.point - 1) = d.exponent := by
    have hpoint : d.point = d.digits.length + d.exponent := rfl
    omega
  rw [writeExponent, read_exponent mark_not_mem_firstPoint, readMantissa_firstPoint,
    readExponent_signed, hexponent]

/-- Reading what is written gives the quantity. -/
theorem count_read_writeDecimal (layout : NumberLayout) (d : Decimal) :
    (read (layout.writeDecimal d)).count = d.count := by
  unfold writeDecimal
  split
  · exact count_read_writeInFull layout.fraction
  · rw [read_writeExponent]

/-- What is written begins with a digit. -/
lemma exists_writeDecimal_eq_cons (layout : NumberLayout) (d : Decimal) :
    ∃ c rest, layout.writeDecimal d = c :: rest ∧ c.isDigit = true := by
  obtain ⟨c, rest, hdigits⟩ := List.exists_cons_of_length_pos (length_digits_pos d)
  have hdigit : c.isDigit = true := isDigit_of_mem_digits (hdigits ▸ List.mem_cons_self)
  unfold writeDecimal writeInFull writeExponent
  rw [hdigits]
  split
  · split
    · exact ⟨_, _, rfl, rfl⟩
    · next hpoint =>
      split
      · obtain ⟨k, hk⟩ : ∃ k, d.point.toNat = k + 1 := ⟨d.point.toNat - 1, by omega⟩
        rw [hk]
        exact ⟨_, _, rfl, hdigit⟩
      · exact ⟨_, _, rfl, hdigit⟩
  · exact ⟨_, _, rfl, hdigit⟩

end NumberLayout

end Narrowing
