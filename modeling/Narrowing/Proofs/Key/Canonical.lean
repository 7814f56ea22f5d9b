import Narrowing.Proofs.Key.Text
/-!
# The canonical key of a text

An index is read from a text by a reader that takes more than numerals: a plus sign may stand in
front, and zeros.  What it has read counts if it is written as the text again.  Here that test is
shown to let through the numerals of indices, as the grammar of numerals has them, and nothing
else.  So the key of a text is an index or the text itself, never both, and the text can be had
back from it.

What carries this is that digits without leading zeros are the digits of the number that they
stand for.  The proof goes by the last digit, as the digits of a number do.
-/

namespace Narrowing

namespace Key

/-! ### The grammar of numerals -/

/-- Digits without leading zeros: the first one is a zero only if it stands alone. -/
structure IsDecimal (cs : List Char) : Prop where
  ne_nil : cs ≠ []
  isDigit : ∀ c ∈ cs, c.isDigit = true
  eq_of_leading_zero : cs.head? = some '0' → cs = ['0']

lemma exists_digitChar_eq {c : Char} (h : c.isDigit = true) :
    ∃ d < 10, c.toNat - '0'.toNat = d ∧ d.digitChar = c := by
  have hrange : 48 ≤ c.toNat ∧ c.toNat ≤ 57 := Char.isDigit_iff_toNat.1 h
  have hdigits : ∀ d : Fin 10, d.val.digitChar.toNat = 48 + d.val := by decide
  obtain ⟨d, hd⟩ := Nat.exists_eq_add_of_le hrange.1
  have hten : d < 10 := by omega
  refine ⟨d, hten, by rw [hd]; exact Nat.add_sub_cancel_left 48 d, ?_⟩
  exact Char.toNat_inj.1 ((hdigits ⟨d, hten⟩).trans hd.symm)

lemma IsDecimal.init {cs : List Char} {c : Char} (h : IsDecimal (cs ++ [c])) (hne : cs ≠ []) :
    IsDecimal cs ∧ cs.head? ≠ some '0' := by
  have hhead : (cs ++ [c]).head? = cs.head? := List.head?_append_of_ne_nil cs hne
  have hzero : cs.head? ≠ some '0' := by
    intro hzero
    have hlength := congrArg List.length (h.eq_of_leading_zero (hhead.trans hzero))
    have hpos := List.length_pos_iff.2 hne
    simp only [List.length_append, List.length_singleton] at hlength
    omega
  refine ⟨⟨hne, fun d hd => h.isDigit d (List.mem_append_left _ hd), ?_⟩, hzero⟩
  exact fun hhead => absurd hhead hzero

/-- Digits without leading zeros are the digits of their number. -/
theorem IsDecimal.toDigits_ofDigitChars {cs : List Char} (h : IsDecimal cs) :
    Nat.toDigits 10 (Nat.ofDigitChars 10 cs 0) = cs := by
  induction cs using List.reverseRecOn with
  | nil => exact absurd rfl h.ne_nil
  | append_singleton cs c ih =>
    have hdigit : c.isDigit = true := h.isDigit c (List.mem_append_right _ List.mem_cons_self)
    obtain ⟨d, hten, hd, hchar⟩ := exists_digitChar_eq hdigit
    have hlast : Nat.toDigits 10 d = [c] := by rw [Nat.toDigits_of_lt_base hten, hchar]
    have hvalue : Nat.ofDigitChars 10 (cs ++ [c]) 0 = 10 * Nat.ofDigitChars 10 cs 0 + d := by
      rw [Nat.ofDigitChars_append, Nat.ofDigitChars_cons, hd, Nat.ofDigitChars_nil]
    by_cases hnil : cs = []
    · rw [hvalue, hnil]
      simpa using hlast
    · obtain ⟨hcs, hhead⟩ := h.init hnil
      have hinit := ih hcs
      have hpos : 0 < Nat.ofDigitChars 10 cs 0 := by
        refine Nat.pos_of_ne_zero fun hzero => hhead ?_
        rw [← hinit, hzero]
        rfl
      rw [hvalue, ← Nat.toDigits_append_toDigits (by decide) hpos hten, hinit, hlast]

/-- The digits of a number begin with a zero only if it is zero. -/
lemma eq_zero_of_head?_toDigits {n : Nat} (h : (Nat.toDigits 10 n).head? = some '0') : n = 0 := by
  induction n using Nat.strongRecOn with
  | _ n ih =>
    by_cases hten : n < 10
    · rw [Nat.toDigits_of_lt_base hten, List.head?_cons, Option.some_inj] at h
      exact Nat.digitChar_eq_zero.1 h
    · have hfront : Nat.toDigits 10 (n / 10) ≠ [] :=
        List.ne_nil_of_length_pos Nat.length_toDigits_pos
      rw [Nat.toDigits_of_base_le (by decide) (by omega),
        List.head?_append_of_ne_nil _ hfront] at h
      have hzero := ih (n / 10) (by omega) h
      omega

lemma isDecimal_toDigits (n : Nat) : IsDecimal (Nat.toDigits 10 n) where
  ne_nil := List.ne_nil_of_length_pos Nat.length_toDigits_pos
  isDigit _ hc := Nat.isDigit_of_mem_toDigits (by decide) (by decide) hc
  eq_of_leading_zero h := by
    rw [eq_zero_of_head?_toDigits h]
    rfl

/-- The text is the decimal numeral of the number, without a sign, leading zeros or any other
character. -/
structure Spells (s : String) (n : Nat) : Prop where
  isDecimal : IsDecimal s.toList
  value : Nat.ofDigitChars 10 s.toList 0 = n

/-- A number has one numeral. -/
theorem spells_iff (s : String) (n : Nat) : Spells s n ↔ s = toString n := by
  constructor
  · rintro ⟨hdecimal, rfl⟩
    rw [Nat.toString_eq_ofList_toDigits, hdecimal.toDigits_ofDigitChars, String.ofList_toList]
  · rintro rfl
    refine ⟨?_, ?_⟩ <;> rw [toList_toString]
    · exact isDecimal_toDigits n
    · exact Nat.ofDigitChars_ten_toDigits

/-! ### The key of a text -/

/-- The text of a key: of an index its numeral. -/
def text? : Key → Option String
  | .string s => some s
  | .index n => some (toString n.toNat)
  | .symbol _ => none

/-- The key is the canonical one of a text: the index that the text is a numeral of, and the text
itself if there is none. -/
structure IsCanonical (s : String) (key : Key) : Prop where
  index_iff : ∀ n : UInt32, key = .index n ↔ Spells s n.toNat ∧ n.toNat < 2 ^ 32 - 1
  string_of_not : (¬ ∃ n < 2 ^ 32 - 1, Spells s n) → key = .string s
  text?_eq : key.text? = some s

lemma text?_ofString (s : String) : (ofString s).text? = some s := by
  by_cases h : IsNumeral s
  · obtain ⟨n, hn⟩ := exists_ofString_eq_index h
    rw [hn, ((ofString_eq_index_iff s n).1 hn).2]
    rfl
  · rw [ofString_of_not_isNumeral h]
    rfl

lemma isCanonical_ofString (s : String) : IsCanonical s (ofString s) where
  index_iff n := by
    rw [ofString_eq_index_iff, spells_iff]
    exact and_comm
  string_of_not h := by
    refine ofString_of_not_isNumeral ?_
    rintro ⟨n, hlimit, hs⟩
    exact h ⟨n, hlimit, (spells_iff s n).2 hs⟩
  text?_eq := text?_ofString s

end Key

/-- **Texts have canonical keys.**  Two texts name the same property exactly if they are equal.
A text names an index exactly if it is the numeral of that index, and itself if it is the numeral
of none, and either way the key gives the text back. -/
theorem text_keys_are_canonical (s t : String) :
    (Key.ofString s = Key.ofString t ↔ s = t) ∧ Key.IsCanonical s (Key.ofString s) := by
  refine ⟨⟨Key.ofString_injective, ?_⟩, Key.isCanonical_ofString s⟩
  rintro rfl
  rfl

/-- No sign, no leading zero, no other script's digits and no number beyond the last index. -/
example : ["4294967294", "4294967295", "+7", "07", "", "-0", "٣", "99999999999"].map Key.ofString =
    [.index 4294967294, .string "4294967295", .string "+7", .string "07", .string "", .string "-0",
      .string "٣", .string "99999999999"] := by decide +kernel

end Narrowing
