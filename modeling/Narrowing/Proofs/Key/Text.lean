import Narrowing.Proofs.Key.Naming
/-!
# Texts as keys

A text names an index if it is the numeral of one, without a sign or leading zeros, and
otherwise it names itself.  An index has one numeral, so different texts name different
properties, and the key of a text tells which text it was.
-/

namespace Narrowing

namespace Key

/-- The text is the numeral of an index. -/
def IsNumeral (s : String) : Prop := ∃ n < indexLimit, s = toString n

/-- A text that is no numeral names itself. -/
lemma ofString_of_not_isNumeral {s : String} (h : ¬ IsNumeral s) : ofString s = .string s :=
  (ofString_eq_string_iff s).2 fun n hlimit hs => h ⟨n.toNat, hlimit, hs⟩

lemma exists_ofString_eq_index {s : String} (h : IsNumeral s) :
    ∃ n : UInt32, ofString s = .index n := by
  obtain ⟨n, hlimit, rfl⟩ := h
  exact ⟨UInt32.ofNat n, by rw [ofString_toString, ofNat_of_lt hlimit]⟩

lemma isText_ofString_iff (s : String) : (ofString s).isText = true ↔ ¬ IsNumeral s := by
  by_cases h : IsNumeral s
  · obtain ⟨n, hn⟩ := exists_ofString_eq_index h
    simp [hn, h, isText, string?]
  · simp [ofString_of_not_isNumeral h, h, isText, string?]

instance (s : String) : Decidable (IsNumeral s) :=
  decidable_of_iff ((ofString s).isText = false) <| by
    rw [← Bool.not_eq_true, isText_ofString_iff, not_not]

lemma isSymbol_ofString (s : String) : (ofString s).isSymbol = false := by
  by_cases h : IsNumeral s
  · obtain ⟨n, hn⟩ := exists_ofString_eq_index h
    rw [hn]
    rfl
  · rw [ofString_of_not_isNumeral h]
    rfl

/-- Different texts name different properties. -/
theorem ofString_injective {s t : String} (h : ofString s = ofString t) : s = t := by
  by_cases hs : IsNumeral s
  · obtain ⟨n, hn⟩ := exists_ofString_eq_index hs
    obtain ⟨-, rfl⟩ := (ofString_eq_index_iff s n).1 hn
    exact ((ofString_eq_index_iff t n).1 (h ▸ hn)).2.symm
  · by_cases ht : IsNumeral t
    · obtain ⟨n, hn⟩ := exists_ofString_eq_index ht
      obtain ⟨-, rfl⟩ := (ofString_eq_index_iff t n).1 hn
      exact ((ofString_eq_index_iff s n).1 (h.trans hn)).2
    · rw [ofString_of_not_isNumeral hs, ofString_of_not_isNumeral ht] at h
      exact Key.string.inj h

/-! ### Several texts -/

lemma mem_map_ofString_iff (names : List String) (n : UInt32) :
    .index n ∈ names.map ofString ↔ n.toNat < indexLimit ∧ toString n.toNat ∈ names := by
  rw [List.mem_map]
  constructor
  · rintro ⟨name, hname, hkey⟩
    obtain ⟨hlimit, rfl⟩ := (ofString_eq_index_iff name n).1 hkey
    exact ⟨hlimit, hname⟩
  · rintro ⟨hlimit, hname⟩
    exact ⟨_, hname, (ofString_eq_index_iff _ n).2 ⟨hlimit, rfl⟩⟩

/-- The texts among the keys of texts are the texts that are no numerals. -/
lemma filter_isText_map_ofString (names : List String) :
    (names.map ofString).filter isText =
      (names.filter fun name => ¬ IsNumeral name).map .string := by
  induction names with
  | nil => rfl
  | cons name rest ih =>
    by_cases h : IsNumeral name
    · have htext : ¬ (ofString name).isText = true := (isText_ofString_iff name).not_left.2 h
      rw [List.map_cons, List.filter_cons_of_neg htext, List.filter_cons_of_neg (by simp [h]), ih]
    · have htext : (ofString name).isText = true := (isText_ofString_iff name).2 h
      rw [List.map_cons, List.filter_cons_of_pos htext, List.filter_cons_of_pos (by simp [h]),
        List.map_cons, ih, ofString_of_not_isNumeral h]

lemma filter_isSymbol_map_ofString (names : List String) :
    (names.map ofString).filter isSymbol = [] := by
  refine List.filter_eq_nil_iff.2 fun k hk => ?_
  obtain ⟨name, -, rfl⟩ := List.mem_map.1 hk
  rw [isSymbol_ofString]
  exact Bool.false_ne_true

/-- The numeral of the greatest index is one, and neither the number after it nor a numeral with
a leading zero is. -/
example : IsNumeral "4294967294" ∧ ¬ IsNumeral "4294967295" ∧ ¬ IsNumeral "00" := by
  decide +kernel

end Key

end Narrowing
