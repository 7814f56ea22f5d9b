import Narrowing.Proofs.Text.Numeral
/-!
# Base 64

A text in base 64 is one or more groups of four characters.  All of them are digits, of which
there are 64, but up to two at the very end may be padding.  The test reads a text group by
group; the description here does not mention groups, only the length of the text, its digits and
its padding.

The two agree because padding cannot reach into a group before the last: there are at most two
characters of it, and a group has four.  So digits that fill whole groups can be put before a
text, or taken away, and it stays what it was.
-/

namespace Narrowing.Text

/-! ### The description -/

/-- A digit of base 64: an ASCII letter or decimal digit, a plus or a slash. -/
def IsBase64Digit (c : Char) : Prop :=
  ('A' ≤ c ∧ c ≤ 'Z') ∨ ('a' ≤ c ∧ c ≤ 'z') ∨ ('0' ≤ c ∧ c ≤ '9') ∨ c = '+' ∨ c = '/'

/-- The text is not empty, its length is a multiple of four, and it is digits with at most two
padding characters after them. -/
structure IsBase64 (cs : List Char) : Prop where
  ne_nil : cs ≠ []
  four_dvd : 4 ∣ cs.length
  padded : ∃ digits padding, cs = digits ++ List.replicate padding '=' ∧ padding ≤ 2 ∧
    ∀ c ∈ digits, IsBase64Digit c

namespace IsBase64

variable {cs digits rest : List Char}

lemma four_le_length (h : IsBase64 cs) : 4 ≤ cs.length :=
  Nat.le_of_dvd (List.length_pos_of_ne_nil h.ne_nil) h.four_dvd

/-- Whole groups of digits before a text in base 64 make no difference. -/
lemma append_iff (hdigits : 4 ∣ digits.length) (hrest : rest ≠ []) :
    IsBase64 (digits ++ rest) ↔ (∀ c ∈ digits, IsBase64Digit c) ∧ IsBase64 rest := by
  have hlength : 4 ∣ (digits ++ rest).length ↔ 4 ∣ rest.length := by
    rw [List.length_append, Nat.dvd_add_right hdigits]
  constructor
  · rintro ⟨-, hdvd, all, padding, heq, hpadding, hall⟩
    have hdvd := hlength.1 hdvd
    have hfour : 4 ≤ rest.length := Nat.le_of_dvd (List.length_pos_of_ne_nil hrest) hdvd
    rcases List.append_eq_append_iff.1 heq with ⟨tail, rfl, rfl⟩ | ⟨tail, -, htail⟩
    · obtain ⟨hfirst, htail⟩ := List.forall_mem_append.1 hall
      exact ⟨hfirst, hrest, hdvd, tail, padding, rfl, hpadding, htail⟩
    · -- the padding would have to hold the rest
      have := congrArg List.length htail
      rw [List.length_replicate, List.length_append] at this
      omega
  · rintro ⟨hfirst, -, hdvd, tail, padding, rfl, hpadding, htail⟩
    refine ⟨by simp [hrest], hlength.2 hdvd, digits ++ tail, padding, ?_, hpadding, ?_⟩
    · rw [List.append_assoc]
    · exact List.forall_mem_append.2 ⟨hfirst, htail⟩

/-- A text without padding is digits. -/
lemma forall_isBase64Digit (h : IsBase64 cs) (hnot : '=' ∉ cs) : ∀ c ∈ cs, IsBase64Digit c := by
  obtain ⟨digits, padding, rfl, -, hdigits⟩ := h.padded
  cases padding with
  | zero => simpa using hdigits
  | succ padding => simp [List.replicate_succ] at hnot

lemma append (hdigits : cs = [] ∨ IsBase64 cs) (hnot : '=' ∉ cs) (hrest : IsBase64 rest) :
    IsBase64 (cs ++ rest) := by
  rcases hdigits with rfl | h
  · exact hrest
  · exact (append_iff h.four_dvd hrest.ne_nil).2 ⟨h.forall_isBase64Digit hnot, hrest⟩

lemma drop_four (h : IsBase64 cs) (hlength : 4 < cs.length) : IsBase64 (cs.drop 4) := by
  have htake : (cs.take 4).length = 4 := List.length_take_of_le (by omega)
  have hdrop : cs.drop 4 ≠ [] := by rw [ne_eq, List.drop_eq_nil_iff]; omega
  rw [← List.take_append_drop 4 cs] at h
  exact ((append_iff ⟨1, htake⟩ hdrop).1 h).2

end IsBase64

/-! ### The pattern -/

open RegularExpression (char)

/-- The digits. -/
def base64Class : List Char :=
  charRange 'A' 'Z' ++ (charRange 'a' 'z' ++ (charRange '0' '9' ++ ['+', '/']))

/-- The last group, which may end in padding. -/
def lastGroup : RegularExpression Char :=
  oneOf base64Class ^ 4 + (oneOf base64Class ^ 3 * char '=' +
    oneOf base64Class ^ 2 * (char '=' * char '='))

/-- The pattern `^(…{4})*(…{4}|…{3}=|…{2}==)$`, where `…` is `[A-Za-z0-9+/]`. -/
def base64Pattern : RegularExpression Char := (oneOf base64Class ^ 4).star * lastGroup

lemma mem_base64Class_iff (c : Char) : c ∈ base64Class ↔ IsBase64Digit c := by
  simp only [base64Class, List.mem_append, List.mem_cons, List.not_mem_nil, or_false,
    IsBase64Digit, mem_charRange_iff 'A' 'Z' (by decide), mem_charRange_iff 'a' 'z' (by decide),
    mem_charRange_iff '0' '9' (by decide)]

lemma mem_lastGroup_iff {cs : List Char} :
    cs ∈ lastGroup.matches' ↔ ∃ digits padding, cs = digits ++ List.replicate padding '=' ∧
      padding ≤ 2 ∧ digits.length + padding = 4 ∧ ∀ c ∈ digits, IsBase64Digit c := by
  simp only [lastGroup, RegularExpression.matches'_add, RegularExpression.matches'_mul,
    Language.mem_add, Language.mem_mul, mem_oneOf_pow, mem_char, mem_base64Class_iff]
  constructor
  · rintro (⟨hlength, hall⟩ | ⟨digits, ⟨hlength, hall⟩, _, rfl, rfl⟩ |
      ⟨digits, ⟨hlength, hall⟩, _, ⟨_, rfl, _, rfl, rfl⟩, rfl⟩)
    · exact ⟨cs, 0, (List.append_nil cs).symm, by decide, hlength, hall⟩
    · exact ⟨digits, 1, rfl, by decide, by omega, hall⟩
    · exact ⟨digits, 2, rfl, by decide, by omega, hall⟩
  · rintro ⟨digits, padding, rfl, hpadding, hlength, hall⟩
    obtain rfl | rfl | rfl : padding = 0 ∨ padding = 1 ∨ padding = 2 := by omega
    · exact .inl ⟨by simpa using hlength, by simpa using hall⟩
    · exact .inr (.inl ⟨digits, ⟨by omega, hall⟩, _, rfl, rfl⟩)
    · exact .inr (.inr ⟨digits, ⟨by omega, hall⟩, _, ⟨_, rfl, _, rfl, rfl⟩, rfl⟩)

/-- The texts that match the pattern are the texts in base 64. -/
lemma mem_base64Pattern_iff {cs : List Char} : cs ∈ base64Pattern.matches' ↔ IsBase64 cs := by
  simp only [base64Pattern, RegularExpression.matches'_mul, Language.mem_mul, mem_star_oneOf_pow,
    mem_lastGroup_iff, mem_base64Class_iff]
  constructor
  · rintro ⟨groups, ⟨hgroups, hdigits⟩, _, ⟨last, padding, rfl, hpadding, hlength, hlast⟩, rfl⟩
    have hfour : (last ++ List.replicate padding '=').length = 4 := by simpa using hlength
    have hne : last ++ List.replicate padding '=' ≠ [] := List.ne_nil_of_length_eq_add_one hfour
    exact (IsBase64.append_iff hgroups hne).2
      ⟨hdigits, hne, ⟨1, hfour⟩, last, padding, rfl, hpadding, hlast⟩
  · intro h
    -- the last group is the last four characters
    obtain ⟨k, hk⟩ := h.four_dvd
    have hfour := h.four_le_length
    have hgroups : (cs.take (4 * (k - 1))).length = 4 * (k - 1) :=
      List.length_take_of_le (by omega)
    have hlength : (cs.drop (4 * (k - 1))).length = 4 := by rw [List.length_drop]; omega
    rw [← List.take_append_drop (4 * (k - 1)) cs] at h
    obtain ⟨hdigits, hlast⟩ := (IsBase64.append_iff ⟨_, hgroups⟩
      (List.ne_nil_of_length_eq_add_one hlength)).1 h
    obtain ⟨last, padding, heq, hpadding, hall⟩ := hlast.padded
    refine ⟨_, ⟨⟨_, hgroups⟩, hdigits⟩, _, ⟨last, padding, heq, hpadding, ?_, hall⟩,
      List.take_append_drop _ cs⟩
    rw [heq] at hlength
    simpa using hlength

/-! ### The test -/

lemma isBase64Digit_iff (c : Char) : isBase64Digit c = true ↔ IsBase64Digit c := by
  simp only [isBase64Digit, Bool.or_eq_true, Bool.and_eq_true, decide_eq_true_eq, beq_iff_eq,
    isDigit_iff, IsBase64Digit, or_assoc]

/-- What one group may be. -/
lemma isBase64_group_iff (a b c d : Char) :
    IsBase64 [a, b, c, d] ↔ IsBase64Digit a ∧ IsBase64Digit b ∧
      (IsBase64Digit c ∧ (IsBase64Digit d ∨ d = '=') ∨ c = '=' ∧ d = '=') := by
  constructor
  · rintro ⟨-, -, digits, padding, heq, hpadding, hdigits⟩
    have hlength : digits.length + padding = 4 := by
      simpa using (congrArg List.length heq).symm
    obtain rfl | rfl | rfl : padding = 0 ∨ padding = 1 ∨ padding = 2 := by omega
    · obtain rfl : [a, b, c, d] = digits := by simpa using heq
      simp only [List.forall_mem_cons] at hdigits
      exact ⟨hdigits.1, hdigits.2.1, .inl ⟨hdigits.2.2.1, .inl hdigits.2.2.2.1⟩⟩
    · obtain ⟨x, y, z, rfl⟩ := List.length_eq_three.1 (show digits.length = 3 by omega)
      obtain ⟨rfl, rfl, rfl, rfl⟩ : a = x ∧ b = y ∧ c = z ∧ d = '=' := by simpa using heq
      simp only [List.forall_mem_cons] at hdigits
      exact ⟨hdigits.1, hdigits.2.1, .inl ⟨hdigits.2.2.1, .inr rfl⟩⟩
    · obtain ⟨x, y, rfl⟩ := List.length_eq_two.1 (show digits.length = 2 by omega)
      obtain ⟨rfl, rfl, rfl, rfl⟩ : a = x ∧ b = y ∧ c = '=' ∧ d = '=' := by simpa using heq
      simp only [List.forall_mem_cons] at hdigits
      exact ⟨hdigits.1, hdigits.2.1, .inr ⟨rfl, rfl⟩⟩
  · rintro ⟨ha, hb, ⟨hc, hd | rfl⟩ | ⟨rfl, rfl⟩⟩
    · exact ⟨by simp, ⟨1, rfl⟩, [a, b, c, d], 0, rfl, by decide, by simp [ha, hb, hc, hd]⟩
    · exact ⟨by simp, ⟨1, rfl⟩, [a, b, c], 1, rfl, by decide, by simp [ha, hb, hc]⟩
    · exact ⟨by simp, ⟨1, rfl⟩, [a, b], 2, rfl, by decide, by simp [ha, hb]⟩

/-- The test accepts the texts in base 64. -/
theorem isBase64_iff (cs : List Char) : isBase64 cs = true ↔ IsBase64 cs := by
  fun_induction isBase64 cs with
  | case1 a b c d =>
    simp only [isBase64_group_iff, Bool.and_eq_true, Bool.or_eq_true, beq_iff_eq,
      isBase64Digit_iff, and_assoc]
  | case2 a b c d rest hrest ih =>
    have hfour : 4 ∣ [a, b, c, d].length := ⟨1, rfl⟩
    have hne : rest ≠ [] := fun h => hrest (by simp [h])
    simpa [isBase64Digit_iff, ih, and_assoc] using (IsBase64.append_iff hfour hne).symm
  | case3 cs hshort hlong =>
    refine ⟨(nomatch ·), fun h => ?_⟩
    match cs, h.four_le_length with
    | a :: b :: c :: d :: rest, _ => exact (hlong a b c d rest rfl).elim

end Narrowing.Text

namespace Narrowing.Guard

/-- The guard of base 64 accepts the text. -/
def AcceptsBase64 (p : Predicates) (s : String) : Prop :=
  (check p (.classifier .isBase64String) (.string s)).result = true

lemma acceptsBase64_iff {p : Predicates} {s : String} :
    AcceptsBase64 p s ↔ Text.IsBase64 s.toList := by
  have hstring : (Value.string s : Value Guard).string? = some s := rfl
  rw [AcceptsBase64, result_check_format_iff (fun _ => rfl) Text.isBase64_iff, hstring]
  simp

/-- **Base 64 strings are digits in groups of four, padded at the end.**  A value is accepted
exactly if it is a text, or boxes one, that is not empty, has a length that is a multiple of four,
and is digits with at most two padding characters after them; the view is the text.  These are
the texts that match the pattern.  So a text of digits may be put before an accepted one, and the
first group of a longer one may be left out. -/
theorem base64_strings_are_padded_digits (p : Predicates) :
    (∀ v, (check p (.classifier .isBase64String) v).result = true ↔
        ∃ s, (Primitive.string s).IsHeldBy v ∧ Text.IsBase64 s.toList) ∧
      (∀ v view, (narrow p (.classifier .isBase64String) v).result = some view ↔
        ∃ s, (Primitive.string s).IsHeldBy v ∧ Text.IsBase64 s.toList ∧ view = .string s) ∧
      (∀ cs, Text.IsBase64 cs ↔ cs ∈ Text.base64Pattern.matches') ∧
      (∀ s t, '=' ∉ s.toList → (s = "" ∨ AcceptsBase64 p s) → AcceptsBase64 p t →
        AcceptsBase64 p (s ++ t)) ∧
      ∀ t, AcceptsBase64 p t → 4 < t.length →
        AcceptsBase64 p (String.ofList (t.toList.drop 4)) := by
  simp only [← string?_eq_some_iff, acceptsBase64_iff, String.toList_append, String.toList_ofList,
    ← String.toList_eq_nil_iff, ← String.length_toList]
  refine ⟨fun v => result_check_format_iff (fun _ => rfl) Text.isBase64_iff,
    fun v view => narrow_format_iff (c := .isBase64String) (fun _ => rfl) Text.isBase64_iff,
    fun cs => Text.mem_base64Pattern_iff.symm, fun s t hnot hs ht => ?_, fun t ht hlength => ?_⟩
  · exact .append hs hnot ht
  · exact ht.drop_four hlength

/-- Two groups of digits before a padded one, and without the first of them. -/
theorem base64_strings_are_padded_digits_of_three_groups :
    let p : Predicates := fun _ _ => pure false
    AcceptsBase64 p ("aGVsbG8h" ++ "aA==") ∧
      AcceptsBase64 p (String.ofList ("aGVsbG8haA==".toList.drop 4)) := by
  intro p
  obtain ⟨-, -, -, happend, hdrop⟩ := base64_strings_are_padded_digits p
  have hwhole : AcceptsBase64 p ("aGVsbG8h" ++ "aA==") :=
    happend _ _ (by decide) (.inr rfl) rfl
  exact ⟨hwhole, hdrop "aGVsbG8haA==" hwhole (by decide)⟩

/-- Padding that is too short or too long, padding inside, an open group and no group at all. -/
example : ["aA=", "a===", "aA==aA==", "aGk", "", "aGk=\n"].map (fun s => Text.isBase64 s.toList) =
    [false, false, false, false, false, false] := by decide

end Narrowing.Guard
