import Narrowing.Guard.Evaluate
import Narrowing.Proofs.Key.NumberText
import Narrowing.Proofs.Text.Pattern
/-!
# Numerals

A numeral is an optional sign, digits, an optional fraction and an optional exponent, where the
fraction may be a point alone and all digits are ASCII digits.  The test for numerals reads a
text once from the left and takes each part as long as it can.

No text can be split in two ways that matter here: what follows the digits of a part never begins
with a digit.  So the longest row of digits is the one that the grammar has in mind, and the test
accepts the numerals and nothing else.
-/

namespace Narrowing.Text

/-! ### The grammar -/

/-- An optional sign. -/
def IsSign (cs : List Char) : Prop := cs = [] ∨ cs = ['+'] ∨ cs = ['-']

/-- ASCII digits, possibly none. -/
def IsDigitRow (cs : List Char) : Prop := ∀ c ∈ cs, '0' ≤ c ∧ c ≤ '9'

/-- An optional fraction: a point and digits, possibly none. -/
def IsFraction (cs : List Char) : Prop := cs = [] ∨ ∃ digits, IsDigitRow digits ∧ cs = '.' :: digits

/-- An optional exponent: a mark of either case, an optional sign and digits. -/
def IsExponent (cs : List Char) : Prop :=
  cs = [] ∨ ∃ mark sign digits, (mark = 'e' ∨ mark = 'E') ∧ IsSign sign ∧ digits ≠ [] ∧
    IsDigitRow digits ∧ cs = mark :: (sign ++ digits)

/-- An optional sign, digits, an optional fraction and an optional exponent, and nothing else. -/
inductive IsNumeral : List Char → Prop
  | intro {sign whole fraction exponent : List Char} (hsign : IsSign sign) (hne : whole ≠ [])
      (hwhole : IsDigitRow whole) (hfraction : IsFraction fraction)
      (hexponent : IsExponent exponent) :
      IsNumeral (sign ++ (whole ++ (fraction ++ exponent)))

/-! ### The pattern -/

/-- The characters of a row of digits. -/
def digitClass : List Char := ['0', '1', '2', '3', '4', '5', '6', '7', '8', '9']

open RegularExpression (char)

/-- The pattern `^[+-]?[0-9]+(\.[0-9]*)?(e[+-]?[0-9]+)?$`, where letters stand for both cases. -/
def numberPattern : RegularExpression Char :=
  optional (oneOf ['+', '-']) * (repeated (oneOf digitClass) *
    (optional (char '.' * (oneOf digitClass).star) *
      optional (oneOf ['e', 'E'] * (optional (oneOf ['+', '-']) * repeated (oneOf digitClass)))))

lemma mem_digitClass_iff (c : Char) : c ∈ digitClass ↔ '0' ≤ c ∧ c ≤ '9' := by
  simp only [digitClass, List.mem_cons, List.not_mem_nil, or_false, ← Char.toNat_inj, Char.le_def,
    UInt32.le_iff_toNat_le, Char.toNat]
  simp
  omega

lemma mem_sign_iff {cs : List Char} : cs ∈ (optional (oneOf ['+', '-'])).matches' ↔ IsSign cs := by
  simp [mem_optional, mem_oneOf, IsSign]

lemma mem_digits_iff {cs : List Char} :
    cs ∈ (repeated (oneOf digitClass)).matches' ↔ cs ≠ [] ∧ IsDigitRow cs := by
  simp only [mem_repeated_oneOf, mem_digitClass_iff, IsDigitRow]

lemma mem_fraction_iff {cs : List Char} :
    cs ∈ (optional (char '.' * (oneOf digitClass).star)).matches' ↔ IsFraction cs := by
  rw [mem_optional, RegularExpression.matches'_mul, Language.mem_mul, IsFraction]
  simp only [mem_char, mem_star_oneOf, mem_digitClass_iff]
  constructor
  · rintro (h | ⟨_, rfl, digits, hdigits, rfl⟩)
    · exact .inl h
    · exact .inr ⟨digits, hdigits, rfl⟩
  · rintro (h | ⟨digits, hdigits, rfl⟩)
    · exact .inl h
    · exact .inr ⟨_, rfl, digits, hdigits, rfl⟩

lemma mem_exponent_iff {cs : List Char} :
    cs ∈ (optional (oneOf ['e', 'E'] *
        (optional (oneOf ['+', '-']) * repeated (oneOf digitClass)))).matches' ↔
      IsExponent cs := by
  rw [mem_optional, RegularExpression.matches'_mul, Language.mem_mul,
    RegularExpression.matches'_mul, IsExponent]
  simp only [Language.mem_mul, mem_oneOf, mem_sign_iff, mem_digits_iff]
  constructor
  · rintro (h | ⟨_, ⟨mark, hmark, rfl⟩, _, ⟨sign, hsign, digits, ⟨hne, hdigits⟩, rfl⟩, rfl⟩)
    · exact .inl h
    · exact .inr ⟨mark, sign, digits, by simpa using hmark, hsign, hne, hdigits, rfl⟩
  · rintro (h | ⟨mark, sign, digits, hmark, hsign, hne, hdigits, rfl⟩)
    · exact .inl h
    · exact .inr ⟨_, ⟨mark, by simpa using hmark, rfl⟩, _, ⟨sign, hsign, digits, ⟨hne, hdigits⟩, rfl⟩,
        rfl⟩

/-- The texts that match the pattern are the numerals. -/
lemma mem_numberPattern_iff {cs : List Char} : cs ∈ numberPattern.matches' ↔ IsNumeral cs := by
  simp only [numberPattern, RegularExpression.matches'_mul, Language.mem_mul, mem_sign_iff,
    mem_digits_iff, mem_fraction_iff, mem_exponent_iff]
  constructor
  · rintro ⟨sign, hsign, _, ⟨whole, ⟨hne, hwhole⟩, _, ⟨fraction, hfraction, exponent, hexponent, rfl⟩,
      rfl⟩, rfl⟩
    exact .intro hsign hne hwhole hfraction hexponent
  · rintro ⟨hsign, hne, hwhole, hfraction, hexponent⟩
    exact ⟨_, hsign, _, ⟨_, ⟨hne, hwhole⟩, _, ⟨_, hfraction, _, hexponent, rfl⟩, rfl⟩, rfl⟩

/-! ### The test -/

lemma isDigit_iff (c : Char) : c.isDigit = true ↔ '0' ≤ c ∧ c ≤ '9' := by
  simp [Char.isDigit, Char.le_def]

lemma isDigits_iff (cs : List Char) : isDigits cs = true ↔ cs ≠ [] ∧ IsDigitRow cs := by
  simp only [isDigits, Bool.and_eq_true, Bool.not_eq_true', List.isEmpty_eq_false_iff,
    List.all_eq_true, isDigit_iff, IsDigitRow]

lemma isDigitRow_takeWhile (cs : List Char) : IsDigitRow (cs.takeWhile Char.isDigit) :=
  fun c hc => (isDigit_iff c).1 (List.mem_takeWhile_imp hc)

/-- What follows a row of digits, if it does not begin with a digit. -/
def EndsDigits (rest : List Char) : Prop := ∀ c ∈ rest.head?, c.isDigit = false

/-- The longest row of digits is the one that what follows ends. -/
lemma takeWhile_digits {digits rest : List Char} (hdigits : IsDigitRow digits)
    (hrest : EndsDigits rest) :
    (digits ++ rest).takeWhile Char.isDigit = digits ∧
      (digits ++ rest).dropWhile Char.isDigit = rest := by
  have hall : ∀ c ∈ digits, c.isDigit = true := fun c hc => (isDigit_iff c).2 (hdigits c hc)
  rw [List.takeWhile_append_of_pos hall, List.dropWhile_append_of_pos hall]
  cases rest with
  | nil => simp
  | cons c rest =>
    have hc : ¬ c.isDigit = true := by simp [hrest c rfl]
    rw [List.takeWhile_cons_of_neg hc, List.dropWhile_cons_of_neg hc, List.append_nil]
    exact ⟨rfl, rfl⟩

lemma exists_sign (cs : List Char) : ∃ sign, IsSign sign ∧ cs = sign ++ dropSign cs := by
  unfold dropSign
  split
  · exact ⟨['+'], .inr (.inl rfl), rfl⟩
  · exact ⟨['-'], .inr (.inr rfl), rfl⟩
  · exact ⟨[], .inl rfl, rfl⟩

/-- A sign is dropped, and digits are not. -/
lemma dropSign_append {sign digits : List Char} (hsign : IsSign sign) (hne : digits ≠ [])
    (hdigits : IsDigitRow digits) (rest : List Char) :
    dropSign (sign ++ (digits ++ rest)) = digits ++ rest := by
  rcases hsign with rfl | rfl | rfl
  · obtain ⟨c, digits, rfl⟩ := List.exists_cons_of_ne_nil hne
    have hc : '0' ≤ c ∧ c ≤ '9' := hdigits c List.mem_cons_self
    simp only [List.nil_append, List.cons_append]
    unfold dropSign
    split
    · next heq => exact absurd ((List.cons.inj heq).1 ▸ hc) (by decide)
    · next heq => exact absurd ((List.cons.inj heq).1 ▸ hc) (by decide)
    · rfl
  · rfl
  · rfl

lemma isExponent_iff (cs : List Char) : isExponent cs = true ↔ IsExponent cs := by
  cases cs with
  | nil => simp [isExponent, IsExponent]
  | cons c rest =>
    simp only [isExponent, Bool.and_eq_true, Bool.or_eq_true, beq_iff_eq, isDigits_iff]
    constructor
    · rintro ⟨hmark, hne, hdigits⟩
      obtain ⟨sign, hsign, hrest⟩ := exists_sign rest
      exact .inr ⟨c, sign, _, hmark, hsign, hne, hdigits, congrArg (c :: ·) hrest⟩
    · rintro (h | ⟨mark, sign, digits, hmark, hsign, hne, hdigits, h⟩)
      · exact absurd h (List.cons_ne_nil c rest)
      · obtain ⟨rfl, rfl⟩ := List.cons.inj h
        have hdrop := dropSign_append hsign hne hdigits []
        rw [List.append_nil] at hdrop
        rw [hdrop]
        exact ⟨hmark, hne, hdigits⟩

lemma endsDigits_exponent {cs : List Char} (h : IsExponent cs) : EndsDigits cs := by
  rcases h with rfl | ⟨mark, sign, digits, hmark, -, -, -, rfl⟩
  · exact fun c hc => nomatch hc
  · rintro c hc
    obtain rfl : mark = c := by simpa using hc
    rcases hmark with rfl | rfl <;> rfl

lemma endsDigits_fraction {fraction exponent : List Char} (hfraction : IsFraction fraction)
    (hexponent : IsExponent exponent) : EndsDigits (fraction ++ exponent) := by
  rcases hfraction with rfl | ⟨digits, -, rfl⟩
  · exact endsDigits_exponent hexponent
  · rintro c hc
    obtain rfl : '.' = c := by simpa using hc
    rfl

lemma isFraction_iff (cs : List Char) :
    isFraction cs = true ↔
      ∃ fraction exponent, IsFraction fraction ∧ IsExponent exponent ∧ cs = fraction ++ exponent := by
  constructor
  · intro h
    unfold isFraction at h
    split at h
    · next rest =>
      refine ⟨'.' :: rest.takeWhile Char.isDigit, rest.dropWhile Char.isDigit,
        .inr ⟨_, isDigitRow_takeWhile rest, rfl⟩, (isExponent_iff _).1 h, ?_⟩
      rw [List.cons_append, List.takeWhile_append_dropWhile]
    · exact ⟨[], _, .inl rfl, (isExponent_iff _).1 h, rfl⟩
  · rintro ⟨fraction, exponent, hfraction, hexponent, rfl⟩
    rcases hfraction with rfl | ⟨digits, hdigits, rfl⟩
    · show isFraction exponent = true
      unfold isFraction
      split
      -- an exponent does not begin with a point
      · rcases hexponent with h | ⟨mark, sign, digits, hmark, -, -, -, h⟩
        · exact nomatch h
        · obtain ⟨rfl, -⟩ := List.cons.inj h
          exact absurd hmark (by decide)
      · exact (isExponent_iff _).2 hexponent
    · rw [List.cons_append, isFraction,
        (takeWhile_digits hdigits (endsDigits_exponent hexponent)).2]
      exact (isExponent_iff _).2 hexponent

/-- The test accepts the numerals. -/
theorem isNumber_iff (cs : List Char) : isNumber cs = true ↔ IsNumeral cs := by
  simp only [isNumber, Bool.and_eq_true, Bool.not_eq_true', List.isEmpty_eq_false_iff,
    isFraction_iff]
  constructor
  · rintro ⟨hne, fraction, exponent, hfraction, hexponent, hrest⟩
    obtain ⟨sign, hsign, hcs⟩ := exists_sign cs
    rw [hcs, ← (dropSign cs).takeWhile_append_dropWhile (p := Char.isDigit), hrest]
    exact .intro hsign hne (isDigitRow_takeWhile _) hfraction hexponent
  · rintro ⟨hsign, hne, hwhole, hfraction, hexponent⟩
    obtain ⟨htake, hdrop⟩ := takeWhile_digits hwhole (endsDigits_fraction hfraction hexponent)
    rw [dropSign_append hsign hne hwhole, htake, hdrop]
    exact ⟨hne, _, _, hfraction, hexponent, rfl⟩

end Narrowing.Text

namespace Narrowing.Guard

lemma string?_eq_some_iff {v : Value Guard} {s : String} :
    v.string? = some s ↔ (Primitive.string s).IsHeldBy v := by
  constructor
  · intro h
    unfold Value.string? at h
    split at h
    · obtain rfl := Option.some.inj h
      exact .plain
    · obtain rfl := Option.some.inj h
      exact .boxed _ rfl
    · exact nomatch h
  · rintro (_ | ⟨⟨identity, content, parent, properties⟩, hcontent⟩)
    · rfl
    · obtain rfl : content = .boxedString s := hcontent
      rfl

lemma textWith_eq_some_iff {v : Value Guard} {test : List Char → Bool} {view : View} :
    Classifier.textWith v test = some view ↔
      ∃ s, v.string? = some s ∧ test s.toList = true ∧ view = .string s := by
  rw [Classifier.textWith, Option.bind_eq_some_iff]
  refine exists_congr fun s => and_congr_right fun _ => ?_
  split
  · next h => simp [h, eq_comm]
  · next h => simp [h]

section Format

variable {c : Classifier} {test : List Char → Bool} {IsFormat : List Char → Prop}
  (hc : ∀ v, c.narrow v = Classifier.textWith v test) (htest : ∀ cs, test cs = true ↔ IsFormat cs)
include hc htest

lemma narrow_format_iff {v : Value Guard} {view : View} :
    c.narrow v = some view ↔ ∃ s, v.string? = some s ∧ IsFormat s.toList ∧ view = .string s := by
  simp only [hc, ← htest]
  exact textWith_eq_some_iff

lemma result_check_format_iff {p : Predicates} {v : Value Guard} :
    (check p (.classifier c) v).result = true ↔ ∃ s, v.string? = some s ∧ IsFormat s.toList := by
  show (c.narrow v).isSome = true ↔ _
  simp only [Option.isSome_iff_exists, narrow_format_iff hc htest]
  constructor
  · rintro ⟨-, s, hs, hformat, -⟩
    exact ⟨s, hs, hformat⟩
  · rintro ⟨s, hs, hformat⟩
    exact ⟨.string s, s, hs, hformat, rfl⟩

end Format

lemma narrow_isNumberString_iff {v : Value Guard} {view : View} :
    Classifier.narrow .isNumberString v = some view ↔
      ∃ s, v.string? = some s ∧ Text.IsNumeral s.toList ∧ view = .string s :=
  narrow_format_iff (fun _ => rfl) Text.isNumber_iff

lemma result_check_isNumberString_iff {p : Predicates} {v : Value Guard} :
    (check p (.classifier .isNumberString) v).result = true ↔
      ∃ s, v.string? = some s ∧ Text.IsNumeral s.toList :=
  result_check_format_iff (fun _ => rfl) Text.isNumber_iff

/-- **Number strings are the numerals.**  A value is accepted exactly if it is a text, or boxes
one, that is a numeral as a whole, and the view is the text.  The numerals are the texts that
match the pattern. -/
theorem number_strings_are_numerals (p : Predicates) (v : Value Guard) (view : View) :
    ((check p (.classifier .isNumberString) v).result = true ↔
        ∃ s, (Primitive.string s).IsHeldBy v ∧ Text.IsNumeral s.toList) ∧
      ((narrow p (.classifier .isNumberString) v).result = some view ↔
        ∃ s, (Primitive.string s).IsHeldBy v ∧ Text.IsNumeral s.toList ∧ view = .string s) ∧
      ∀ cs, Text.IsNumeral cs ↔ cs ∈ Text.numberPattern.matches' := by
  simp only [← string?_eq_some_iff]
  exact ⟨result_check_isNumberString_iff, narrow_isNumberString_iff,
    fun cs => Text.mem_numberPattern_iff.symm⟩

/-- A point needs no digits after it.  An exponent does, and nothing may follow it; nor are other
decimal digits than the ASCII ones taken. -/
example : ["1.", "-2.5E+10", "1e", "1e5\n", "\u0661"].map (fun s => Text.isNumber s.toList) =
    [true, true, false, false, false] := by decide

end Narrowing.Guard
