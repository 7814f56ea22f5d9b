import Narrowing.Declaration.Command
import Narrowing.Proofs.Declaration.File
import Narrowing.Proofs.Text.Numeral
/-!
# What the command is asked for and what it writes

An argument asks for a number if it is a numeral with nothing but white space around it.  Numerals
may begin with a plus sign and with zeros, so there is no limit to how long they are, and what they
stand for is a natural number of any size.  The command reads them into a 64-bit word and then
looks whether the limit is kept.

A number that the word does not hold is above the limit in any case.  So the command finds what is
asked for as if words had no end: it answers with every number up to the limit, and to everything
else with the default.

With an answer for every argument there is a file for every command line, unless a page is asked
for.  Only the first two arguments are looked at (`output_isPage_or_isFile`).
-/

namespace Narrowing.Text

/-! ### White space at the ends -/

/-- What is left of a text without the white space at its two ends. -/
structure IsTrimmed (cs core : List Char) : Prop where
  exists_ends : ∃ before after, cs = before ++ (core ++ after) ∧
    (∀ c ∈ before, isBlank c = true) ∧ ∀ c ∈ after, isBlank c = true
  head : ∀ c ∈ core.head?, isBlank c = false
  last : ∀ c ∈ core.getLast?, isBlank c = false

lemma dropWhile_isBlank_append {before rest : List Char}
    (hbefore : ∀ c ∈ before, isBlank c = true) (hrest : ∀ c ∈ rest.head?, isBlank c = false) :
    (before ++ rest).dropWhile isBlank = rest := by
  rw [List.dropWhile_append_of_pos hbefore]
  cases rest with
  | nil => rfl
  | cons c rest => exact List.dropWhile_cons_of_neg (by simp [hrest c rfl])

lemma exists_eq_append_dropWhile (cs : List Char) :
    ∃ before, (∀ c ∈ before, isBlank c = true) ∧ cs = before ++ cs.dropWhile isBlank ∧
      ∀ c ∈ (cs.dropWhile isBlank).head?, isBlank c = false := by
  refine ⟨cs.takeWhile isBlank, fun c hc => List.mem_takeWhile_imp hc,
    List.takeWhile_append_dropWhile.symm, fun c hc => ?_⟩
  have hnot := List.head?_dropWhile_not isBlank cs
  rw [Option.mem_def.1 hc] at hnot
  simpa using hnot

lemma isTrimmed_trimBlank (cs : List Char) : IsTrimmed cs (trimBlank cs) := by
  obtain ⟨before, hbefore, hcs, hhead⟩ := exists_eq_append_dropWhile cs
  obtain ⟨after, hafter, hrest, hlast⟩ := exists_eq_append_dropWhile (cs.dropWhile isBlank).reverse
  have hback : cs.dropWhile isBlank = trimBlank cs ++ after.reverse := by
    rw [trimBlank, ← List.reverse_append, ← hrest, List.reverse_reverse]
  refine ⟨⟨before, after.reverse, hback ▸ hcs, hbefore, fun c hc => ?_⟩, fun c hc => ?_, ?_⟩
  · exact hafter c (List.mem_reverse.1 hc)
  · -- what is left begins where the text without the front does
    refine hhead c ?_
    rw [hback, List.head?_append, Option.mem_def.1 hc]
    rfl
  · rwa [trimBlank, List.getLast?_reverse]

/-- There is one way to take the white space off. -/
theorem isTrimmed_iff {cs core : List Char} : IsTrimmed cs core ↔ trimBlank cs = core := by
  constructor
  · rintro ⟨⟨before, after, rfl, hbefore, hafter⟩, hhead, hlast⟩
    have hends : (before ++ (core ++ after)).dropWhile isBlank =
        if core = [] then [] else core ++ after := by
      split
      · next hnil =>
        have hall : ∀ c ∈ before ++ after, isBlank c = true :=
          List.forall_mem_append.2 ⟨hbefore, hafter⟩
        rw [hnil, List.nil_append, List.dropWhile_eq_nil_iff]
        exact hall
      · next hne =>
        refine dropWhile_isBlank_append hbefore ?_
        rwa [List.head?_append_of_ne_nil _ hne]
    rw [trimBlank, hends]
    split
    · next hnil => rw [hnil]; rfl
    · have hafter' : ∀ c ∈ after.reverse, isBlank c = true :=
        fun c hc => hafter c (List.mem_reverse.1 hc)
      have hlast' : ∀ c ∈ core.reverse.head?, isBlank c = false := by
        rwa [List.head?_reverse]
      rw [List.reverse_append, dropWhile_isBlank_append hafter' hlast', List.reverse_reverse]
  · rintro rfl
    exact isTrimmed_trimBlank cs

/-! ### Numerals of natural numbers -/

/-- Digits, perhaps after a plus sign, and the number that they stand for.  Zeros may stand in
front of it. -/
inductive IsWhole : List Char → Nat → Prop
  | intro {sign digits : List Char} (hsign : sign = [] ∨ sign = ['+']) (hne : digits ≠ [])
      (hdigits : IsDigitRow digits) : IsWhole (sign ++ digits) (Nat.ofDigitChars 10 digits 0)

lemma isBlank_of_isDigit {c : Char} (h : c.isDigit = true) : isBlank c = false := by
  have hdigit : 48 ≤ c.toNat ∧ c.toNat ≤ 57 := Char.isDigit_iff_toNat.1 h
  have hapart : ∀ range ∈ blankRanges, range.2 < 48 ∨ 57 < range.1 := by decide
  simp only [isBlank, List.any_eq_false, Bool.and_eq_true, decide_eq_true_eq]
  intro range hrange
  have hends := hapart range hrange
  omega

lemma readWord?_eq_some_iff_isWhole {size : Nat} {cs : List Char} {n : Fin size} :
    readWord? cs = some n ↔ IsWhole cs n.val := by
  simp only [readWord?_eq_some_iff, isDigit_iff]
  constructor
  · rintro ⟨sign, digits, hsign, rfl, hne, hdigits, hvalue⟩
    exact hvalue ▸ .intro hsign hne hdigits
  · generalize hm : n.val = m
    rintro ⟨hsign, hne, hdigits⟩
    exact ⟨_, _, hsign, rfl, hne, hdigits, rfl⟩

end Narrowing.Text

namespace Narrowing.Declaration

/-- The argument is a numeral of the number with nothing but white space around it. -/
def AsksFor (argument : Option String) (n : Nat) : Prop :=
  ∃ s, argument = some s ∧ ∃ core, Text.IsTrimmed s.toList core ∧ Text.IsWhole core n

/-- A word holds what is asked for exactly if it is read into it. -/
lemma bind_readWord?_eq_some_iff {size : Nat} {argument : Option String} {n : Fin size} :
    (argument.bind fun s => Text.readWord? (Text.trimBlank s.toList)) = some n ↔
      AsksFor argument n.val := by
  simp only [AsksFor, Option.bind_eq_some_iff, Text.readWord?_eq_some_iff_isWhole,
    Text.isTrimmed_iff, exists_eq_left']

instance (argument : Option String) (n : Nat) : Decidable (AsksFor argument n) :=
  decidable_of_iff _ (bind_readWord?_eq_some_iff (n := Fin.last n))

/-- A numeral asks for its number. -/
lemma asksFor_toString (n : Nat) : AsksFor (some (toString n)) n := by
  have hnotBlank : ∀ c ∈ Nat.toDigits 10 n, Text.isBlank c = false := fun c hc =>
    Text.isBlank_of_isDigit (Nat.isDigit_of_mem_toDigits (by decide) (by decide) hc)
  refine ⟨_, rfl, Nat.toDigits 10 n, ?_, ?_⟩
  · rw [Key.toList_toString]
    exact ⟨⟨[], [], by simp, nofun, nofun⟩, fun c hc => hnotBlank c (List.mem_of_mem_head? hc),
      fun c hc => hnotBlank c (List.mem_of_mem_getLast? hc)⟩
  · exact Text.readWord?_eq_some_iff_isWhole.1 (Text.readWord?_toDigits (Fin.last n))

lemma greatestArity_of_asksFor {argument : Option String} {n : Nat} (h : AsksFor argument n)
    (hlimit : n ≤ arityLimit) : greatestArity argument = n := by
  have hword : n < UInt64.size := Nat.lt_of_le_of_lt hlimit (by decide)
  have hread : arity? argument = some ⟨n, hword⟩ := bind_readWord?_eq_some_iff.2 h
  rw [greatestArity, hread]
  exact if_pos hlimit

lemma greatestArity_of_not_asksFor {argument : Option String}
    (h : ¬ ∃ n ≤ arityLimit, AsksFor argument n) : greatestArity argument = defaultArity := by
  unfold greatestArity
  split
  · next n hread =>
    exact if_neg fun hlimit => h ⟨n.val, hlimit, bind_readWord?_eq_some_iff.1 hread⟩
  · rfl

/-- An argument gets what it asks for, within the limit, or the default. -/
lemma greatestArity_cases (argument : Option String) :
    AsksFor argument (greatestArity argument) ∧ greatestArity argument ≤ arityLimit ∨
      greatestArity argument = defaultArity := by
  by_cases h : ∃ n ≤ arityLimit, AsksFor argument n
  · obtain ⟨n, hlimit, hn⟩ := h
    rw [greatestArity_of_asksFor hn hlimit]
    exact .inl ⟨hn, hlimit⟩
  · exact .inr (greatestArity_of_not_asksFor h)

lemma greatestArity_le (argument : Option String) : greatestArity argument ≤ arityLimit := by
  rcases greatestArity_cases argument with ⟨-, hlimit⟩ | hdefault
  · exact hlimit
  · rw [hdefault]
    decide

/-- **The command answers with what is asked for, or with the default.**  An argument that asks
for a number up to 64 gets it, however long its numeral is, and every other argument gets 10, be
it missing, malformed or too large for any word.  So no answer is above 64, and the numeral of an
answer gets the same answer. -/
theorem greatest_arity_is_asked_or_default (argument : Option String) :
    (∀ n ≤ 64, AsksFor argument n → greatestArity argument = n) ∧
      ((¬ ∃ n ≤ 64, AsksFor argument n) → greatestArity argument = 10) ∧
      greatestArity argument ≤ 64 ∧
      greatestArity (some (toString (greatestArity argument))) = greatestArity argument := by
  refine ⟨fun n hlimit hn => greatestArity_of_asksFor hn hlimit, greatestArity_of_not_asksFor,
    greatestArity_le argument, ?_⟩
  exact greatestArity_of_asksFor (asksFor_toString _) (greatestArity_le argument)

/-- Zeros and white space do not count.  A number whose 64-bit word would be 4 does not pass for
4. -/
theorem greatest_arity_of_long_numerals :
    let padded := some "\u3000\t+00000000000000000000000064\n"
    let wide := some "18446744073709551620"
    greatestArity padded = 64 ∧ AsksFor wide (2 ^ 64 + 4) ∧ greatestArity wide = 10 := by
  intro padded wide
  refine ⟨?_, by decide +kernel, ?_⟩
  · exact (greatest_arity_is_asked_or_default padded).1 64 (by decide) (by decide +kernel)
  · exact (greatest_arity_is_asked_or_default wide).2.1 (by decide +kernel)

/-- No digits, a minus sign, white space inside, a fraction, other digits and a number above the
limit. -/
example : [none, some "", some "+", some "-0", some "6 4", some "2.5", some "\u0664",
    some "65"].map greatestArity = List.replicate 8 10 := by decide +kernel

/-! ### Command lines -/

lemma Argument.ofOption?_of_ofString_eq_page {s : String} {asked : Page}
    (h : ofString s = .page asked) : Page.ofOption? s = some asked := by
  unfold ofString at h
  split at h
  · exact nomatch h
  · split at h
    · next hpage => rw [hpage, Argument.page.inj h]
    · split at h <;> exact nomatch h

lemma Argument.eq_of_ofString_eq_value {s t : String} (h : ofString s = .value t) : s = t := by
  unfold ofString at h
  split at h
  · exact nomatch h
  · split at h
    · exact nomatch h
    · split at h
      · exact nomatch h
      · exact Argument.value.inj h

namespace Reading

lemma mem_take_two_of_head? {s t : String} {rest : List String} (h : rest.head? = some t) :
    t ∈ (s :: rest).take 2 := by
  obtain ⟨further, rfl⟩ := List.head?_eq_some_iff.1 h
  exact List.mem_cons_of_mem _ List.mem_cons_self

/-- A page is asked for by the first argument or by the second. -/
lemma exists_mem_of_ofArguments_eq_page {arguments : List String} {asked : Page}
    (h : ofArguments arguments = .page asked) :
    ∃ s ∈ arguments.take 2, Page.ofOption? s = some asked := by
  cases arguments with
  | nil => exact nomatch h
  | cons s rest =>
    rw [ofArguments] at h
    split at h
    case h_2 hfirst =>
      obtain rfl := Reading.page.inj h
      exact ⟨s, List.mem_cons_self, Argument.ofOption?_of_ofString_eq_page hfirst⟩
    case h_4 hsecond =>
      obtain rfl := Reading.page.inj h
      obtain ⟨t, hhead, ht⟩ := Option.map_eq_some_iff.1 hsecond
      exact ⟨t, mem_take_two_of_head? hhead, Argument.ofOption?_of_ofString_eq_page ht⟩
    all_goals exact nomatch h

/-- The argument for the greatest arity is the first one or the second. -/
lemma mem_of_ofArguments_eq_arity {arguments : List String} {s : String}
    (h : ofArguments arguments = .arity (some s)) : s ∈ arguments.take 2 := by
  cases arguments with
  | nil => exact nomatch h
  | cons first rest =>
    rw [ofArguments] at h
    split at h
    case h_1 => exact mem_take_two_of_head? (Reading.arity.inj h)
    case h_6 hfirst _ _ =>
      obtain rfl := Argument.eq_of_ofString_eq_value hfirst
      obtain rfl := Option.some.inj (Reading.arity.inj h)
      exact List.mem_cons_self
    all_goals exact nomatch h

end Reading

/-- **Whatever its arguments are, the command writes a page or a file.**  It writes a page only
where one of the first two arguments is an option for it.  Else it writes a well-formed file of
declarations, up to the arity that one of the first two arguments asks for or up to the default. -/
theorem output_isPage_or_isFile (arguments : List String) (helpText : String) :
    (∃ s ∈ arguments.take 2, ∃ asked, Page.ofOption? s = some asked ∧
        output arguments helpText = pageText helpText asked) ∨
      ∃ greatest ≤ arityLimit, IsFile greatest (output arguments helpText) ∧
        (greatest = defaultArity ∨ ∃ s ∈ arguments.take 2, AsksFor (some s) greatest) := by
  unfold output
  cases hreading : Reading.ofArguments arguments with
  | page asked =>
    obtain ⟨s, hs, hasked⟩ := Reading.exists_mem_of_ofArguments_eq_page hreading
    exact .inl ⟨s, hs, asked, hasked, rfl⟩
  | malformed =>
    exact .inr ⟨_, greatestArity_le none, isFile_render _, .inl rfl⟩
  | arity argument =>
    refine .inr ⟨_, greatestArity_le argument, isFile_render _, ?_⟩
    rcases greatestArity_cases argument with ⟨hasks, -⟩ | hdefault
    · obtain ⟨s, rfl, hs⟩ := hasks
      exact .inr ⟨s, Reading.mem_of_ofArguments_eq_arity hreading, s, rfl, hs⟩
    · exact .inl hdefault

/-- Letters together, an option after a value, an option after two hyphens, and a letter that is
no option. -/
example : [["-hV"], ["3", "--help"], ["--", "--help"], ["-hx"]].map Reading.ofArguments =
    [.page .help, .page .help, .arity (some "--help"), .arity (some "-hx")] := by decide

end Narrowing.Declaration
