import Narrowing.Proofs.Guard.Deciding
/-!
# Membership

There are two equalities of values.  Strict equality compares numbers as numbers, other primitives
by what they are, and symbols, functions and objects by identity; NaN is equal to nothing.
Membership in a list of values is decided by the equality that takes NaN as equal to itself.

The second one says that two values have the same mark, where the mark of a value is all that it
is compared by.  So it is an equivalence, without a look at pairs or triples of values.  NaN is
the only value that the first one does not find equal to itself: an object that boxes NaN is the
same object as itself.
-/

namespace Narrowing

/-! ### Numbers -/

namespace Double

/-- The number, where the two zeros are one. -/
def unsignedZero (x : Double) : Double := if x.isZero then zero else x

lemma unsignedZero_eq_nan_iff (x : Double) : x.unsignedZero = .nan ↔ x = .nan := by
  unfold unsignedZero
  split
  · next h =>
    refine ⟨(nomatch ·), ?_⟩
    rintro rfl
    exact nomatch h
  · rfl

/-- A number that is not NaN is equal to the numbers that differ in the sign of zero at most. -/
lemma equal_iff_unsignedZero (x y : Double) :
    x.equal y = true ↔ x ≠ .nan ∧ x.unsignedZero = y.unsignedZero := by
  have hnan : x.isNaN = false ↔ x ≠ .nan := by cases x <;> simp [isNaN]
  rw [← hnan]
  by_cases hx : x.isZero = true <;> by_cases hy : y.isZero = true
  · have : x.isNaN = false := by cases x <;> simp_all [isZero, isNaN]
    simp [equal, unsignedZero, hx, hy, this]
  · have hne : zero ≠ y := by rintro rfl; exact hy rfl
    have hne' : x ≠ y := by rintro rfl; exact hy hx
    simp [equal, unsignedZero, hx, hy, hne, hne']
  · have hne : x ≠ zero := by rintro rfl; exact hx rfl
    have hne' : x ≠ y := by rintro rfl; exact hx hy
    simp [equal, unsignedZero, hx, hy, hne, hne']
  · simp [equal, unsignedZero, hx, hy]

end Double

/-! ### Values -/

/-- What a value is compared by. -/
inductive Mark where
  | undefined
  | null
  | boolean (b : Bool)
  | number (x : Double)
  | bigint (n : Int)
  | string (s : String)
  | symbol (identity : UInt64)
  | function (identity : Nat)
  | object (identity : Nat)
deriving DecidableEq

variable {γ : Type}

namespace Value

/-- What the value is compared by: itself, if it is a primitive, where the two zeros are one, and
otherwise its identity. -/
def mark : Value γ → Mark
  | undefined => .undefined
  | null => .null
  | boolean b => .boolean b
  | number x => .number x.unsignedZero
  | bigint n => .bigint n
  | string s => .string s
  | symbol s => .symbol s.identity
  | function f => .function f.identity
  | object o => .object o.identity

lemma mark_eq_number_nan_iff (v : Value γ) : v.mark = .number .nan ↔ v = number .nan := by
  cases v with
  | number x => simp [mark, Double.unsignedZero_eq_nan_iff]
  | _ => simp [mark]

/-- Strict equality compares the marks and leaves NaN out. -/
lemma equal_iff (v w : Value γ) : v.equal w = true ↔ v ≠ number .nan ∧ v.mark = w.mark := by
  cases v <;> cases w <;>
    simp [equal, mark, Double.equal_iff_unsignedZero, Symbol.same, Function.same, Object.same]

/-- Equality for membership compares the marks. -/
lemma sameValueZero_iff (v w : Value γ) : v.sameValueZero w = true ↔ v.mark = w.mark := by
  unfold sameValueZero
  split
  · simp
  · next hnot =>
    rw [equal_iff, and_iff_right_iff_imp]
    rintro hmark rfl
    have hw : w = number .nan := (mark_eq_number_nan_iff w).1 (hmark ▸ rfl)
    exact hnot rfl hw

end Value

/-! ### Lists of values -/

/-- The same classes of values occur in two lists, in whatever order and however often. -/
def SameClasses (vs ws : List (Value γ)) : Prop :=
  (∀ v ∈ vs, ∃ w ∈ ws, v.sameValueZero w = true) ∧ ∀ w ∈ ws, ∃ v ∈ vs, w.sameValueZero v = true

lemma SameClasses.mem_map_mark_iff {vs ws : List (Value γ)} (h : SameClasses vs ws) (m : Mark) :
    m ∈ vs.map Value.mark ↔ m ∈ ws.map Value.mark := by
  simp only [SameClasses, Value.sameValueZero_iff] at h
  simp only [List.mem_map]
  constructor
  · rintro ⟨v, hv, rfl⟩
    obtain ⟨w, hw, hmark⟩ := h.1 v hv
    exact ⟨w, hw, hmark.symm⟩
  · rintro ⟨w, hw, rfl⟩
    obtain ⟨v, hv, hmark⟩ := h.2 w hw
    exact ⟨v, hv, hmark.symm⟩

namespace Guard

variable {p : Predicates}

lemma check_isOneOf (members : List (Value Guard)) (v : Value Guard) :
    check p (.isOneOf members) v = pure (members.any fun member => member.sameValueZero v) := by
  rw [check, oneOf, View.isSome_accepted]

/-- A value is a member if its mark is the mark of one. -/
lemma any_sameValueZero_iff (members : List (Value Guard)) (v : Value Guard) :
    (members.any fun member => member.sameValueZero v) = true ↔
      v.mark ∈ members.map Value.mark := by
  simp only [List.any_eq_true, Value.sameValueZero_iff, List.mem_map]

lemma check_anyOfList_isEqualTo (members : List (Value Guard)) (v : Value Guard) :
    check p (.anyOfList (members.map .isEqualTo)) v =
      pure (members.any fun member => v.equal member) := by
  rw [check_anyOfList]
  induction members with
  | nil => rfl
  | cons member rest ih =>
    rw [List.map_cons, Logged.any, check, pure_bind, ih, List.any_cons]
    cases v.equal member <;> rfl

/-- **Membership goes by the classes of an equivalence.**  Equality for membership is an
equivalence, and strict equality is the same except that NaN, not boxed, is not equal to itself.
A value is a member exactly if an equal one is listed, so that neither the order of the list nor
repetitions matter, nor which of several equal values is asked for.  For all values but NaN it is
the same to ask for one of the listed values and to ask for each of them in turn. -/
theorem membership_goes_by_class (p : Predicates) :
    Equivalence (fun v w : Value Guard => v.sameValueZero w = true) ∧
      (∀ v w : Value Guard, v.equal w = true ↔ v.sameValueZero w = true ∧ v ≠ .number .nan) ∧
      (∀ v : Value Guard, v.equal v = false ↔ v = .number .nan) ∧
      (∀ vs v, (check p (.isOneOf vs) v).result = true ↔ ∃ w ∈ vs, w.sameValueZero v = true) ∧
      (∀ vs ws v w, SameClasses vs ws → v.sameValueZero w = true →
        check p (.isOneOf vs) v = check p (.isOneOf ws) w) ∧
      ∀ vs v, v ≠ .number .nan →
        check p (.isOneOf vs) v = check p (.anyOfList (vs.map .isEqualTo)) v := by
  simp only [check_isOneOf, check_anyOfList_isEqualTo]
  refine ⟨?_, fun v w => ?_, fun v => ?_, fun vs v => List.any_eq_true, ?_, ?_⟩
  · simp only [Value.sameValueZero_iff]
    exact ⟨fun v => rfl, Eq.symm, Eq.trans⟩
  · rw [Value.equal_iff, Value.sameValueZero_iff, and_comm]
  · rw [← Bool.not_eq_true, Value.equal_iff, and_iff_left rfl, Classical.not_not]
  · intro vs ws v w hclasses hvw
    have hmark : v.mark = w.mark := (Value.sameValueZero_iff v w).1 hvw
    congr 1
    rw [Bool.eq_iff_iff, any_sameValueZero_iff, any_sameValueZero_iff, hmark,
      hclasses.mem_map_mark_iff]
  · intro vs v hv
    congr 1
    rw [Bool.eq_iff_iff, any_sameValueZero_iff, List.mem_map, List.any_eq_true]
    refine exists_congr fun w => and_congr_right fun _ => ?_
    rw [Value.equal_iff, and_iff_right hv, eq_comm]

/-- NaN comes twice in one of two lists, and zero with either sign. -/
theorem membership_goes_by_class_of_zeros :
    let p : Predicates := fun _ _ => pure false
    let zero : Value Guard := .number .zero
    let negativeZero : Value Guard := .number (.finite true .zero)
    check p (.isOneOf [.number .nan, zero]) negativeZero =
        check p (.isOneOf [negativeZero, .number .nan, .number .nan]) zero ∧
      check p (.isOneOf [.number .nan, zero]) negativeZero =
        check p (.anyOfList [.isEqualTo (.number .nan), .isEqualTo zero]) negativeZero := by
  intro p zero negativeZero
  obtain ⟨-, -, -, -, hclasses, hequal⟩ := membership_goes_by_class p
  have hzeros : negativeZero.sameValueZero zero = true := rfl
  have hne : negativeZero ≠ .number .nan := by simp [negativeZero]
  refine ⟨hclasses _ _ _ _ ⟨?_, ?_⟩ hzeros, hequal [.number .nan, zero] _ hne⟩
  · simp only [List.forall_mem_cons]
    exact ⟨⟨.number .nan, by simp, rfl⟩, ⟨negativeZero, by simp, rfl⟩, fun _ h => nomatch h⟩
  · simp only [List.forall_mem_cons]
    exact ⟨⟨zero, by simp, rfl⟩, ⟨.number .nan, by simp, rfl⟩, ⟨.number .nan, by simp, rfl⟩,
      fun _ h => nomatch h⟩

/-- NaN is a member of a list that has it and is not strictly equal to itself.  An object that
boxes NaN is equal to itself, and to no other box. -/
example :
    let box (identity : Nat) : Value Guard := .object (.mk identity (.boxedNumber .nan) none [])
    let nan : Value Guard := .number .nan
    [nan.sameValueZero nan, nan.equal nan, (box 0).equal (box 0), (box 0).sameValueZero (box 1),
      (box 0).sameValueZero nan] = [true, false, true, false, false] := rfl

end Guard

end Narrowing
