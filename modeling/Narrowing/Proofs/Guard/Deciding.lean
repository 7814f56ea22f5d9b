import Narrowing.Proofs.Guard.Agreement
/-!
# What a composite guard evaluates

A guard that is made of several tests runs them in order and stops as soon as its verdict is
settled: a guard that needs some test to pass stops at the first that passes, and a guard that
needs all of them stops at the first that fails.  What happened on the way is what happened in
the tests up to that one.

Each loop of the evaluation is brought to one of two plain loops over tests, `Logged.any` and
`Logged.all`, by an equation of its own (`check_anyOf`, `check_isLike`, …), and each of these
two is shown to decide its quantifier over the shortest deciding prefix.
-/

namespace Narrowing

namespace Logged

variable {α : Type}

/-- Whether a test holds of some item.  It is not made after the first success. -/
def any (test : α → Logged Bool) : List α → Logged Bool
  | [] => pure false
  | a :: rest => do
    if ← test a then return true else any test rest

/-! ### The shortest deciding prefix -/

/-- The evaluations up to and including the first with a verdict, and all of them if none has
it. -/
def upTo (verdict : Bool) (evaluations : List (Logged Bool)) : List (Logged Bool) :=
  evaluations.take (evaluations.findIdx (fun e => e.result == verdict) + 1)

@[simp] lemma upTo_nil (verdict : Bool) : upTo verdict [] = [] := rfl

lemma upTo_cons (verdict : Bool) (e : Logged Bool) (rest : List (Logged Bool)) :
    upTo verdict (e :: rest) = if e.result = verdict then [e] else e :: upTo verdict rest := by
  by_cases h : e.result = verdict
  · simp [upTo, List.findIdx_cons, h]
  · have hne : (e.result == verdict) = false := by simpa using h
    simp [upTo, List.findIdx_cons, h, hne]

/-- An evaluation passes if some item does, and what happens is what happens in the items up
to the first that passes. -/
structure DecidesSome (evaluation : Logged Bool) (items : List (Logged Bool)) : Prop where
  passes_iff : evaluation.result = true ↔ ∃ item ∈ items, item.result = true
  events_eq : evaluation.events = (upTo true items).flatMap events

/-- An evaluation passes if all items do, and what happens is what happens in the items up to
the first that fails. -/
structure DecidesAll (evaluation : Logged Bool) (items : List (Logged Bool)) : Prop where
  passes_iff : evaluation.result = true ↔ ∀ item ∈ items, item.result = true
  events_eq : evaluation.events = (upTo false items).flatMap events

lemma decidesSome_any (test : α → Logged Bool) (items : List α) :
    DecidesSome (any test items) (items.map test) := by
  induction items with
  | nil => exact ⟨by simp [any], by simp [any]⟩
  | cons a rest ih =>
    cases h : (test a).result with
    | true => exact ⟨by simp [any, h], by simp [any, h, upTo_cons]⟩
    | false =>
      refine ⟨?_, ?_⟩
      · simpa [any, h] using ih.passes_iff
      · simpa [any, h, upTo_cons] using ih.events_eq

lemma decidesAll_all (test : α → Logged Bool) (items : List α) :
    DecidesAll (all test items) (items.map test) := by
  induction items with
  | nil => exact ⟨by simp [all], by simp [all]⟩
  | cons a rest ih =>
    cases h : (test a).result with
    | false => exact ⟨by simp [all, h], by simp [all, h, upTo_cons]⟩
    | true =>
      refine ⟨?_, ?_⟩
      · simpa [all, h] using ih.passes_iff
      · simpa [all, h, upTo_cons] using ih.events_eq

/-- What is collected is the views of all items in order. -/
lemma result_collect_iff {β : Type} {view : α → Logged (Option β)} {items : List α}
    {views : List β} :
    (collect view items).result = some views ↔
      items.map (fun a => (view a).result) = views.map some := by
  induction items generalizing views with
  | nil => cases views <;> simp [collect]
  | cons a rest ih =>
    cases h : (view a).result with
    | none => cases views <;> simp [collect, h]
    | some b =>
      cases views with
      | nil => simp [collect, h]
      | cons c views => simpa [collect, h, ih] using and_comm

end Logged

namespace Guard

open Logged (DecidesSome DecidesAll)

/-! ### The loops as loops over tests -/

/-- The first member that accepts, as its position and its view. -/
def firstAccepted (p : Predicates) : List Guard → Value Guard → Logged (Option (Nat × View))
  | [], _ => return none
  | g :: rest, v => do
    match ← narrow p g v with
    | some view => return some (0, view)
    | none => return (← firstAccepted p rest v).map fun found => (found.1 + 1, found.2)

/-- The test of a field that has to be present.  An absent one fails, and nothing happens. -/
def testPresent (test : Guard → Value Guard → Logged Bool) (v : Value Guard)
    (field : Key × Guard) : Logged Bool :=
  match v.get? field.1 with
  | some found => test field.2 found
  | none => return false

/-- The test of a field that counts as `undefined` when it is absent. -/
def testField (test : Guard → Value Guard → Logged Bool) (v : Value Guard)
    (field : Key × Guard) : Logged Bool :=
  test field.2 ((v.get? field.1).getD .undefined)

variable {p : Predicates}

lemma narrowPosition_eq (arity : Nat) (members : List Guard) (position : Nat)
    (v : Value Guard) :
    narrowPosition p arity members position v =
      Option.map (fun found => found.2.inject (position + found.1) arity) <$>
        firstAccepted p members v := by
  induction members generalizing position with
  | nil => simp [narrowPosition, firstAccepted]
  | cons g rest ih =>
    simp only [narrowPosition, firstAccepted, ih (position + 1), map_bind]
    refine bind_congr fun view => ?_
    cases view with
    | some view => simp
    | none => simp [Function.comp_def, Nat.add_assoc, Nat.add_comm 1]

lemma narrowFirst_eq (members : List Guard) (v : Value Guard) :
    narrowFirst p members v = Option.map Prod.snd <$> firstAccepted p members v := by
  induction members with
  | nil => simp [narrowFirst, firstAccepted]
  | cons g rest ih =>
    simp only [narrowFirst, firstAccepted, ih, map_bind]
    refine bind_congr fun view => ?_
    cases view <;> simp [Function.comp_def]

lemma isSome_firstAccepted (members : List Guard) (v : Value Guard) :
    Option.isSome <$> firstAccepted p members v =
      Logged.any (fun g => check p g v) members := by
  induction members with
  | nil => simp [firstAccepted, Logged.any]
  | cons g rest ih =>
    rw [firstAccepted, Logged.any, ← isSome_narrow g v]
    refine Logged.isSome_bind (fun view => by simp) ?_
    simp [← ih]

lemma narrowAll_eq_collect (members : List Guard) (v : Value Guard) :
    narrowAll p members v = Logged.collect (fun g => narrow p g v) members := by
  induction members with
  | nil => rfl
  | cons g rest ih =>
    rw [narrowAll, Logged.collect]
    refine bind_congr fun view => ?_
    cases view with
    | none => rfl
    | some view => simp only [ih]

lemma isSome_narrowAll (members : List Guard) (v : Value Guard) :
    Option.isSome <$> narrowAll p members v =
      Logged.all (fun g => check p g v) members := by
  rw [narrowAll_eq_collect]
  exact Logged.isSome_collect (fun g => isSome_narrow g v) members

lemma checkPresent_eq_all (shape : List (Key × Guard)) (v : Value Guard) :
    checkPresent p shape v = Logged.all (testPresent (check p) v) shape := by
  induction shape with
  | nil => rfl
  | cons field rest ih =>
    simp only [checkPresent, Logged.all, testPresent, ih]
    cases v.get? field.1 <;> simp

lemma checkFields_eq_all (shape : List (Key × Guard)) (v : Value Guard) :
    checkFields p shape v = Logged.all (testField (check p) v) shape := by
  induction shape with
  | nil => rfl
  | cons field rest ih => simp only [checkFields, Logged.all, testField, ih]

/-! ### Values of the wrong kind -/

lemma elements?_eq_none {v : Value Guard}
    (h : ∀ identity elements parent properties,
      v = .object (.mk identity (.array elements) parent properties) → False) :
    v.elements? = none := by
  cases v with
  | object o =>
    obtain ⟨identity, content, parent, properties⟩ := o
    cases content with
    | array elements => exact (h _ _ _ _ rfl).elim
    | _ => rfl
  | _ => rfl

lemma record?_eq_none {v : Value Guard}
    (h : ∀ identity parent properties,
      v = .object (.mk identity .ordinary parent properties) → False) :
    v.record? = none := by
  cases v with
  | object o =>
    obtain ⟨identity, content, parent, properties⟩ := o
    cases content with
    | ordinary => exact (h _ _ _ rfl).elim
    | _ => rfl
  | _ => rfl

/-! ### Checking a composite guard -/

theorem check_anyOf (members : List Guard) (v : Value Guard) :
    check p (.anyOf members) v = Logged.any (fun g => check p g v) members := by
  rw [← isSome_firstAccepted]
  simp [check, narrowPosition_eq]

theorem check_anyOfList (members : List Guard) (v : Value Guard) :
    check p (.anyOfList members) v = Logged.any (fun g => check p g v) members := by
  rw [← isSome_firstAccepted]
  simp [check, narrowFirst_eq]

theorem check_allOf (members : List Guard) (v : Value Guard) :
    check p (.allOf members) v = Logged.all (fun g => check p g v) members := by
  rw [← isSome_narrowAll]
  simp [check]

theorem check_allOfList (members : List Guard) (v : Value Guard) :
    check p (.allOfList members) v = Logged.all (fun g => check p g v) members := by
  rw [← isSome_narrowAll]
  simp [check]

theorem check_isLike (shape : List (Key × Guard)) (o : Object Guard) :
    check p (.isLike shape) (.object o) =
      Logged.all (testPresent (check p) (.object o)) shape := by
  rw [← checkPresent_eq_all, check]

theorem check_isSimilarTo (shape : List (Key × Guard)) (o : Object Guard) :
    check p (.isSimilarTo shape) (.object o) =
      Logged.all (testField (check p) (.object o)) shape := by
  rw [← checkFields_eq_all, check]

/-! ### Either way to evaluate -/

/-- The two ways to evaluate a guard. -/
inductive Way where
  | narrow
  | check

/-- The verdict of a guard on a value, one way or the other. -/
def verdict (p : Predicates) : Way → Guard → Value Guard → Logged Bool
  | .narrow, g, v => Option.isSome <$> narrow p g v
  | .check, g, v => check p g v

lemma verdict_eq_check (way : Way) : verdict p way = check p := by
  cases way with
  | narrow => exact funext fun g => funext fun v => isSome_narrow g v
  | check => rfl

/-- **A composite guard decides its quantifier over the shortest deciding prefix.**  A union
passes if some member does and stops at the first that does; an intersection, a collection
and a shape pass if each item does and stop at the first that fails.  Nothing happens on a
value of the wrong kind.  The composite and its parts may be evaluated either way. -/
theorem composite_decides (p : Predicates) (outer inner : Way) (members : List Guard)
    (part : Guard) (shape : List (Key × Guard)) (v : Value Guard) :
    let items := members.map fun g => verdict p inner g v
    DecidesSome (verdict p outer (.anyOf members) v) items ∧
    DecidesSome (verdict p outer (.anyOfList members) v) items ∧
    DecidesAll (verdict p outer (.allOf members) v) items ∧
    DecidesAll (verdict p outer (.allOfList members) v) items ∧
    (match v with
      | .object (.mk _ (.array elements) _ _) =>
        DecidesAll (verdict p outer (.isArrayOf part) v)
          (elements.map fun element => verdict p inner part element)
      | _ => verdict p outer (.isArrayOf part) v = ⟨false, []⟩) ∧
    (match v with
      | .object (.mk _ .ordinary _ properties) =>
        DecidesAll (verdict p outer (.isRecordOf part) v)
          (properties.map fun property => verdict p inner part property.2)
      | _ => verdict p outer (.isRecordOf part) v = ⟨false, []⟩) ∧
    (match v with
      | .object _ =>
        DecidesAll (verdict p outer (.isLike shape) v)
            (shape.map (testPresent (verdict p inner) v)) ∧
          DecidesAll (verdict p outer (.isSimilarTo shape) v)
            (shape.map (testField (verdict p inner) v))
      | _ =>
        verdict p outer (.isLike shape) v = ⟨false, []⟩ ∧
          verdict p outer (.isSimilarTo shape) v = ⟨false, []⟩) := by
  simp only [verdict_eq_check]
  refine ⟨?_, ?_, ?_, ?_, ?_, ?_, ?_⟩
  · rw [check_anyOf]
    exact Logged.decidesSome_any _ members
  · rw [check_anyOfList]
    exact Logged.decidesSome_any _ members
  · rw [check_allOf]
    exact Logged.decidesAll_all _ members
  · rw [check_allOfList]
    exact Logged.decidesAll_all _ members
  · split
    · exact Logged.decidesAll_all _ _
    · next hkind => simp [check, elements?_eq_none hkind, Logged.ext_iff]
  · split
    · exact Logged.decidesAll_all _ _
    · next hkind => simp [check, record?_eq_none hkind, Logged.ext_iff]
  · cases v with
    | object o =>
      simp only [check_isLike, check_isSimilarTo]
      exact ⟨Logged.decidesAll_all _ shape, Logged.decidesAll_all _ shape⟩
    | _ => exact ⟨rfl, rfl⟩

end Guard

end Narrowing
