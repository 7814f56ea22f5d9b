import Narrowing.Proofs.Declaration.Body
/-!
# The forms of combined guards

Guards are combined as a tuple, as a list, or two at a time from the right.  The three are
written apart and give views of different types: a tuple of alternatives injects the view at
its position into a nested sum, a list gives the view itself, and a chain of pairs injects it
one step at a time.

Everything is read off one search, `firstAccepted`, which gives the position and the view of
the first member that accepts, and off `narrowAll` for intersections.  The three forms are
then maps of the same evaluation, so that they agree on the verdict and on what happens, and
their views differ by the map alone.
-/

namespace Narrowing

namespace View

@[simp] lemma inject_succ (i arity : Nat) (view : View) :
    inject (i + 1) (arity + 1) view = right (inject i arity view) := by
  simp [inject, rights]

lemma inject_zero_of_two_le {arity : Nat} (h : 2 ≤ arity) (view : View) :
    inject 0 arity view = left view := by
  have hne : ¬ 0 + 1 = arity := by omega
  simp [inject, rights, hne]

/-- Views as pairs that nest to the right. -/
def nested : List View → View
  | [] => tuple []
  | [view] => view
  | view :: rest => tuple [view, nested rest]

end View

namespace Guard

variable {p : Predicates}

/-! ### The first member that accepts -/

/-- The member at a position accepts with a view, and no member before it accepts. -/
structure IsFirst (p : Predicates) (members : List Guard) (v : Value Guard) (i : Nat)
    (view : View) : Prop where
  accepts : ∃ g, members[i]? = some g ∧ (narrow p g v).result = some view
  rejects : ∀ j < i, ∀ g, members[j]? = some g → (narrow p g v).result = none

lemma isFirst_zero_iff {g : Guard} {rest : List Guard} {v : Value Guard} {view : View} :
    IsFirst p (g :: rest) v 0 view ↔ (narrow p g v).result = some view := by
  constructor
  · rintro ⟨⟨h, hh, hview⟩, -⟩
    obtain rfl : g = h := by simpa using hh
    exact hview
  · intro hview
    exact ⟨⟨g, rfl, hview⟩, fun j hj => absurd hj (Nat.not_lt_zero j)⟩

lemma isFirst_succ_iff {g : Guard} {rest : List Guard} {v : Value Guard} {i : Nat}
    {view : View} :
    IsFirst p (g :: rest) v (i + 1) view ↔
      (narrow p g v).result = none ∧ IsFirst p rest v i view := by
  constructor
  · rintro ⟨haccepts, hrejects⟩
    refine ⟨hrejects 0 (by omega) g rfl, by simpa using haccepts, ?_⟩
    intro j hj h hh
    exact hrejects (j + 1) (by omega) h (by simpa using hh)
  · rintro ⟨hnone, haccepts, hrejects⟩
    refine ⟨by simpa using haccepts, ?_⟩
    intro j hj h hh
    cases j with
    | zero =>
      obtain rfl : g = h := by simpa using hh
      exact hnone
    | succ j => exact hrejects j (by omega) h (by simpa using hh)

lemma result_firstAccepted_iff {members : List Guard} {v : Value Guard} {i : Nat}
    {view : View} :
    (firstAccepted p members v).result = some (i, view) ↔ IsFirst p members v i view := by
  induction members generalizing i with
  | nil =>
    constructor
    · intro h
      simp [firstAccepted] at h
    · rintro ⟨⟨g, hg, -⟩, -⟩
      simp at hg
  | cons g rest ih =>
    cases i with
    | zero =>
      rw [isFirst_zero_iff]
      cases h : (narrow p g v).result <;> simp [firstAccepted, h]
    | succ i =>
      rw [isFirst_succ_iff, ← ih]
      cases h : (narrow p g v).result <;> simp [firstAccepted, h]

lemma result_narrowAll_iff {members : List Guard} {v : Value Guard} {views : List View} :
    (narrowAll p members v).result = some views ↔
      members.map (fun g => (narrow p g v).result) = views.map some := by
  rw [narrowAll_eq_collect]
  exact Logged.result_collect_iff

/-! ### Each form as a map of one evaluation -/

theorem narrow_anyOf (members : List Guard) (v : Value Guard) :
    narrow p (.anyOf members) v =
      Option.map (fun found => found.2.inject found.1 members.length) <$>
        firstAccepted p members v := by
  rw [narrow, narrowPosition_eq]
  simp

theorem narrow_anyOfList (members : List Guard) (v : Value Guard) :
    narrow p (.anyOfList members) v = Option.map Prod.snd <$> firstAccepted p members v := by
  rw [narrow, narrowFirst_eq]

theorem narrow_allOf (members : List Guard) (v : Value Guard) :
    narrow p (.allOf members) v = Option.map View.tuple <$> narrowAll p members v := by
  simp [narrow]

theorem narrow_allOfList (members : List Guard) (v : Value Guard) :
    narrow p (.allOfList members) v = Option.map View.list <$> narrowAll p members v := by
  simp [narrow]

/-! ### Chains of pairs -/

/-- The alternatives of a list as pairs that nest to the right. -/
def chainAny : List Guard → Guard
  | [] => .anyOf []
  | [g] => g
  | g :: rest => .anyOf [g, chainAny rest]

/-- The intersection of a list as pairs that nest to the right. -/
def chainAll : List Guard → Guard
  | [] => .allOf []
  | [g] => g
  | g :: rest => .allOf [g, chainAll rest]

/-- The alternatives after the first are one step to the right of those of the rest. -/
lemma narrow_anyOf_cons (g : Guard) (rest : List Guard) (v : Value Guard) :
    narrow p (.anyOf (g :: rest)) v = do
      match ← narrow p g v with
      | some view => return some (view.inject 0 (rest.length + 1))
      | none => return (← narrow p (.anyOf rest) v).map View.right := by
  simp only [narrow_anyOf, firstAccepted, map_bind, List.length_cons]
  refine bind_congr fun view => ?_
  cases view with
  | some view => simp
  | none => simp [Function.comp_def]

lemma narrow_anyOf_singleton (g : Guard) (v : Value Guard) :
    narrow p (.anyOf [g]) v = narrow p g v := by
  refine (narrow_anyOf_cons g [] v).trans (Eq.trans ?_ (bind_pure (narrow p g v)))
  refine bind_congr fun view => ?_
  cases view <;> simp [narrow_anyOf, firstAccepted, View.inject, View.rights]

lemma narrow_anyOf_pair (g h : Guard) (v : Value Guard) :
    narrow p (.anyOf [g, h]) v = do
      match ← narrow p g v with
      | some view => return some view.left
      | none => return (← narrow p h v).map View.right := by
  rw [narrow_anyOf_cons, narrow_anyOf_singleton]
  rfl

/-- A tuple of alternatives is its first member paired with the tuple of the rest. -/
lemma narrow_anyOf_cons_eq_pair (g : Guard) {rest : List Guard} (hrest : rest ≠ [])
    (v : Value Guard) :
    narrow p (.anyOf (g :: rest)) v = narrow p (.anyOf [g, .anyOf rest]) v := by
  have hlength : 2 ≤ rest.length + 1 := by
    have := List.length_pos_iff.2 hrest
    omega
  rw [narrow_anyOf_cons, narrow_anyOf_pair]
  simp only [View.inject_zero_of_two_le hlength]

lemma narrow_chainAny (members : List Guard) (v : Value Guard) :
    narrow p (chainAny members) v = narrow p (.anyOf members) v := by
  induction members using chainAny.induct with
  | case1 => rfl
  | case2 g => rw [chainAny, narrow_anyOf_singleton]
  | case3 g rest hrest ih =>
    rw [narrow_anyOf_cons_eq_pair g hrest, chainAny, narrow_anyOf_pair, narrow_anyOf_pair, ih]
    exact hrest

lemma narrow_allOf_pair (g h : Guard) (v : Value Guard) :
    narrow p (.allOf [g, h]) v = do
      match ← narrow p g v with
      | some view => return (← narrow p h v).map fun other => .tuple [view, other]
      | none => return none := by
  simp only [narrow, narrowAll, bind_assoc]
  refine bind_congr fun view => ?_
  cases view with
  | none => simp
  | some view =>
    simp only [bind_assoc]
    refine bind_congr fun other => ?_
    cases other <;> simp

lemma narrow_chainAll {members : List Guard} (hmembers : members ≠ []) (v : Value Guard) :
    narrow p (chainAll members) v = Option.map View.nested <$> narrowAll p members v := by
  induction members using chainAll.induct with
  | case1 => exact absurd rfl hmembers
  | case2 g =>
    refine (bind_pure (narrow p g v)).symm.trans ?_
    simp only [narrowAll, map_bind]
    refine bind_congr fun view => ?_
    cases view <;> simp [View.nested]
  | case3 g rest hrest ih =>
    -- the chain and its views only unfold once the rest is seen to have a first member
    obtain ⟨h, rest, rfl⟩ := List.exists_cons_of_ne_nil hrest
    show narrow p (.allOf [g, chainAll (h :: rest)]) v = _
    rw [narrow_allOf_pair, ih hrest]
    simp only [narrowAll, map_bind]
    refine bind_congr fun view => ?_
    cases view with
    | none => simp
    | some view =>
      -- the views of a nonempty rest are not empty, so that they nest under the first
      simp only [map_bind, bind_assoc]
      refine bind_congr fun other => ?_
      cases other with
      | none => simp
      | some other => simp [Function.comp_def, View.nested]

/-! ### Unions without sides -/

/-- A union of two erased guards whose sides are merged does not say which of them accepts. -/
theorem narrow_merged (first second : Guard) (v : Value Guard) :
    narrow p (.merged first second) v =
      Option.map View.merge <$> narrow p (.anyOf [.erased first, .erased second]) v := by
  have hright : View.merge ∘ View.right = id := rfl
  have hnone : View.accepted v false = none := rfl
  rw [narrow_anyOf_pair]
  simp only [narrow, map_bind, bind_assoc, pure_bind]
  refine bind_congr fun passed => ?_
  cases passed with
  | true => rfl
  | false => simp [hnone, hright]

/-- As a test it is the union. -/
theorem check_merged (first second : Guard) (v : Value Guard) :
    check p (.merged first second) v = check p (.anyOf [.erased first, .erased second]) v := by
  rw [← isSome_narrow, narrow_merged, ← isSome_narrow]
  simp

/-! ### Agreement -/

open Declaration (Body Family)

/-- What the forms of alternatives have in common on a value. -/
structure AlternativesAgree (p : Predicates) (members : List Guard) (v : Value Guard) :
    Prop where
  none_iff : (narrow p (.anyOf members) v).result = none ↔
    (narrow p (.anyOfList members) v).result = none
  /-- The tuple injects the view of the first member that accepts, and the list gives it. -/
  first : ∀ i view, IsFirst p members v i view →
    (narrow p (.anyOf members) v).result =
        some (.rights i (if i + 1 = members.length then view else .left view)) ∧
      (narrow p (.anyOfList members) v).result = some view
  found : (narrow p (.anyOf members) v).result ≠ none → ∃ i view, IsFirst p members v i view
  declared : (Body.ofFamily members.length .or).run p members v = narrow p (.anyOf members) v
  /-- From three members on, the tuple is its first member or the tuple of the others. -/
  split : ∀ g rest, members = g :: rest → 3 ≤ members.length →
    narrow p (.anyOf members) v = narrow p (.anyOf [g, .anyOf rest]) v
  chain : narrow p (chainAny members) v = narrow p (.anyOf members) v
  events_list : (narrow p (.anyOfList members) v).events =
    (narrow p (.anyOf members) v).events

/-- What the forms of intersections have in common on a value. -/
structure IntersectionsAgree (p : Predicates) (members : List Guard) (v : Value Guard) :
    Prop where
  isSome_iff : (narrow p (.allOf members) v).result.isSome ↔
    (narrow p (.allOfList members) v).result.isSome
  /-- Each form holds the views of all members in order. -/
  views : (narrow p (.allOf members) v).result ≠ none →
    ∃ views : List View, members.map (fun g => (narrow p g v).result) = views.map some ∧
      (narrow p (.allOf members) v).result = some (.tuple views) ∧
      (narrow p (.allOfList members) v).result = some (.list views) ∧
      (narrow p (chainAll members) v).result = some (.nested views)
  declared : (Body.ofFamily members.length .and).run p members v =
    narrow p (.allOf members) v
  isSome_chain : (narrow p (chainAll members) v).result.isSome ↔
    (narrow p (.allOf members) v).result.isSome
  events_list : (narrow p (.allOfList members) v).events =
    (narrow p (.allOf members) v).events
  events_chain : (narrow p (chainAll members) v).events =
    (narrow p (.allOf members) v).events

lemma alternativesAgree {members : List Guard} (hmembers : members ≠ []) (v : Value Guard) :
    AlternativesAgree p members v where
  none_iff := by simp [narrow_anyOf, narrow_anyOfList]
  first i view hfirst := by
    have hresult := result_firstAccepted_iff.2 hfirst
    simp [narrow_anyOf, narrow_anyOfList, hresult, View.inject]
  found hsome := by
    rw [narrow_anyOf, Logged.result_map] at hsome
    cases hfound : (firstAccepted p members v).result with
    | none => exact absurd (by rw [hfound]; rfl) hsome
    | some found => exact ⟨found.1, found.2, result_firstAccepted_iff.1 hfound⟩
  declared := Declaration.run_body_ofFamily .or hmembers
  split g rest heq hlength := by
    subst heq
    refine narrow_anyOf_cons_eq_pair g ?_ v
    rintro rfl
    simp at hlength
  chain := narrow_chainAny members v
  events_list := by rw [narrow_anyOf, narrow_anyOfList, Logged.events_map, Logged.events_map]

lemma intersectionsAgree {members : List Guard} (hmembers : members ≠ []) (v : Value Guard) :
    IntersectionsAgree p members v where
  isSome_iff := by simp [narrow_allOf, narrow_allOfList]
  views hsome := by
    rw [narrow_allOf, Logged.result_map] at hsome
    cases hviews : (narrowAll p members v).result with
    | none => exact absurd (by rw [hviews]; rfl) hsome
    | some views =>
      refine ⟨views, result_narrowAll_iff.1 hviews, ?_, ?_, ?_⟩
      · simp [narrow_allOf, hviews]
      · simp [narrow_allOfList, hviews]
      · simp [narrow_chainAll hmembers, hviews]
  declared := Declaration.run_body_ofFamily .and hmembers
  isSome_chain := by simp [narrow_allOf, narrow_chainAll hmembers]
  events_list := by simp [narrow_allOf, narrow_allOfList]
  events_chain := by simp [narrow_allOf, narrow_chainAll hmembers]

/-- **The forms of combined guards agree.**  A tuple of two or more guards, the list of them
and the chain of pairs from the right have the same verdict and the same events on every
value, and views that differ by the injection alone. -/
theorem combined_forms_agree (p : Predicates) (members : List Guard) (v : Value Guard)
    (two : 2 ≤ members.length) :
    AlternativesAgree p members v ∧ IntersectionsAgree p members v := by
  have hmembers : members ≠ [] := by
    rintro rfl
    simp at two
  exact ⟨alternativesAgree hmembers v, intersectionsAgree hmembers v⟩

/-- The last of three alternatives accepts a truth value, without a step to the left. -/
theorem combined_forms_agree_on_boolean :
    (narrow (fun _ _ => pure false)
        (.anyOf [.classifier .isNumber, .classifier .isString, .classifier .isBoolean])
        (.boolean true)).result = some (.right (.right (.boolean true))) ∧
      (narrow (fun _ _ => pure false)
        (.anyOfList [.classifier .isNumber, .classifier .isString, .classifier .isBoolean])
        (.boolean true)).result = some (.boolean true) := by
  have hagree := combined_forms_agree (fun _ _ => pure false)
    [.classifier .isNumber, .classifier .isString, .classifier .isBoolean] (.boolean true)
    (by decide)
  refine hagree.1.first 2 (.boolean true) ⟨⟨_, rfl, rfl⟩, ?_⟩
  intro j hj g hg
  match j, hj with
  | 0, _ | 1, _ =>
    obtain rfl := Option.some.inj hg
    rfl

end Guard

end Narrowing
