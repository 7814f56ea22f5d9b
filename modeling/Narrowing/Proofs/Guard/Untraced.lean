import Narrowing.Proofs.Guard.Deciding
/-!
# Guards without tracing

A traced guard records its evaluation and is otherwise the guard that it wraps.  Here the
wrappers are taken off a guard at every depth, and the evaluations of the two guards are
compared.  They agree in everything but the records of the wrappers: deleting these from the
evaluation of the guard gives the evaluation of what is left of it, as evaluations.

Deleting records passes through the steps of an evaluation, so that the comparison goes along
the loops of the evaluation.  Predicates are the caller's, and what is traced inside them is
deleted from what they record.
-/

namespace Narrowing

/-! ### Evaluations without their traces -/

/-- Whether the event is the evaluation of a traced guard. -/
def Event.isTrace : Event → Bool
  | evaluated .. => true
  | rejected _ => false
  | observed .. => false

namespace Logged

variable {α β : Type}

/-- The evaluation without the evaluations of traced guards in its record. -/
def untraced (x : Logged α) : Logged α := ⟨x.result, x.events.filter fun e => !e.isTrace⟩

@[simp] lemma result_untraced (x : Logged α) : x.untraced.result = x.result := rfl

@[simp] lemma events_untraced (x : Logged α) :
    x.untraced.events = x.events.filter fun e => !e.isTrace := rfl

@[simp] lemma untraced_pure (a : α) : (pure a : Logged α).untraced = pure a := rfl

@[simp] lemma untraced_bind (x : Logged α) (f : α → Logged β) :
    (x >>= f).untraced = x.untraced >>= fun a => (f a).untraced :=
  Logged.ext rfl (by simp)

@[simp] lemma untraced_map (f : α → β) (x : Logged α) :
    (f <$> x).untraced = f <$> x.untraced :=
  Logged.ext rfl (by simp)

lemma collect_untraced {view other : α → Logged (Option β)}
    (h : ∀ a, other a = (view a).untraced) (items : List α) :
    collect other items = (collect view items).untraced := by
  induction items with
  | nil => rfl
  | cons a rest ih =>
    rw [collect, collect, untraced_bind, h]
    refine bind_congr fun b => ?_
    cases b <;> simp [ih]

end Logged

namespace Predicates

/-- The predicates without what is traced inside them. -/
def untraced (p : Predicates) : Predicates := fun index v => (p index v).untraced

/-- Nothing is traced inside the predicates. -/
def Quiet (p : Predicates) : Prop :=
  ∀ index v, ∀ e ∈ (p index v).events, e.isTrace = false

lemma Quiet.untraced_eq {p : Predicates} (h : p.Quiet) : p.untraced = p := by
  funext index v
  exact Logged.ext rfl (List.filter_eq_self.2 fun e he => by simp [h index v e he])

end Predicates

namespace Guard

/-! ### Guards without their wrappers -/

mutual

/-- The guard without the traced wrappers in it. -/
def untraced : Guard → Guard
  | classifier c => classifier c
  | has key => has key
  | hasWith key guard => hasWith key guard.untraced
  | isKeyOf container => isKeyOf container
  | isLike shape => isLike (untracedFields shape)
  | isSimilarTo shape => isSimilarTo (untracedFields shape)
  | isArrayOf element => isArrayOf element.untraced
  | isRecordOf field => isRecordOf field.untraced
  | isInstanceOf constructor => isInstanceOf constructor
  | isOneOf members => isOneOf members
  | isEqualTo expected => isEqualTo expected
  | anyOf members => anyOf (untracedMembers members)
  | allOf members => allOf (untracedMembers members)
  | anyOfList members => anyOfList (untracedMembers members)
  | allOfList members => allOfList (untracedMembers members)
  | merged first second => merged first.untraced second.untraced
  | not guard => not guard.untraced
  | erased guard => erased guard.untraced
  | traced _ guard => guard.untraced
  | predicate index => predicate index
termination_by structural guard => guard

/-- The fields of a shape without the traced wrappers in their guards. -/
def untracedFields : List (Key × Guard) → List (Key × Guard)
  | [] => []
  | (key, guard) :: rest => (key, guard.untraced) :: untracedFields rest
termination_by structural shape => shape

/-- The members without the traced wrappers in them. -/
def untracedMembers : List Guard → List Guard
  | [] => []
  | guard :: rest => guard.untraced :: untracedMembers rest
termination_by structural members => members

end

lemma length_untracedMembers (members : List Guard) :
    (untracedMembers members).length = members.length := by
  induction members with
  | nil => rfl
  | cons g rest ih => rw [untracedMembers, List.length_cons, ih, List.length_cons]

/-! ### The evaluations compared -/

section

variable {p : Predicates}

/-- On every value, narrowing without the wrappers is narrowing without the traces. -/
def Transparent (p : Predicates) (g : Guard) : Prop :=
  ∀ v, narrow p.untraced g.untraced v = (narrow p g v).untraced

lemma Transparent.check {g : Guard} (h : Transparent p g) (v : Value Guard) :
    check p.untraced g.untraced v = (check p g v).untraced := by
  rw [← isSome_narrow, h, ← Logged.untraced_map, isSome_narrow]

lemma checkPresent_untraced {shape : List (Key × Guard)}
    (h : ∀ child ∈ shape.map Prod.snd, Transparent p child) (v : Value Guard) :
    checkPresent p.untraced (untracedFields shape) v = (checkPresent p shape v).untraced := by
  induction shape with
  | nil => rfl
  | cons field rest ih =>
    obtain ⟨hfield, hrest⟩ := List.forall_mem_cons.1 h
    rw [untracedFields, checkPresent, checkPresent]
    cases v.get? field.1 with
    | none => rfl
    | some w =>
      simp only [hfield.check, Logged.untraced_bind]
      refine bind_congr fun passed => ?_
      cases passed with
      | true => exact ih hrest
      | false => rfl

lemma checkFields_untraced {shape : List (Key × Guard)}
    (h : ∀ child ∈ shape.map Prod.snd, Transparent p child) (v : Value Guard) :
    checkFields p.untraced (untracedFields shape) v = (checkFields p shape v).untraced := by
  induction shape with
  | nil => rfl
  | cons field rest ih =>
    obtain ⟨hfield, hrest⟩ := List.forall_mem_cons.1 h
    rw [untracedFields, checkFields, checkFields]
    simp only [hfield.check, Logged.untraced_bind]
    refine bind_congr fun passed => ?_
    cases passed with
    | true => exact ih hrest
    | false => rfl

lemma firstAccepted_untraced {members : List Guard} (h : ∀ g ∈ members, Transparent p g)
    (v : Value Guard) :
    firstAccepted p.untraced (untracedMembers members) v =
      (firstAccepted p members v).untraced := by
  induction members with
  | nil => rfl
  | cons g rest ih =>
    obtain ⟨hg, hrest⟩ := List.forall_mem_cons.1 h
    rw [untracedMembers, firstAccepted, firstAccepted, hg v, Logged.untraced_bind]
    refine bind_congr fun view => ?_
    cases view with
    | some view => rfl
    | none => simp [ih hrest]

lemma narrowAll_untraced {members : List Guard} (h : ∀ g ∈ members, Transparent p g)
    (v : Value Guard) :
    narrowAll p.untraced (untracedMembers members) v = (narrowAll p members v).untraced := by
  induction members with
  | nil => rfl
  | cons g rest ih =>
    obtain ⟨hg, hrest⟩ := List.forall_mem_cons.1 h
    rw [untracedMembers, narrowAll, narrowAll, hg v, Logged.untraced_bind]
    refine bind_congr fun view => ?_
    cases view with
    | none => rfl
    | some view => simp [ih hrest]

/-- What a wrapper records is deleted, and nothing else. -/
lemma traceResult_untraced (name : String) (v : Value Guard) (x : Logged (Option View)) :
    (traceResult name v x).untraced = x.untraced :=
  Logged.ext rfl (by simp [traceResult, Logged.record, Event.isTrace])

lemma transparent (p : Predicates) (g : Guard) : Transparent p g := by
  induction g using children_induction with
  | step g ih =>
    intro v
    cases g with
    | hasWith key guard =>
      have hpart : Transparent p guard := ih guard (by simp [children])
      simp only [untraced, narrow]
      split <;> simp [hpart.check]
    | isLike shape =>
      cases v with
      | object o => simp [untraced, narrow, checkPresent_untraced ih]
      | _ => rfl
    | isSimilarTo shape =>
      cases v with
      | object o => simp [untraced, narrow, checkFields_untraced ih]
      | _ => rfl
    | isArrayOf element =>
      have hpart : Transparent p element := ih element (by simp [children])
      simp only [untraced, narrow]
      cases v.elements? with
      | none => rfl
      | some elements => simp [Logged.collect_untraced hpart]
    | isRecordOf field =>
      have hpart : Transparent p field := ih field (by simp [children])
      have hentry : ∀ entry, viewField (narrow p.untraced field.untraced) entry =
          (viewField (narrow p field) entry).untraced := by
        intro entry
        simp [viewField, hpart entry.2]
      simp only [untraced, narrow]
      cases v.record? with
      | none => rfl
      | some fields => simp [Logged.collect_untraced hentry]
    | anyOf members =>
      have hparts : ∀ g ∈ members, Transparent p g := ih
      simp [untraced, narrow, narrowPosition_eq, firstAccepted_untraced hparts,
        length_untracedMembers]
    | anyOfList members =>
      have hparts : ∀ g ∈ members, Transparent p g := ih
      simp [untraced, narrow, narrowFirst_eq, firstAccepted_untraced hparts]
    | allOf members | allOfList members =>
      have hparts : ∀ g ∈ members, Transparent p g := ih
      simp [untraced, narrow, narrowAll_untraced hparts]
    | merged first second =>
      have hfirst : Transparent p first := ih first (by simp [children])
      have hsecond : Transparent p second := ih second (by simp [children])
      simp only [untraced, narrow, hfirst.check, Logged.untraced_bind]
      refine bind_congr fun passed => ?_
      cases passed <;> simp [hsecond.check]
    | not guard | erased guard =>
      have hpart : Transparent p guard := ih guard (by simp [children])
      simp [untraced, narrow, hpart.check]
    | traced name guard =>
      have hpart : Transparent p guard := ih guard (by simp [children])
      rw [untraced, hpart v, narrow, traceResult_untraced]
    | predicate index => simp [untraced, narrow, Predicates.untraced]
    -- a guard without parts records nothing
    | _ => rfl

end

end Guard

end Narrowing
