import Narrowing.Declaration.Basic
import Narrowing.Proofs.Guard.Deciding
/-!
# What a declared body does

A declaration of combined guards says which members its body narrows, in which order, and how
it injects their views.  This file runs a body on the members of a tuple and shows that the
body declared for their number does what evaluating the tuple does, with the same view and
the same events.  A body reaches members by position and the evaluation goes through them one
after the other, so both are compared on the members that are left.
-/

namespace Narrowing.Declaration

/-- The view that an injection makes of the view of a member. -/
def Injection.apply : Injection → View → View
  | view, it => it
  | left of, it => .left (of.apply it)
  | right of, it => .right (of.apply it)

lemma Injection.apply_rights (steps : Nat) (e : Injection) (it : View) :
    (Injection.rights steps e).apply it = View.rights steps (e.apply it) := by
  induction steps with
  | zero => rfl
  | succ steps ih => exact congrArg View.right ih

lemma Injection.apply_atPosition (position arity : Nat) (it : View) :
    (Injection.atPosition position arity).apply it = it.inject position arity := by
  rw [Injection.atPosition, Injection.apply_rights, View.inject]
  split <;> rfl

/-- The guard over a tuple that a family declares. -/
def Family.guard (members : List Guard) : Family → Guard
  | or => .anyOf members
  | and => .allOf members

section Run

variable (p : Predicates) (members : List Guard) (v : Value Guard)

/-- Narrows the member at a position. -/
def narrowAt (position : Nat) : Logged (Option View) :=
  match members[position]? with
  | some g => g.narrow p v
  | none => return none

/-- Tries members in order, and gives the injected view of the first that accepts. -/
def runAttempts (last : Nat × Injection) : List (Nat × Injection) → Logged (Option View)
  | [] => Option.map last.2.apply <$> narrowAt p members v last.1
  | attempt :: rest => do
    match ← narrowAt p members v attempt.1 with
    | some it => return some (attempt.2.apply it)
    | none => runAttempts last rest

/-- Runs a body on the members of a tuple. -/
def Body.run : Body → Logged (Option View)
  | firstOf attempts last => runAttempts p members v last attempts
  | allOf positions =>
    Option.map View.tuple <$> Logged.collect (narrowAt p members v) positions

end Run

variable {p : Predicates} {v : Value Guard}

lemma narrowAt_append (before : List Guard) (g : Guard) (rest : List Guard) :
    narrowAt p (before ++ g :: rest) v before.length = g.narrow p v := by
  simp [narrowAt]

/-- The attempts from a position on do what narrowing the members from there on does. -/
lemma runAttempts_eq (before : List Guard) (g : Guard) (rest : List Guard) (arity : Nat) :
    runAttempts p (before ++ g :: rest) v
        (before.length + rest.length,
          Injection.atPosition (before.length + rest.length) arity)
        ((List.range' before.length rest.length).map fun i =>
          (i, Injection.atPosition i arity)) =
      Guard.narrowPosition p arity (g :: rest) before.length v := by
  induction rest generalizing before g with
  | nil =>
    simp only [List.length_nil, List.range'_zero, List.map_nil, runAttempts, Nat.add_zero,
      narrowAt_append, Guard.narrowPosition, map_eq_pure_bind]
    refine bind_congr fun view => ?_
    cases view with
    | none => rfl
    | some view => simp only [Option.map_some, Injection.apply_atPosition]
  | cons h rest ih =>
    -- the first member left moves behind those passed, where the hypothesis speaks of it
    have hlast : before.length + (rest.length + 1) = (before ++ [g]).length + rest.length := by
      simp [Nat.add_comm, Nat.add_left_comm]
    have hmembers : before ++ g :: h :: rest = before ++ [g] ++ h :: rest := by simp
    rw [Guard.narrowPosition]
    simp only [List.length_cons, List.range'_succ, List.map_cons, runAttempts, narrowAt_append]
    refine bind_congr fun view => ?_
    cases view with
    | some view => simp only [Injection.apply_atPosition]
    | none =>
      have hrest := ih (before ++ [g]) h
      rw [← hlast, ← hmembers, List.length_append] at hrest
      exact hrest

lemma collect_narrowAt_eq (before rest : List Guard) :
    Logged.collect (narrowAt p (before ++ rest) v) (List.range' before.length rest.length) =
      Guard.narrowAll p rest v := by
  induction rest generalizing before with
  | nil => rfl
  | cons g rest ih =>
    have hrest := ih (before ++ [g])
    rw [List.append_assoc, List.singleton_append, List.length_append,
      List.length_singleton] at hrest
    rw [List.length_cons, List.range'_succ, Logged.collect, narrowAt_append, Guard.narrowAll]
    refine bind_congr fun view => ?_
    cases view with
    | none => rfl
    | some view => simp only [hrest]

/-- **The declared body evaluates the tuple.**  For every number of members but none, the body
that a family declares for that number gives the view that evaluating the tuple gives, and
the same events. -/
theorem run_body_ofFamily (family : Family) {members : List Guard} (h : members ≠ []) :
    (Body.ofFamily members.length family).run p members v =
      (family.guard members).narrow p v := by
  obtain ⟨g, rest, rfl⟩ := List.exists_cons_of_ne_nil h
  cases family with
  | or =>
    have hrun := runAttempts_eq (p := p) (v := v) [] g rest (rest.length + 1)
    simpa [Body.ofFamily, Body.run, Family.guard, Guard.narrow, List.range_eq_range'] using hrun
  | and =>
    have hrun := collect_narrowAt_eq (p := p) (v := v) [] (g :: rest)
    simp only [List.nil_append, List.length_nil] at hrun
    simp only [Body.ofFamily, Body.run, Family.guard, Guard.narrow, List.range_eq_range', hrun]
    simp

end Narrowing.Declaration
