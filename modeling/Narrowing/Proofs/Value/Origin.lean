import Narrowing.Proofs.Value.History
/-!
# How functions are made

There are four ways to make a function: as a function of a kind, as a function of the program
itself, as a function that carries a guard, and as a class with a history of steps.  The
methods of the intrinsic objects are functions of the second way, and the methods of a class
are functions of the first.

`Origin.Made` says of a function what its origin determines.  A function takes its identities
from the supply, and so does its prototype if it has one; the prototype of a class holds what
the steps put on it, and inherits from the prototype of the last parent.
-/

namespace Narrowing

variable {γ : Type}

namespace Function

lemma prototype_eq_none {f : Function γ} (hf : f.isConstructor = false) : f.prototype = none :=
  Option.isNone_iff_eq_none.1 (Option.isSome_eq_false_iff.1 hf)

open ClassStep (memberPuts staticPut? staticKey? lastParent?)

/-- A way to make a function. -/
inductive Origin (γ : Type) where
  /-- A function of a kind, without properties. -/
  | ofKind (name : String) (kind : FunctionKind)
  /-- A function of the program itself. -/
  | builtin (name : String) (length : UInt32)
  /-- A function that carries a guard. -/
  | ofGuard (name : String) (guard : γ)
  /-- A class with its history of steps. -/
  | ofClass (name : String) (history : List (ClassStep γ))

namespace Origin

/-- Makes a function. -/
def make : Origin γ → Build (Function γ)
  | ofKind name kind => Function.ofKind name kind
  | builtin name length => Function.builtin name length
  | ofGuard name guard => Function.ofGuard name guard
  | ofClass name history => Function.ofClass name history

/-- The steps that build the function, which are none if it is no class. -/
def history : Origin γ → List (ClassStep γ)
  | ofClass _ history => history
  | _ => []

/-- The keys of the properties that the function is given, in the order in which they were
first put. -/
def staticKeys (o : Origin γ) : List Key := insertedKeys staticKey? o.history

/-- What is known of a function that is made, and of the supply after it. -/
structure Made (o : Origin γ) (start : Supply) (f : Function γ) (rest : Supply) : Prop where
  statics : f.statics = Table.ofPuts (o.history.filterMap staticPut?)
  le_identity : start.identity ≤ f.identity
  identity_lt : f.identity < rest.identity
  /-- The prototype is a new object that inherits from that of the last parent. -/
  prototype : ∀ proto, f.prototype = some proto →
    start.identity ≤ proto.identity ∧ proto.identity < rest.identity ∧
      proto = .mk proto.identity .ordinary (some (inheritedPrototype (lastParent? o.history)))
        (Table.ofPuts ((memberPuts o.history).run start).1)

lemma le_identity_memberPuts (history : List (ClassStep γ)) (supply : Supply) :
    supply.identity ≤ ((memberPuts history).run supply).2.identity := by
  induction history using List.reverseRecOn with
  | nil => exact Nat.le_refl _
  | append_singleton history s ih =>
    rw [ClassStep.run_memberPuts_append_singleton]
    refine Nat.le_trans ih ?_
    cases s with
    | method name => exact Nat.le_succ _
    | _ => exact Nat.le_refl _

lemma made_ofClass (name : String) (history : List (ClassStep γ)) (supply : Supply) :
    Made (.ofClass name history) supply ((Function.ofClass name history).run supply).1
      ((Function.ofClass name history).run supply).2 := by
  obtain ⟨-, -, hstatics, hrest⟩ := ClassBuilder.leftBy_steps name history supply
  have hle := le_identity_memberPuts history supply
  rw [← hrest] at hle
  refine ⟨hstatics, ?_, ?_, ?_⟩
  · exact Nat.le_trans hle (Nat.le_succ _)
  · exact Nat.lt_succ_self _
  · intro proto hproto
    rw [prototype_run_ofClass, ← hrest] at hproto
    obtain rfl := Option.some.inj hproto
    exact ⟨hle, Nat.lt_succ_of_lt (Nat.lt_succ_self _), rfl⟩

/-- A function without a history has at most an empty prototype. -/
lemma made_of_history_eq_nil {o : Origin γ} {f : Function γ} {start rest : Supply}
    (ho : o.history = []) (hstatics : f.statics = []) (hle : start.identity ≤ f.identity)
    (hlt : f.identity < rest.identity)
    (hproto : ∀ proto, f.prototype = some proto →
      proto = .mk start.identity .ordinary (some Intrinsic.root) []) :
    Made o start f rest := by
  refine ⟨by rw [ho]; exact hstatics, hle, hlt, ?_⟩
  intro proto h
  obtain rfl := hproto proto h
  exact ⟨Nat.le_refl _, Nat.lt_of_le_of_lt hle hlt, by rw [ho]; rfl⟩

/-- Every way to make a function makes what its origin says. -/
lemma made_make (o : Origin γ) (supply : Supply) :
    Made o supply (o.make.run supply).1 (o.make.run supply).2 := by
  have hnext : supply.identity < supply.identity + 1 := Nat.lt_succ_self _
  cases o with
  | ofKind name kind =>
    cases kind with
    | declared | classConstructor =>
      refine made_of_history_eq_nil rfl rfl (Nat.le_succ _) (Nat.lt_succ_self _) ?_
      intro proto h
      exact (Option.some.inj h).symm
    | _ => exact made_of_history_eq_nil rfl rfl (Nat.le_refl _) hnext (fun _ h => nomatch h)
  | builtin name length =>
    exact made_of_history_eq_nil rfl rfl (Nat.le_refl _) hnext (fun _ h => nomatch h)
  | ofGuard name guard =>
    exact made_of_history_eq_nil rfl rfl (Nat.le_refl _) hnext (fun _ h => nomatch h)
  | ofClass name history => exact made_ofClass name history supply

lemma keys_statics_make (o : Origin γ) (supply : Supply) :
    (o.make.run supply).1.statics.keys = o.staticKeys := by
  rw [(o.made_make supply).statics]
  exact Table.keys_ofPuts_filterMap ClassStep.map_fst_staticPut? o.history

end Origin

end Function

end Narrowing
