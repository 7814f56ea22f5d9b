import Narrowing.Either
import Narrowing.Proofs.Declaration.Body
import Narrowing.Proofs.Declaration.Implementation
/-!
# Types and injections

The types in a declaration are read in the scope of its type parameters, which are told apart
by their place in the list of parameters.  What the views of the members are is left open: the
views of the member with a number are the elements of some type, and types, expressions and
injections mean types, functions and injections over these.

An expression of one variable has a meaning at a type only if it has the type.  The meanings
of the injections into a union that nests to the right are compared with the injections that
the union has, which are found from the type alone.
-/

namespace Narrowing.Declaration

/-! ### Types in scope -/

/-- The number of a type parameter, by its place in the list. -/
def number? (parameters : List String) (name : String) : Option Nat :=
  if name ∈ parameters then some (parameters.idxOf name + 1) else none

/-- The member that a type is the view of. -/
def Target.number? : Target → Option Nat
  | member number => some number
  | _ => none

mutual

/-- What the text of a type means in the scope of parameters and a lifetime. -/
def TypeExpr.resolve (parameters : List String) (lifetime : String) : TypeExpr → Option Target
  | .apply (.member (.name name) "Target") [.lifetime a] =>
    if a = lifetime then (number? parameters name).map Target.member else none
  | .apply (.name "Either") arguments => do
    match ← resolveAll parameters lifetime arguments with
    | [left, right] => return .either left right
    | _ => none
  | .tuple members => do
    return .tuple (← (← resolveAll parameters lifetime members).mapM Target.number?)
  | _ => none
termination_by structural type => type

/-- What the texts of types mean. -/
def resolveAll (parameters : List String) (lifetime : String) :
    List TypeExpr → Option (List Target)
  | [] => some []
  | type :: rest => do
    return (← type.resolve parameters lifetime) :: (← resolveAll parameters lifetime rest)
termination_by structural types => types

end

lemma resolveAll_eq_mapM (parameters : List String) (lifetime : String) (types : List TypeExpr) :
    resolveAll parameters lifetime types = types.mapM (·.resolve parameters lifetime) := by
  induction types with
  | nil => rfl
  | cons type types ih => rw [resolveAll, ih, List.mapM_cons]

/-! ### The meaning of types -/

/-- Tuples of views of members with these numbers. -/
def Views (V : Nat → Type) : List Nat → Type
  | [] => Unit
  | number :: rest => V number × Views V rest

/-- The meaning of a type, where `V` gives the types of the views of members. -/
def Target.Denote (V : Nat → Type) : Target → Type
  | member number => V number
  | either left right => Either (left.Denote V) (right.Denote V)
  | tuple numbers => Views V numbers

/-- The views in a tuple, in order. -/
def Views.toList {V : Nat → Type} (toView : (number : Nat) → V number → View) :
    (numbers : List Nat) → Views V numbers → List View
  | [], _ => []
  | number :: rest, it => toView number it.1 :: Views.toList toView rest it.2

/-- The view that an element of a type is. -/
def Target.toView {V : Nat → Type} (toView : (number : Nat) → V number → View) :
    (target : Target) → target.Denote V → View
  | member number, it => toView number it
  | either left _, .left it => .left (left.toView toView it)
  | either _ right, .right it => .right (right.toView toView it)
  | tuple numbers, it => .tuple (Views.toList toView numbers it)

/-! ### Injections -/

/-- The injection at a position of a union that nests to the right, with the number of the
member that it injects. -/
def Target.injection (V : Nat → Type) :
    (target : Target) → Nat → Option ((number : Nat) × (V number → target.Denote V))
  | member number, 0 => some ⟨number, id⟩
  | either (member number) _, 0 => some ⟨number, .left⟩
  | either _ right, position + 1 =>
    (right.injection V position).map fun injection =>
      ⟨injection.1, fun it => .right (injection.2 it)⟩
  | _, _ => none

section

variable {V : Nat → Type}

lemma injection_either_zero {left right : Target}
    {f : (number : Nat) × (V number → (Target.either left right).Denote V)}
    (h : (Target.either left right).injection V 0 = some f) (a : V f.1) :
    ∃ b, f.2 a = .left b := by
  cases left with
  | member number =>
    cases h
    exact ⟨a, rfl⟩
  | either _ _ => cases h
  | tuple _ => cases h

lemma injection_either_succ {left right : Target} {position : Nat}
    {f : (number : Nat) × (V number → (Target.either left right).Denote V)}
    (h : (Target.either left right).injection V (position + 1) = some f) :
    ∃ g, right.injection V position = some g ∧ f = ⟨g.1, fun it => .right (g.2 it)⟩ := by
  have hmap : (right.injection V position).map
      (fun g => (⟨g.1, fun it => .right (g.2 it)⟩ :
        (number : Nat) × (V number → (Target.either left right).Denote V))) = some f := by
    cases left <;> exact h
  obtain ⟨g, hg, hf⟩ := Option.map_eq_some_iff.1 hmap
  exact ⟨g, hg, hf.symm⟩

/-- Injections at different positions have nothing in common. -/
lemma injection_ne {target : Target} {i j : Nat} (hne : i ≠ j)
    {f g : (number : Nat) × (V number → target.Denote V)}
    (hf : target.injection V i = some f) (hg : target.injection V j = some g)
    (a : V f.1) (b : V g.1) : f.2 a ≠ g.2 b := by
  induction target generalizing i j with
  | member number =>
    cases i with
    | zero =>
      cases j with
      | zero => exact absurd rfl hne
      | succ j => cases hg
    | succ i => cases hf
  | tuple numbers => cases hf
  | either left right _ ih =>
    cases i with
    | zero =>
      obtain ⟨x, hx⟩ := injection_either_zero hf a
      cases j with
      | zero => exact absurd rfl hne
      | succ j =>
        obtain ⟨g', -, rfl⟩ := injection_either_succ hg
        rw [hx]
        exact nofun
    | succ i =>
      obtain ⟨f', hf', rfl⟩ := injection_either_succ hf
      cases j with
      | zero =>
        obtain ⟨y, hy⟩ := injection_either_zero hg b
        rw [hy]
        exact nofun
      | succ j =>
        obtain ⟨g', hg', rfl⟩ := injection_either_succ hg
        intro heq
        exact ih (by omega) hf' hg' a b (Either.right.inj heq)

end

/-! ### Expressions -/

/-- The meaning of an expression at a type, if it has the type, where the binder stands for
the view of a member. -/
def Expr.denote (V : Nat → Type) (binder : String) (number : Nat) :
    (target : Target) → Expr → Option (V number → target.Denote V)
  | .member other, .name text =>
    if h : text = binder ∧ number = other then some fun it => h.2 ▸ it else none
  | .either left _, .call (.member (.name "Either") "Left") [of] =>
    (of.denote V binder number left).map fun f it => .left (f it)
  | .either _ right, .call (.member (.name "Either") "Right") [of] =>
    (of.denote V binder number right).map fun f it => .right (f it)
  | _, _ => none
termination_by structural target => target

lemma denote_binder (V : Nat → Type) (binder : String) (number : Nat) :
    Expr.denote V binder number (.member number) (.name binder) = some id := by
  rw [Expr.denote, dif_pos ⟨rfl, rfl⟩]
  rfl

/-! ### The types and injections of a declaration -/

lemma parameter_injective : Function.Injective parameter := by
  intro m n h
  have hchars := congrArg String.toList h
  simp only [parameter, String.toList_append, List.append_cancel_left_eq, String.toList_inj]
    at hchars
  have hnumeral := congrArg Key.numeral? hchars
  rwa [Key.numeral?_toString, Key.numeral?_toString, Option.some.injEq] at hnumeral

lemma nodup_parameters (arity : Nat) : (parameters arity).Nodup :=
  (List.nodup_range' 1).map parameter_injective

lemma number?_parameters {arity number : Nat} (h : number ∈ List.range' 1 arity) :
    number? (parameters arity) (parameter number) = some number := by
  have hname : parameter number ∈ parameters arity := List.mem_map_of_mem h
  obtain ⟨i, hi, rfl⟩ := List.mem_range'.1 h
  have hlength : i < (parameters arity).length := by simpa [parameters] using hi
  have hget : (parameters arity)[i] = parameter (1 + 1 * i) := by simp [parameters]
  have hindex := (nodup_parameters arity).idxOf_getElem i hlength
  rw [hget] at hindex
  rw [number?, if_pos hname, hindex, Nat.one_mul, Nat.add_comm]

/-- The numbers of the members in a type. -/
def Target.numbers : Target → List Nat
  | member number => [number]
  | either left right => left.numbers ++ right.numbers
  | tuple numbers => numbers

lemma numbers_nested (number following : Nat) :
    (Target.nested number following).numbers = List.range' number (following + 1) := by
  induction following generalizing number with
  | zero => rfl
  | succ following ih =>
    rw [Target.nested, Target.numbers, Target.numbers, ih, List.singleton_append,
      ← List.range'_succ]

lemma numbers_ofFamily (family : Family) {arity : Nat} (h : arity ≠ 0) :
    (Target.ofFamily arity family).numbers = List.range' 1 arity := by
  cases family with
  | or =>
    rw [ofFamily_or h, numbers_nested]
    congr
    omega
  | and => rfl

/-- In the scope of the parameters, a type of their members means what it was written for. -/
lemma resolve_typeExpr {arity : Nat} {target : Target}
    (h : ∀ number ∈ target.numbers, number ∈ List.range' 1 arity) :
    target.typeExpr.resolve (parameters arity) "a" = some target := by
  induction target with
  | member number =>
    have hnumber := number?_parameters (h number (List.mem_singleton_self _))
    simp [Target.typeExpr, memberType, TypeExpr.resolve, hnumber]
  | either left right ihleft ihright =>
    have hleft := ihleft fun n hn => h n (List.mem_append_left _ hn)
    have hright := ihright fun n hn => h n (List.mem_append_right _ hn)
    simp [Target.typeExpr, TypeExpr.resolve, resolveAll, hleft, hright]
  | tuple numbers =>
    have hresolve : (numbers.map memberType).mapM (·.resolve (parameters arity) "a") =
        some (numbers.map Target.member) :=
      mapM_map_some fun n hn => by
        simp [memberType, TypeExpr.resolve, number?_parameters (h n hn)]
    have hnumbers : (numbers.map Target.member).mapM Target.number? = some (numbers.map id) :=
      mapM_map_some fun _ _ => rfl
    simp [Target.typeExpr, TypeExpr.resolve, resolveAll_eq_mapM, hresolve, hnumbers]

lemma Injection.atPosition_succ (position arity : Nat) :
    Injection.atPosition (position + 1) (arity + 1) =
      right (Injection.atPosition position arity) := by
  simp [Injection.atPosition, Injection.rights]

/-- The expression that is written for a position of a union has the type of the union, and
its meaning is the injection at this position. -/
lemma denote_atPosition (V : Nat → Type) {following number position member : Nat}
    (hle : position ≤ following) (hmember : member = number + position) :
    ∃ f : V member → (Target.nested number following).Denote V,
      Expr.denote V "it" member (Target.nested number following)
        (Injection.atPosition position (following + 1)).expr = some f ∧
      (Target.nested number following).injection V position = some ⟨member, f⟩ ∧
      ∀ toView it, (Target.nested number following).toView toView (f it) =
        (Injection.atPosition position (following + 1)).apply (toView member it) := by
  induction following generalizing number position with
  | zero =>
    obtain rfl : position = 0 := by omega
    subst hmember
    exact ⟨id, denote_binder V "it" _, rfl, fun _ _ => rfl⟩
  | succ following ih =>
    cases position with
    | zero =>
      subst hmember
      refine ⟨.left, ?_, rfl, fun _ _ => rfl⟩
      show (Expr.denote V "it" _ (.member _) (.name "it")).map _ = _
      rw [denote_binder]
      rfl
    | succ position =>
      obtain ⟨f, hdenote, hinjection, hview⟩ := ih (Nat.le_of_succ_le_succ hle)
        (show member = number + 1 + position by omega)
      rw [Injection.atPosition_succ]
      refine ⟨fun it => .right (f it), ?_, ?_, ?_⟩
      · show (Expr.denote V "it" member (Target.nested (number + 1) following) _).map _ = _
        rw [hdenote]
        rfl
      · show ((Target.nested (number + 1) following).injection V position).map _ = _
        rw [hinjection]
        rfl
      · intro toView it
        exact congrArg View.right (hview toView it)

/-- The expression that is written for a position among `arity` members, where the view is the
one of the member at this position. -/
lemma denote_ofFamily (V : Nat → Type) {arity position : Nat} (h : position < arity) :
    ∃ f : V (1 + position) → (Target.ofFamily arity .or).Denote V,
      Expr.denote V "it" (1 + position) (Target.ofFamily arity .or)
        (Injection.atPosition position arity).expr = some f ∧
      (Target.ofFamily arity .or).injection V position = some ⟨1 + position, f⟩ ∧
      ∀ toView it, (Target.ofFamily arity .or).toView toView (f it) =
        (Injection.atPosition position arity).apply (toView (1 + position) it) := by
  have hinjection := denote_atPosition V (Nat.le_sub_one_of_lt h)
    (show 1 + position = 1 + position from rfl)
  rwa [Nat.sub_add_cancel (by omega), ← ofFamily_or (by omega)] at hinjection

end Narrowing.Declaration
