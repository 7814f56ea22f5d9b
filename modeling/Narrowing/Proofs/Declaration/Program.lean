import Narrowing.Proofs.Declaration.Typing
/-!
# What a declared program does

An implementation that is read from a text has a meaning if it is well formed: each member of
its tuple is a type parameter that is bounded by the guards, its method takes a value and gives
the type that the implementation defines, and its body has this type.  The meaning is over
any types of views and any way to narrow the members, and it says what is narrowed in which
order, and what the result is.

Here the text of every declaration is shown to have a meaning.  It is the evaluation of the
tuple of guards that the family declares, if the members are narrowed as these guards are.
-/

namespace Narrowing.Declaration

/-! ### The meaning of a body -/

/-- What is done with a view where there is one, and what is done where there is none. -/
def onView {α β : Type} (view : Logged (Option α)) (accepted : α → Logged (Option β))
    (rejected : Logged (Option β)) : Logged (Option β) := do
  match ← view with
  | some it => accepted it
  | none => rejected

lemma map_onView {α β γ δ : Type} {f : α → γ} {g : β → δ} {view : Logged (Option α)}
    {accepted : α → Logged (Option β)} {rejected : Logged (Option β)}
    {accepted' : γ → Logged (Option δ)} {rejected' : Logged (Option δ)}
    (haccepted : ∀ it, Option.map g <$> accepted it = accepted' (f it))
    (hrejected : Option.map g <$> rejected = rejected') :
    Option.map g <$> onView view accepted rejected =
      onView (Option.map f <$> view) accepted' rejected' := by
  rw [onView, onView, map_bind, bind_map_left]
  refine bind_congr fun found => ?_
  cases found with
  | some it => exact haccepted it
  | none => exact hrejected

/-- What is known in a body: the name of the argument, and the numbers of the members of the
tuple. -/
structure Scope where
  argument : String
  members : List Nat

/-- The position and the number of the member that an expression narrows. -/
def Scope.narrowed? (scope : Scope) : Expr → Option (Nat × Nat)
  | .call (.field (.field (.name "self") position) "narrow") [.name argument] => do
    let index ← Key.numeral? position
    let number ← scope.members[index]?
    if argument = scope.argument then return (index, number) else none
  | _ => none

section

variable (V : Nat → Type) (narrowing : (position number : Nat) → Logged (Option (V number)))

/-- The meaning of expressions as the members of a tuple, each of which gives up where the
member of the tuple of guards does not accept. -/
def Scope.membersMeaning (scope : Scope) :
    List Expr → (numbers : List Nat) → Option (Logged (Option (Views V numbers)))
  | [], [] => some (return some ())
  | .attempt of :: members, number :: numbers => do
    let (position, found) ← scope.narrowed? of
    let rest ← membersMeaning scope members numbers
    if found = number then
      return onView (narrowing position number)
        (fun it => Option.map (fun others => (it, others)) <$> rest) (return none)
    else none
  | _, _ => none

/-- The meaning of the last expression of a body. -/
def Scope.lastMeaning (scope : Scope) :
    (target : Target) → Expr → Option (Logged (Option (target.Denote V)))
  | target, .call (.field of "map") [.closure binder image] => do
    let (position, number) ← scope.narrowed? of
    let f ← image.denote V binder number target
    return Option.map f <$> narrowing position number
  | .tuple numbers, .call (.name "Some") [.tuple members] =>
    scope.membersMeaning V narrowing members numbers
  | _, _ => none

/-- The meaning of a body from an attempt on. -/
def Scope.blockMeaning (scope : Scope) (target : Target) (last : Expr) :
    List Attempt → Option (Logged (Option (target.Denote V)))
  | [] => scope.lastMeaning V narrowing target last
  | ⟨binder, scrutinee, .call (.name "Some") [image]⟩ :: rest => do
    let (position, number) ← scope.narrowed? scrutinee
    let f ← image.denote V binder number target
    let next ← blockMeaning scope target last rest
    return onView (narrowing position number) (fun it => return some (f it)) next
  | _ => none

end

/-! ### The meaning of an implementation -/

namespace Implementation

/-- The type that an implementation defines. -/
def target? (impl : Implementation) : Option Target :=
  impl.typeItem.definition.resolve impl.parameters impl.typeItem.lifetime

/-- The number of a member of the tuple, if it is a parameter for guards. -/
def memberNumber? (impl : Implementation) : TypeExpr → Option Nat
  | .name name => if (name, "Guard") ∈ impl.bounds then number? impl.parameters name else none
  | _ => none

/-- The numbers of the members of the tuple that is implemented for. -/
def members? (impl : Implementation) : Option (List Nat) :=
  match impl.self with
  | .tuple members => members.mapM impl.memberNumber?
  | _ => none

/-- The method takes a value and gives what the implementation defines, or nothing. -/
def hasSignature (impl : Implementation) : Bool :=
  match impl.method.argumentType, impl.method.resultType with
  | .reference a (.name "Value"),
      .apply (.name "Option") [.apply (.member (.name "Self") name) [.lifetime b]] =>
    a == impl.method.lifetime && b == impl.method.lifetime && name == impl.typeItem.name
  | _, _ => false

/-- What the method does, if the implementation is well formed and its body has the type. -/
def meaning (impl : Implementation) (V : Nat → Type)
    (narrowing : (position number : Nat) → Logged (Option (V number))) (target : Target) :
    Option (Logged (Option (target.Denote V))) := do
  let members ← impl.members?
  if impl.parameters.Nodup ∧ impl.hasSignature then
    Scope.blockMeaning V narrowing ⟨impl.method.argument, members⟩ target impl.method.body.last
      impl.method.body.attempts
  else none

end Implementation

/-! ### Declared bodies -/

section

variable {V : Nat → Type} {narrowing : (position number : Nat) → Logged (Option (V number))}
  {arity : Nat}

/-- What is known in the body of a declaration. -/
def declaredScope (arity : Nat) : Scope := ⟨"value", List.range' 1 arity⟩

lemma narrowed?_narrowExpr {position : Nat} (h : position < arity) :
    (declaredScope arity).narrowed? (narrowExpr position) = some (position, 1 + position) := by
  have hmember : (List.range' 1 arity)[position]? = some (1 + position) := by
    rw [List.getElem?_range' h, Nat.one_mul]
  simp only [narrowExpr, Scope.narrowed?, Key.numeral?_toString, declaredScope, Option.pure_def,
    Option.bind_eq_bind, Option.bind_some, hmember, if_true]

/-- The members are narrowed as guards are, where their views are these. -/
def NarrowsAs (narrowing : (position number : Nat) → Logged (Option (V number)))
    (toView : (number : Nat) → V number → View) (p : Predicates) (members : List Guard)
    (v : Value Guard) : Prop :=
  ∀ position < members.length,
    Option.map (toView (1 + position)) <$> narrowing position (1 + position) =
      narrowAt p members v position

lemma lastMeaning_map (scope : Scope) (target : Target) (of image : Expr) (binder : String) :
    scope.lastMeaning V narrowing target (.call (.field of "map") [.closure binder image]) = (do
      let (position, number) ← scope.narrowed? of
      let f ← image.denote V binder number target
      return Option.map f <$> narrowing position number) := by
  cases target <;> rfl

/-- A meaning of a body for a type runs as an evaluation of guards, if the members are
narrowed as these are. -/
def RunsAs (narrowing : (position number : Nat) → Logged (Option (V number))) (arity : Nat)
    {target : Target} (meaning : Logged (Option (target.Denote V)))
    (run : Predicates → List Guard → Value Guard → Logged (Option View)) : Prop :=
  ∀ toView p members v, members.length = arity → NarrowsAs narrowing toView p members v →
    Option.map (target.toView toView) <$> meaning = run p members v

variable (V narrowing)

lemma exists_lastMeaning_union {position : Nat} (h : position < arity) :
    ∃ meaning, (declaredScope arity).lastMeaning V narrowing (Target.ofFamily arity .or)
        (.call (.field (narrowExpr position) "map")
          [.closure "it" (Injection.atPosition position arity).expr]) = some meaning ∧
      RunsAs narrowing arity meaning fun p members v =>
        runAttempts p members v (position, Injection.atPosition position arity) [] := by
  obtain ⟨f, hf, -, hview⟩ := denote_ofFamily V h
  refine ⟨Option.map f <$> narrowing position (1 + position), ?_, ?_⟩
  · rw [lastMeaning_map, narrowed?_narrowExpr h]
    show (Expr.denote V "it" (1 + position) _ _).bind _ = _
    rw [hf]
    rfl
  · intro toView p members v hlength hnarrows
    show _ = Option.map _ <$> narrowAt p members v position
    rw [← hnarrows position (by omega), Functor.map_map, Functor.map_map]
    refine congrArg (· <$> _) (funext fun view => ?_)
    rw [Option.map_map, Option.map_map]
    exact congrArg (Option.map · view) (funext fun it => hview toView it)

lemma runAttempts_cons (p : Predicates) (members : List Guard) (v : Value Guard)
    (last attempt : Nat × Injection) (rest : List (Nat × Injection)) :
    runAttempts p members v last (attempt :: rest) =
      onView (narrowAt p members v attempt.1) (fun it => return some (attempt.2.apply it))
        (runAttempts p members v last rest) := by
  rw [runAttempts, onView]
  refine bind_congr fun view => ?_
  cases view <;> rfl

/-- The attempts of a union have a meaning before any expression that has one, and run as the
attempts that they are written for. -/
lemma exists_blockMeaning_union {positions : List Nat} (h : ∀ i ∈ positions, i < arity)
    (lastPosition : Nat) (hlast : lastPosition < arity) :
    ∃ meaning, (declaredScope arity).blockMeaning V narrowing (Target.ofFamily arity .or)
        (.call (.field (narrowExpr lastPosition) "map")
          [.closure "it" (Injection.atPosition lastPosition arity).expr])
        ((positions.map fun i => (i, Injection.atPosition i arity)).map attemptItem) =
          some meaning ∧
      RunsAs narrowing arity meaning fun p members v =>
        runAttempts p members v (lastPosition, Injection.atPosition lastPosition arity)
          (positions.map fun i => (i, Injection.atPosition i arity)) := by
  induction positions with
  | nil => exact exists_lastMeaning_union V narrowing hlast
  | cons position positions ih =>
    obtain ⟨hposition, hpositions⟩ := List.forall_mem_cons.1 h
    obtain ⟨next, hnext, hruns⟩ := ih hpositions
    obtain ⟨f, hf, -, hview⟩ := denote_ofFamily V hposition
    refine ⟨onView (narrowing position (1 + position)) (fun it => return some (f it)) next,
      ?_, ?_⟩
    · rw [List.map_cons, List.map_cons, attemptItem, Scope.blockMeaning,
        narrowed?_narrowExpr hposition]
      show (Expr.denote V "it" (1 + position) _ _).bind _ = _
      rw [hf]
      show (Scope.blockMeaning V narrowing _ _ _ _).bind _ = _
      rw [hnext]
      rfl
    · intro toView p members v hlength hnarrows
      show _ = runAttempts p members v _ (_ :: _)
      rw [runAttempts_cons, ← hnarrows position (by omega)]
      refine map_onView (fun it => ?_) (hruns toView p members v hlength hnarrows)
      exact congrArg (fun view => pure (some view)) (hview toView it)

lemma collect_cons {α β : Type} (view : α → Logged (Option β)) (a : α) (rest : List α) :
    Logged.collect view (a :: rest) =
      onView (view a)
        (fun it => Option.map (fun others => it :: others) <$> Logged.collect view rest)
        (return none) := by
  rw [Logged.collect, onView]
  refine bind_congr fun found => ?_
  cases found with
  | none => rfl
  | some it => exact bind_pure_comp _ _

lemma membersMeaning_cons {scope : Scope} {of : Expr} {members : List Expr} {position number : Nat}
    {numbers : List Nat} {rest : Logged (Option (Views V numbers))}
    (hof : scope.narrowed? of = some (position, number))
    (hrest : scope.membersMeaning V narrowing members numbers = some rest) :
    scope.membersMeaning V narrowing (.attempt of :: members) (number :: numbers) =
      some (onView (narrowing position number)
        (fun it => Option.map (fun others => (it, others)) <$> rest) (return none)) := by
  show (scope.narrowed? of).bind _ = _
  rw [hof]
  show (scope.membersMeaning V narrowing members numbers).bind _ = _
  rw [hrest]
  exact if_pos rfl

lemma exists_membersMeaning {positions : List Nat} (h : ∀ i ∈ positions, i < arity) :
    ∃ meaning, (declaredScope arity).membersMeaning V narrowing
        (positions.map fun i => .attempt (narrowExpr i)) (positions.map (1 + ·)) = some meaning ∧
      ∀ toView p members v, members.length = arity → NarrowsAs narrowing toView p members v →
        Option.map (Views.toList toView _) <$> meaning =
          Logged.collect (narrowAt p members v) positions := by
  induction positions with
  | nil => exact ⟨return some (), rfl, fun _ _ _ _ _ _ => rfl⟩
  | cons position positions ih =>
    obtain ⟨hposition, hpositions⟩ := List.forall_mem_cons.1 h
    obtain ⟨rest, hrest, hruns⟩ := ih hpositions
    refine ⟨onView (narrowing position (1 + position))
      (fun it => Option.map (fun others => (it, others)) <$> rest) (return none), ?_, ?_⟩
    · exact membersMeaning_cons V narrowing (narrowed?_narrowExpr hposition) hrest
    · intro toView p members v hlength hnarrows
      rw [collect_cons, ← hnarrows position (by omega)]
      refine map_onView (fun it => ?_) rfl
      rw [← hruns toView p members v hlength hnarrows, Functor.map_map, Functor.map_map]
      refine congrArg (· <$> rest) (funext fun others => ?_)
      cases others <;> rfl

lemma exists_lastMeaning_tuple {numbers : List Nat}
    (hnumbers : numbers = (List.range arity).map (1 + ·)) :
    ∃ meaning, (declaredScope arity).lastMeaning V narrowing (.tuple numbers)
        (Body.ofFamily arity .and).block.last = some meaning ∧
      RunsAs narrowing arity meaning fun p members v =>
        Option.map View.tuple <$> Logged.collect (narrowAt p members v) (List.range arity) := by
  subst hnumbers
  obtain ⟨meaning, hmeaning, hruns⟩ := exists_membersMeaning V narrowing
    fun i => (List.mem_range (n := arity)).1
  refine ⟨meaning, hmeaning, fun toView p members v hlength hnarrows => ?_⟩
  show _ = Option.map View.tuple <$> Logged.collect (narrowAt p members v) (List.range arity)
  rw [← hruns toView p members v hlength hnarrows, Functor.map_map]
  refine congrArg (· <$> meaning) (funext fun views => ?_)
  cases views <;> rfl

/-! ### Declared implementations -/

lemma target?_implementation (family : Family) (h : arity ≠ 0) :
    (implementation family arity).target? = some (Target.ofFamily arity family) :=
  resolve_typeExpr fun number hnumber => by rwa [numbers_ofFamily family h] at hnumber

lemma members?_implementation (family : Family) :
    (implementation family arity).members? = some (List.range' 1 arity) := by
  have hmember : ∀ number ∈ List.range' 1 arity,
      (implementation family arity).memberNumber? (.name (parameter number)) = some number := by
    intro number hnumber
    have hbound : (parameter number, "Guard") ∈ (implementation family arity).bounds :=
      List.mem_map_of_mem (List.mem_map_of_mem hnumber)
    rw [Implementation.memberNumber?, if_pos hbound]
    exact number?_parameters hnumber
  show (((List.range' 1 arity).map parameter).map TypeExpr.name).mapM _ = _
  rw [List.map_map]
  exact (mapM_map_some hmember).trans (congrArg some (List.map_id _))

lemma meaning_implementation (family : Family) (target : Target) :
    (implementation family arity).meaning V narrowing target =
      (declaredScope arity).blockMeaning V narrowing target
        (Body.ofFamily arity family).block.last (Body.ofFamily arity family).block.attempts := by
  have hsignature : (implementation family arity).hasSignature = true := by
    simp [Implementation.hasSignature, implementation, methodItem, typeItem]
  rw [Implementation.meaning, members?_implementation]
  exact if_pos ⟨nodup_parameters arity, hsignature⟩

/-- The declared implementation has a meaning, and it is the evaluation of the tuple of guards
that the family declares. -/
lemma exists_meaning (family : Family) (h : 2 ≤ arity) :
    ∃ meaning, (implementation family arity).meaning V narrowing (Target.ofFamily arity family) =
        some meaning ∧
      RunsAs narrowing arity meaning fun p members v => (family.guard members).narrow p v := by
  rw [meaning_implementation]
  have hguard : ∀ {p : Predicates} {members : List Guard} {v : Value Guard},
      members.length = arity →
        (Body.ofFamily arity family).run p members v = (family.guard members).narrow p v := by
    intro p members v hlength
    have hne : members ≠ [] := by
      rintro rfl
      simp at hlength
      omega
    rw [← hlength]
    exact run_body_ofFamily family hne
  cases family with
  | or =>
    have hpositions : ∀ i ∈ List.range (arity - 1), i < arity := by
      intro i hi
      have hlt := List.mem_range.1 hi
      omega
    obtain ⟨meaning, hmeaning, hruns⟩ := exists_blockMeaning_union V narrowing hpositions
      (arity - 1) (by omega)
    exact ⟨meaning, hmeaning, fun toView p members v hlength hnarrows =>
      (hruns toView p members v hlength hnarrows).trans (hguard hlength)⟩
  | and =>
    have hnumbers : List.range' 1 arity = (List.range arity).map (1 + ·) :=
      List.range'_eq_map_range
    obtain ⟨meaning, hmeaning, hruns⟩ := exists_lastMeaning_tuple V narrowing hnumbers
    exact ⟨meaning, hmeaning, fun toView p members v hlength hnarrows =>
      (hruns toView p members v hlength hnarrows).trans (hguard hlength)⟩

end

/-! ### Declarations are correct -/

/-- The types of the views of the members in order, as they are built. -/
def memberTypes (arity : Nat) : List TypeExpr := (List.range' 1 arity).map memberType

/-- A union of types, nested to the right. -/
def TypeExpr.union : List TypeExpr → TypeExpr
  | [] => .tuple []
  | [only] => only
  | type :: rest => .apply (.name "Either") [type, union rest]

/-- An expression that may give a view, the name of the view, and what is made of it. -/
structure Branch where
  scrutinee : Expr
  binder : String
  image : Expr

/-- The branch that an attempt is, if it returns what is made of the view. -/
def Attempt.branch? : Attempt → Option Branch
  | ⟨binder, scrutinee, .call (.name "Some") [image]⟩ => some ⟨scrutinee, binder, image⟩
  | _ => none

/-- The branch that an expression is, if it maps a view. -/
def Expr.branch? : Expr → Option Branch
  | .call (.field of "map") [.closure binder image] => some ⟨of, binder, image⟩
  | _ => none

/-- The branches of a body that gives what is made of the first view that there is. -/
def Block.branches? (body : Block) : Option (List Branch) := do
  return (← body.attempts.mapM Attempt.branch?) ++ [← body.last.branch?]

/-- The implementation is a union: its type nests the types of the views to the right, its
body tries each member once and in order, and what it returns at a position has this type and
means the injection at this position. -/
structure DeclaresUnion (arity : Nat) (impl : Implementation) (target : Target) : Prop where
  type_eq : impl.typeItem.definition = .union (memberTypes arity)
  branches : ∃ branches, impl.method.body.branches? = some branches ∧
    branches.map Branch.scrutinee = (List.range arity).map narrowExpr ∧
    ∀ V position branch, branches[position]? = some branch →
      ∃ f, Expr.denote V branch.binder (1 + position) target branch.image = some f ∧
        target.injection V position = some ⟨1 + position, f⟩
  injections_ne : ∀ V position other f g, position ≠ other →
    target.injection V position = some f → target.injection V other = some g →
      ∀ a b, f.2 a ≠ g.2 b

/-- The implementation is an intersection: its type is the tuple of the types of the views,
and its body is the tuple of the members, each narrowed in order and given up at the first
that does not accept. -/
structure DeclaresIntersection (arity : Nat) (impl : Implementation) : Prop where
  type_eq : impl.typeItem.definition = .tuple (memberTypes arity)
  body_eq : impl.method.body =
    ⟨[], .call (.name "Some")
      [.tuple ((List.range arity).map fun p => .attempt (narrowExpr p))]⟩

/-- The implementation is one of a family for tuples of an arity.  It has a parameter for each
member, which is bounded by the guards, and its type means a type over the views of its
members.  Whatever these views are, its method has a meaning at this type, and it evaluates
the guard of the family over the members. -/
structure Declares (family : Family) (arity : Nat) (impl : Implementation) (target : Target) :
    Prop where
  parameters_eq : impl.parameters = parameters arity
  traitName_eq : impl.traitName = family.traitName
  self_eq : impl.self = .tuple ((parameters arity).map .name)
  typeName_eq : impl.typeItem.name = family.targetName
  methodName_eq : impl.method.name = family.methodName
  target_eq : impl.target? = some target
  meaning : ∀ V narrowing, ∃ meaning, impl.meaning V narrowing target = some meaning ∧
    RunsAs narrowing arity meaning fun p members v => (family.guard members).narrow p v

lemma typeExpr_nested (number following : Nat) :
    (Target.nested number following).typeExpr =
      .union ((List.range' number (following + 1)).map memberType) := by
  induction following generalizing number with
  | zero => rfl
  | succ following ih =>
    rw [Target.nested, Target.typeExpr, ih, List.range'_succ, List.map_cons]
    rfl

/-- The branch at a position of a union. -/
def declaredBranch (arity position : Nat) : Branch :=
  ⟨narrowExpr position, "it", (Injection.atPosition position arity).expr⟩

lemma branches?_ofFamily {arity : Nat} (h : arity ≠ 0) :
    (Body.ofFamily arity .or).block.branches? =
      some ((List.range arity).map (declaredBranch arity)) := by
  obtain ⟨following, rfl⟩ := Nat.exists_eq_succ_of_ne_zero h
  have hattempts : (Body.ofFamily (following + 1) .or).block.attempts.mapM Attempt.branch? =
      some ((List.range following).map (declaredBranch (following + 1))) := by
    show (((List.range following).map _).map attemptItem).mapM _ = _
    rw [List.map_map]
    exact mapM_map_some fun _ _ => rfl
  show (do
    return (← (Body.ofFamily (following + 1) .or).block.attempts.mapM Attempt.branch?) ++
      [declaredBranch (following + 1) following]) = _
  rw [hattempts, List.range_succ, List.map_append]
  rfl

lemma declaresUnion_implementation {arity : Nat} (h : 2 ≤ arity) :
    DeclaresUnion arity (implementation .or arity) (Target.ofFamily arity .or) where
  type_eq := by
    have htype := typeExpr_nested 1 (arity - 1)
    rwa [Nat.sub_add_cancel (by omega), ← ofFamily_or (by omega)] at htype
  branches := by
    refine ⟨_, branches?_ofFamily (by omega), ?_, ?_⟩
    · rw [List.map_map]
      rfl
    · intro V position branch hbranch
      rw [List.getElem?_map, Option.map_eq_some_iff] at hbranch
      obtain ⟨i, hi, rfl⟩ := hbranch
      obtain ⟨hlt, rfl⟩ := List.getElem?_eq_some_iff.1 hi
      rw [List.length_range] at hlt
      obtain ⟨f, hdenote, hinjection, -⟩ := denote_ofFamily V hlt
      rw [List.getElem_range]
      exact ⟨f, hdenote, hinjection⟩
  injections_ne := fun V position other f g hne hf hg => injection_ne hne hf hg

lemma declaresIntersection_implementation (arity : Nat) :
    DeclaresIntersection arity (implementation .and arity) := ⟨rfl, rfl⟩

lemma declares_implementation (family : Family) {arity : Nat} (h : 2 ≤ arity) :
    Declares family arity (implementation family arity) (Target.ofFamily arity family) where
  parameters_eq := rfl
  traitName_eq := rfl
  self_eq := rfl
  typeName_eq := rfl
  methodName_eq := rfl
  target_eq := target?_implementation family (by omega)
  meaning := fun _ _ => exists_meaning _ _ family h

/-- **The text of a declaration is a correct program for its family.**  For every arity from
two on the text is read as an implementation, and its body has the type that it defines and
evaluates the tuple of guards.  For a union the type nests to the right, each member is tried
once and in order, and what is returned at a position means the injection at this position,
which no injection at another position agrees with.  For an intersection the type and the body
are tuples, and the members are narrowed in order up to the first that does not accept. -/
theorem declaration_is_correct (family : Family) {arity : Nat} (h : 2 ≤ arity) :
    ∃ impl target, parse (tupleDeclaration family arity) = some impl ∧
      Declares family arity impl target ∧
      match family with
      | .or => DeclaresUnion arity impl target
      | .and => DeclaresIntersection arity impl := by
  refine ⟨implementation family arity, Target.ofFamily arity family,
    parse_tupleDeclaration family h, declares_implementation family h, ?_⟩
  cases family with
  | or => exact declaresUnion_implementation h
  | and => exact declaresIntersection_implementation arity

/-- A union of three members is a sum to the right of a sum, and a boolean, which the third
member accepts, is given two steps to the right. -/
theorem declaration_is_correct_of_three :
    let members : List Guard :=
      [.classifier .isString, .classifier .isNumber, .classifier .isBoolean]
    let narrowing := fun position (_ : Nat) =>
      narrowAt (fun _ _ => pure false) members (.boolean true) position
    ∃ impl target, parse (tupleDeclaration .or 3) = some impl ∧
      impl.target? = some target ∧
      impl.typeItem.definition = .apply (.name "Either")
        [memberType 1, .apply (.name "Either") [memberType 2, memberType 3]] ∧
      ∃ meaning, impl.meaning (fun _ => View) narrowing target = some meaning ∧
        Option.map (target.toView fun _ it => it) <$> meaning =
          ⟨some (.right (.right (.boolean true))), []⟩ := by
  intro members narrowing
  obtain ⟨impl, target, hparse, hdeclares, hunion⟩ :=
    declaration_is_correct .or (show 2 ≤ 3 by decide)
  obtain ⟨meaning, hmeaning, hruns⟩ := hdeclares.meaning (fun _ => View) narrowing
  refine ⟨impl, target, hparse, hdeclares.target_eq, hunion.type_eq, meaning, hmeaning, ?_⟩
  refine hruns (fun _ it => it) (fun _ _ => pure false) members (.boolean true) rfl ?_
  intro position _
  have hid : Option.map (fun it : View => it) = id := Option.map_id
  show Option.map (fun it : View => it) <$> _ = _
  rw [hid, id_map]

end Narrowing.Declaration
