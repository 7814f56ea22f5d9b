import Narrowing.Key
/-!
# Evaluation records

Evaluating a guard gives a result and a record of what happened on the way, in order: the
evaluations of traced guards, the shape descriptions that were rejected, and what the
caller's predicates observed.
-/

namespace Narrowing

/-- Why a value does not describe a shape. -/
inductive ShapeError where
  /-- A field does not hold a function that carries a guard. -/
  | notAGuard (key : Key)
  /-- The description is not an object but of this type. -/
  | notAnObject (typeOf : String)
deriving DecidableEq

namespace ShapeError

/-- The field at fault. -/
def key? : ShapeError → Option Key
  | notAGuard key => some key
  | notAnObject _ => none

/-- The message, given which characters are visible. -/
def messageWith (visible : Char → Bool) : ShapeError → String
  | notAGuard key => "shape field " ++ key.displayWith visible ++ " is not a guard function"
  | notAnObject typeOf => "shape must be an object, got " ++ typeOf

/-- The message. -/
def message (error : ShapeError) : String := error.messageWith Text.isVisible

end ShapeError

/-- Something that happened during an evaluation. -/
inductive Event where
  /-- A traced guard was evaluated on a value of this type. -/
  | evaluated (guard : String) (typeOf : String) (passed : Bool)
  /-- A shape description was rejected. -/
  | rejected (error : ShapeError)
  /-- A predicate looked at a value of this type. -/
  | observed (name : String) (typeOf : String) (passed : Bool)
deriving DecidableEq

/-- A result and the events that led to it. -/
@[ext] structure Logged (α : Type) where
  result : α
  events : List Event

namespace Logged

variable {α β : Type}

/-- One event. -/
def record (event : Event) : Logged Unit := ⟨(), [event]⟩

instance : Monad Logged where
  pure a := ⟨a, []⟩
  bind x f := ⟨(f x.result).result, x.events ++ (f x.result).events⟩

@[simp] theorem result_pure (a : α) : (pure a : Logged α).result = a := rfl

@[simp] theorem events_pure (a : α) : (pure a : Logged α).events = [] := rfl

@[simp] theorem result_bind (x : Logged α) (f : α → Logged β) :
    (x >>= f).result = (f x.result).result := rfl

@[simp] theorem events_bind (x : Logged α) (f : α → Logged β) :
    (x >>= f).events = x.events ++ (f x.result).events := rfl

@[simp] theorem result_map (f : α → β) (x : Logged α) : (f <$> x).result = f x.result := rfl

@[simp] theorem events_map (f : α → β) (x : Logged α) : (f <$> x).events = x.events := by
  simp [Functor.map]

instance : LawfulMonad Logged :=
  LawfulMonad.mk' Logged
    (fun x => Logged.ext (by simp) (by simp))
    (fun a f => Logged.ext (by simp) (by simp))
    (fun x f g => Logged.ext (by simp) (by simp))

/-- Whether a test holds of every item.  It is not made after the first failure. -/
def all (test : α → Logged Bool) : List α → Logged Bool
  | [] => pure true
  | a :: rest => do
    if ← test a then all test rest else return false

/-- The results for all items, if each has one.  None is sought after the first failure. -/
def collect (view : α → Logged (Option β)) : List α → Logged (Option (List β))
  | [] => return some []
  | a :: rest => do
    match ← view a with
    | some b => return (← collect view rest).map (b :: ·)
    | none => return none

end Logged

end Narrowing
