import Narrowing.Text.Basic
/-!
# Neutral sums

A value of one of two types, where neither side is an error.
-/

namespace Narrowing

/-- A left or a right value. -/
inductive Either (α β : Type) where
  | left (a : α)
  | right (b : β)
deriving DecidableEq

namespace Either

variable {α β γ δ : Type}

/-- Whether this is a left value. -/
def isLeft : Either α β → Bool
  | left _ => true
  | right _ => false

/-- Whether this is a right value. -/
def isRight : Either α β → Bool
  | left _ => false
  | right _ => true

/-- The left value, if it is one. -/
def left? : Either α β → Option α
  | left a => some a
  | right _ => none

/-- The right value, if it is one. -/
def right? : Either α β → Option β
  | left _ => none
  | right b => some b

/-- Applies a function to each side. -/
def map (f : α → γ) (g : β → δ) : Either α β → Either γ δ
  | left a => left (f a)
  | right b => right (g b)

/-- Applies a function to a left value. -/
def mapLeft (f : α → γ) : Either α β → Either γ β := map f id

/-- Applies a function to a right value. -/
def mapRight (g : β → δ) : Either α β → Either α δ := map id g

/-- Exchanges the sides. -/
def swap : Either α β → Either β α
  | left a => right a
  | right b => left b

/-- The result of the function for the side. -/
def fold (f : α → γ) (g : β → γ) : Either α β → γ
  | left a => f a
  | right b => g b

/-- The value, when both sides have one type. -/
def merge : Either α α → α := fold id id

/-- The order in which every left value comes before every right one. -/
def compareWith (left : α → α → Ordering) (right : β → β → Ordering) :
    Either α β → Either α β → Ordering
  | .left a, .left b => left a b
  | .left _, .right _ => .lt
  | .right _, .left _ => .gt
  | .right a, .right b => right a b

/-- How a sum is shown, given how its sides are. -/
def describeWith (showLeft : α → String) (showRight : β → String) : Either α β → String :=
  fold (fun a => "Left(" ++ showLeft a ++ ")") fun b => "Right(" ++ showRight b ++ ")"

/-- How a sum of texts is shown. -/
def describe : Either String String → String := describeWith Text.quote Text.quote

end Either

end Narrowing
