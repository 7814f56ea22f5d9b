import Narrowing.Guard.Evaluate
import Narrowing.Guard.Describe
/-!
# Shapes

A shape is a table from keys to guards.  It is built field by field, or read from an object
whose own properties are all functions that carry guards.  Reading stops at the first own
key, in the order of own keys, that holds anything else, and every rejection is recorded.
-/

namespace Narrowing

/-- The fields of a shape, each with its guard. -/
abbrev Shape : Type := Table Guard

namespace Shape

/-- The shape with one more field.  A field that is put again keeps its place. -/
def field (shape : Shape) (key : Key) (guard : Guard) : Shape :=
  Table.put key (.erased guard) shape

/-- The shape of several fields put in order. -/
def ofFields (fields : List (Key × Guard)) : Shape :=
  fields.foldl (fun shape f => shape.field f.1 f.2) []

/-- The guard that an own property of an object carries. -/
def guardAt? (o : Object Guard) (key : Key) : Option Guard :=
  (o.getOwn? key).bind fun v => v.function?.bind Function.guard

/-- Puts the guards under the keys of an object, up to the first key without one. -/
def readFields (o : Object Guard) : List Key → Shape → Except ShapeError Shape
  | [], shape => .ok shape
  | key :: rest, shape =>
    match guardAt? o key with
    | some guard => readFields o rest (Table.put key guard shape)
    | none => .error (.notAGuard key)

/-- The shape that a value describes. -/
def ofValue? (description : Value Guard) : Except ShapeError Shape :=
  match description with
  | .object o => readFields o o.ownKeys []
  | v => .error (.notAnObject v.typeOf)

/-- The shape that a value describes; an error is recorded. -/
def ofValue (description : Value Guard) : Logged (Except ShapeError Shape) :=
  match ofValue? description with
  | .ok shape => return .ok shape
  | .error error => do
    Logged.record (.rejected error)
    return .error error

/-- How a shape is shown. -/
def describe (shape : Shape) : String := describeShape (Guard.describeFields shape)

end Shape

/-- The guard that a value describes: of the objects that are like the shape, or similar to
it. -/
def Guard.ofDescription (form : Shape → Guard) (description : Value Guard) :
    Logged (Except ShapeError Guard) :=
  Except.map form <$> Shape.ofValue description

end Narrowing
