import Narrowing.Declaration.Basic
/-!
# The text of declarations

Declarations are written as the text of a program: for each family one implementation for
every arity from two up to a greatest one, and then a general implementation over a list of
guards.
-/

namespace Narrowing.Declaration

/-- Parts with a comma and a space between them. -/
def commaSeparated (parts : List String) : String := String.intercalate ", " parts

/-- Lines of text, each ended. -/
def unlines (lines : List String) : String := String.join (lines.map (· ++ "\n"))

namespace Family

/-- The name of the trait that the family implements. -/
def traitName : Family → String
  | or => "AnyOf"
  | and => "AllOf"

/-- The name of the type of its results. -/
def targetName : Family → String
  | or => "Union"
  | and => "Intersection"

/-- The name of its method. -/
def methodName : Family → String
  | or => "narrow_any"
  | and => "narrow_all"

/-- The name of the family. -/
def name : Family → String
  | or => "Or"
  | and => "And"

end Family

/-- The type parameter of a member. -/
def parameter (number : Nat) : String := "T" ++ toString number

/-- The type of the view of a member. -/
def memberTarget (number : Nat) : String := parameter number ++ "::Target<'a>"

/-- The text of a type. -/
def Target.text : Target → String
  | member number => memberTarget number
  | either left right => "Either<" ++ left.text ++ ", " ++ right.text ++ ">"
  | tuple numbers => "(" ++ commaSeparated (numbers.map memberTarget) ++ ")"

/-- The text of an injection. -/
def Injection.text : Injection → String
  | view => "it"
  | left of => "Either::Left(" ++ of.text ++ ")"
  | right of => "Either::Right(" ++ of.text ++ ")"

/-- The call that narrows the member at a position. -/
def narrowCall (position : Nat) : String := "self." ++ toString position ++ ".narrow(value)"

/-- The lines that try a member and return if it accepts. -/
def attemptLines (attempt : Nat × Injection) : List String := [
  "        if let Some(it) = " ++ narrowCall attempt.1 ++ " \x7b",
  "            return Some(" ++ attempt.2.text ++ ");",
  "        \x7d"]

/-- The lines of a body. -/
def Body.lines : Body → List String
  | firstOf attempts last =>
    attempts.flatMap attemptLines ++
      ["        " ++ narrowCall last.1 ++ ".map(|it| " ++ last.2.text ++ ")"]
  | allOf positions =>
    ["        Some((" ++ commaSeparated (positions.map fun i => narrowCall i ++ "?") ++ "))"]

/-- The type parameters of an arity. -/
def parameters (arity : Nat) : List String := (List.range' 1 arity).map parameter

/-- The head of the method of a family. -/
def methodLine (family : Family) : String :=
  "    fn " ++ family.methodName ++ "<'a>(&self, value: &'a Value) -> Option<Self::" ++
    family.targetName ++ "<'a>> \x7b"

/-- The declaration of a family for tuples of an arity of at least two. -/
def tupleDeclaration (family : Family) (arity : Nat) : String :=
  let list := commaSeparated (parameters arity)
  unlines (
    ["impl<" ++ list ++ "> " ++ family.traitName ++ " for (" ++ list ++ ")", "where"] ++
    (parameters arity).map (fun p => "    " ++ p ++ ": Guard,") ++
    ["\x7b",
      "    type " ++ family.targetName ++ "<'a> = " ++ (Target.ofFamily arity family).text ++ ";",
      "",
      "    #[inline]",
      methodLine family] ++
    (Body.ofFamily arity family).lines ++
    ["    \x7d", "\x7d"])

/-- The declaration of a family for a list of guards of one type. -/
def generalDeclaration (family : Family) : String :=
  match family with
  | .or => unlines [
      "impl<G: Guard> AnyOf for Vec<G> \x7b",
      "    type Union<'a> = G::Target<'a>;",
      "",
      methodLine family,
      "        for guard in self \x7b",
      "            if let Some(it) = guard.narrow(value) \x7b",
      "                return Some(it);",
      "            \x7d",
      "        \x7d",
      "        None",
      "    \x7d",
      "\x7d"]
  | .and => unlines [
      "impl<G: Guard> AllOf for Vec<G> \x7b",
      "    type Intersection<'a> = Vec<G::Target<'a>>;",
      "",
      methodLine family,
      "        let mut all = Vec::with_capacity(self.len());",
      "        for guard in self \x7b",
      "            all.push(guard.narrow(value)?);",
      "        \x7d",
      "        Some(all)",
      "    \x7d",
      "\x7d"]

/-- The declarations of a family: those for tuples in ascending arity, and the general one. -/
def declarations (family : Family) (greatest : Nat) : List String :=
  (arities greatest).map (tupleDeclaration family) ++ [generalDeclaration family]

/-- The first line of a file of declarations. -/
def headLine (greatest : Nat) : String :=
  "// @generated by gen-arity (max arity " ++ toString greatest ++ "). Do not edit by hand.\n"

/-- A file with the declarations of both families. -/
def render (greatest : Nat) : String :=
  headLine greatest ++
    String.join ((Family.all.flatMap fun family => declarations family greatest).map ("\n" ++ ·))

end Narrowing.Declaration
