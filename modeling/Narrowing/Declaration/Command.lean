import Narrowing.Declaration.Text
import Narrowing.Text.Basic
/-!
# The command that writes declarations

The command takes a greatest arity and writes the declarations up to it, or writes a page
about itself.  It never fails: an argument that is no number up to the limit stands for the
default, and so do arguments that cannot be read.
-/

namespace Narrowing.Declaration

/-- The greatest arity when none is asked for. -/
def defaultArity : Nat := 10

/-- No greater arity is accepted. -/
def arityLimit : Nat := 64

/-- The 64-bit number that an argument is read as.  White space around it is ignored. -/
def arity? (argument : Option String) : Option (Fin UInt64.size) :=
  argument.bind fun s => Text.readWord? (Text.trimBlank s.toList)

/-- The greatest arity that an argument asks for. -/
def greatestArity (argument : Option String) : Nat :=
  match arity? argument with
  | some n => if n.val ≤ arityLimit then n.val else defaultArity
  | none => defaultArity

/-! ### Arguments

The command declares a place for the greatest arity and places for values that it ignores, and
leaves the reading of its arguments to a parser.  The parser also has a help page and a page for
the version, which are its own text.  What the command does with an answer of the parser is
`Reading.output`, whatever the pages are.  `Reading.ofArguments` follows the documented rules of
the parser: up to the first ignored value an argument may be an option. -/

/-- A page that the parser writes. -/
inductive Page where
  | help
  | version
deriving DecidableEq

/-- What the parser makes of the arguments. -/
inductive Reading where
  /-- The argument in the place for the greatest arity, if there is one. -/
  | arity (argument : Option String)
  /-- A page is asked for. -/
  | page (page : Page)
  /-- The arguments break the rules. -/
  | malformed
deriving DecidableEq

/-- What the command writes, given the texts of the pages.  Malformed arguments count as none at
all. -/
def Reading.output (pageText : Page → String) : Reading → String
  | arity argument => render (greatestArity argument)
  | page asked => pageText asked
  | malformed => render (greatestArity none)

/-- The page that a letter asks for. -/
def Page.ofLetter? : Char → Option Page
  | 'h' => some .help
  | 'V' => some .version
  | _ => none

/-- The page that an option asks for.  Letters after one hyphen are options only together, and
the first of them is acted on. -/
def Page.ofOption? (s : String) : Option Page :=
  if s = "--help" then some .help
  else if s = "--version" then some .version
  else
    match s.toList with
    | '-' :: letter :: letters =>
      if letters.all fun c => (ofLetter? c).isSome then ofLetter? letter else none
    | _ => none

/-- What an argument means where options may stand. -/
inductive Argument where
  /-- Only values follow. -/
  | endOfOptions
  /-- A page is asked for. -/
  | page (page : Page)
  /-- An option that takes no value is given one. -/
  | malformed
  /-- A value; it may begin with a hyphen. -/
  | value (s : String)
deriving DecidableEq

/-- What an argument means where options may stand. -/
def Argument.ofString (s : String) : Argument :=
  if s = "--" then .endOfOptions
  else
    match Page.ofOption? s with
    | some asked => .page asked
    | none =>
      if "--version=".toList.isPrefixOf s.toList ∨ "--help=".toList.isPrefixOf s.toList then
        .malformed
      else
        .value s

/-- What the arguments are read as. -/
def Reading.ofArguments : List String → Reading
  | [] => .arity none
  | s :: rest =>
    match Argument.ofString s, rest.head?.map Argument.ofString with
    | .endOfOptions, _ => .arity rest.head?
    | .page asked, _ => .page asked
    | .malformed, _ => .malformed
    | .value _, some (.page asked) => .page asked
    | .value _, some .malformed => .malformed
    | .value first, _ => .arity (some first)

/-- The text of a page, given the one for help. -/
def pageText (helpText : String) : Page → String
  | .help => helpText
  | .version => "gen-arity 1.0.0\n"

/-- What the command writes for its arguments.  The help page is the parser's and is not
described here. -/
def output (arguments : List String) (helpText : String := "") : String :=
  (Reading.ofArguments arguments).output (pageText helpText)

end Narrowing.Declaration
