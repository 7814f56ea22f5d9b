import Narrowing.Proofs.Declaration.Lexeme
/-!
# The syntax of declarations

The lexemes of a declaration are grouped by its brackets into trees, and the trees are read
as an implementation: its type parameters and their bounds, the type that it defines, and the
method that it defines, whose body is made of expressions.

The grouping keeps a stack of the brackets that are open.  Inside a bracket, commas end rows.
Everything after it goes along the trees.  Types and expressions are read from left to right,
where what has been read so far is what the next tree applies to.
-/

namespace Narrowing.Declaration

/-! ### Trees -/

/-- A lexeme or what a bracket encloses: rows that a comma ends, and a last row. -/
inductive Tree where
  | leaf (a : Atom)
  | group (b : Bracket) (ended : List (List Tree)) (last : List Tree)

mutual

/-- The lexemes of a tree. -/
def Tree.lexemes : Tree → List Lexeme
  | .leaf a => [.atom a]
  | .group b ended last =>
    .opening b :: (endedLexemes ended ++ (rowLexemes last ++ [.closing b]))
termination_by structural t => t

/-- The lexemes of a row of trees. -/
def rowLexemes : List Tree → List Lexeme
  | [] => []
  | t :: rest => t.lexemes ++ rowLexemes rest
termination_by structural row => row

/-- The lexemes of rows that a comma ends. -/
def endedLexemes : List (List Tree) → List Lexeme
  | [] => []
  | row :: rest => rowLexemes row ++ .comma :: endedLexemes rest
termination_by structural rows => rows

end

/-- What has been read inside a bracket: the rows that have ended, and the current row. -/
structure Level where
  ended : List (List Tree)
  row : List Tree

namespace Level

/-- Nothing has been read. -/
def empty : Level := ⟨[], []⟩

/-- The level with one more tree. -/
def add (level : Level) (t : Tree) : Level := ⟨level.ended, level.row ++ [t]⟩

/-- The level after a comma. -/
def endRow (level : Level) : Level := ⟨level.ended ++ [level.row], []⟩

end Level

/-- Groups lexemes by their brackets.  The brackets that are open are kept with what had been
read before each. -/
def grow : List (Bracket × Level) → Level → List Lexeme → Option Level
  | [], level, [] => some level
  | _ :: _, _, [] => none
  | opened, level, .atom a :: rest => grow opened (level.add (.leaf a)) rest
  | opened, level, .comma :: rest => grow opened level.endRow rest
  | opened, level, .opening b :: rest => grow ((b, level) :: opened) .empty rest
  | [], _, .closing _ :: _ => none
  | (b, before) :: opened, level, .closing c :: rest =>
    if b = c then grow opened (before.add (.group b level.ended level.row)) rest else none

@[simp] lemma grow_atom (opened : List (Bracket × Level)) (level : Level) (a : Atom)
    (rest : List Lexeme) :
    grow opened level (.atom a :: rest) = grow opened (level.add (.leaf a)) rest := by
  cases opened <;> rfl

@[simp] lemma grow_comma (opened : List (Bracket × Level)) (level : Level)
    (rest : List Lexeme) :
    grow opened level (.comma :: rest) = grow opened level.endRow rest := by
  cases opened <;> rfl

@[simp] lemma grow_opening (opened : List (Bracket × Level)) (level : Level) (b : Bracket)
    (rest : List Lexeme) :
    grow opened level (.opening b :: rest) = grow ((b, level) :: opened) .empty rest := by
  cases opened <;> rfl

@[simp] lemma grow_closing (opened : List (Bracket × Level)) (before level : Level) (b : Bracket)
    (rest : List Lexeme) :
    grow ((b, before) :: opened) level (.closing b :: rest) =
      grow opened (before.add (.group b level.ended level.row)) rest := by
  rw [grow, if_pos rfl]

mutual

/-- Grouping the lexemes of a tree gives the tree. -/
lemma grow_tree (opened : List (Bracket × Level)) (level : Level) (rest : List Lexeme) :
    (t : Tree) → grow opened level (t.lexemes ++ rest) = grow opened (level.add t) rest
  | .leaf a => grow_atom opened level a rest
  | .group b ended last => by
    have hended := grow_ended ((b, level) :: opened) [] (rowLexemes last ++ .closing b :: rest)
      ended
    have hlast := grow_row ((b, level) :: opened) ⟨ended, []⟩ (.closing b :: rest) last
    rw [List.nil_append] at hended hlast
    rw [Tree.lexemes, List.cons_append, List.append_assoc, List.append_assoc,
      List.singleton_append, grow_opening, Level.empty, hended, hlast, grow_closing]

lemma grow_row (opened : List (Bracket × Level)) (level : Level) (rest : List Lexeme) :
    (row : List Tree) → grow opened level (rowLexemes row ++ rest) =
      grow opened ⟨level.ended, level.row ++ row⟩ rest
  | [] => by rw [rowLexemes, List.nil_append, List.append_nil]
  | t :: row => by
    rw [rowLexemes, List.append_assoc, grow_tree, grow_row _ _ _ row, Level.add,
      List.append_assoc, List.singleton_append]

lemma grow_ended (opened : List (Bracket × Level)) (before : List (List Tree))
    (rest : List Lexeme) :
    (rows : List (List Tree)) → grow opened ⟨before, []⟩ (endedLexemes rows ++ rest) =
      grow opened ⟨before ++ rows, []⟩ rest
  | [] => by rw [endedLexemes, List.nil_append, List.append_nil]
  | row :: rows => by
    rw [endedLexemes, List.append_assoc, grow_row, List.cons_append, grow_comma, Level.endRow,
      grow_ended _ _ _ rows, List.append_assoc, List.nil_append, List.singleton_append]

end

/-- The rows of a text that its brackets and commas make, if its brackets match. -/
def trees (text : String) : Option Level := grow [] .empty (lexemes text)

/-- A text with the lexemes of rows has these rows. -/
lemma trees_eq {text : String} {ended : List (List Tree)} {last : List Tree}
    (h : Spells text (endedLexemes ended ++ rowLexemes last)) :
    trees text = some ⟨ended, last⟩ := by
  have hended := grow_ended [] [] (rowLexemes last) ended
  have hlast := grow_row [] ⟨ended, []⟩ [] last
  rw [List.nil_append] at hended hlast
  rw [List.append_nil] at hlast
  rw [trees, h.lexemes_eq, Level.empty, hended, hlast, grow]

/-! ### Types -/

/-- The text of a type, as it is built. -/
inductive TypeExpr where
  | name (text : String)
  | lifetime (name : String)
  /-- A type that belongs to a type. -/
  | member (of : TypeExpr) (name : String)
  | apply (of : TypeExpr) (arguments : List TypeExpr)
  | tuple (members : List TypeExpr)
  | reference (lifetime : String) (of : TypeExpr)

/-- The type in round brackets: a tuple, unless there is only one. -/
def TypeExpr.ofMembers : List TypeExpr → TypeExpr
  | [only] => only
  | members => .tuple members

mutual

/-- The types that a bracket of this kind encloses. -/
def enclosedTypes (b : Bracket) : Tree → Option (List TypeExpr)
  | .leaf _ => none
  | .group c ended last =>
    if b = c then do return (← rowTypes ended) ++ [← parseType last] else none
termination_by structural t => t

/-- The type that a row of trees is. -/
def parseType : List Tree → Option TypeExpr
  | [] => none
  | .leaf (.mark '&') :: .leaf (.lifetime name) :: of => .reference name <$> parseType of
  | .leaf (.lifetime name) :: rest => typeAfter (.lifetime name) rest
  | .leaf (.word text) :: rest => typeAfter (.name text) rest
  | first :: rest => do typeAfter (.ofMembers (← enclosedTypes .round first)) rest
termination_by structural row => row

/-- The type that continues a type. -/
def typeAfter : TypeExpr → List Tree → Option TypeExpr
  | read, [] => some read
  | read, .leaf .path :: .leaf (.word name) :: rest => typeAfter (.member read name) rest
  | read, next :: rest => do typeAfter (.apply read (← enclosedTypes .angle next)) rest
termination_by structural _ row => row

/-- The types that rows are. -/
def rowTypes : List (List Tree) → Option (List TypeExpr)
  | [] => some []
  | row :: rest => do return (← parseType row) :: (← rowTypes rest)
termination_by structural rows => rows

end

/-! ### Expressions -/

/-- The text of an expression, as it is built. -/
inductive Expr where
  | name (text : String)
  /-- A variant that belongs to a type. -/
  | member (of : Expr) (name : String)
  | field (of : Expr) (name : String)
  /-- A question mark, which gives up where there is nothing. -/
  | attempt (of : Expr)
  | call (of : Expr) (arguments : List Expr)
  | tuple (members : List Expr)
  | closure (binder : String) (body : Expr)

/-- The expression in round brackets: a tuple, unless there is only one. -/
def Expr.ofMembers : List Expr → Expr
  | [only] => only
  | members => .tuple members

mutual

/-- The expressions that a round bracket encloses. -/
def enclosedExprs : Tree → Option (List Expr)
  | .group .round ended last => do return (← rowExprs ended) ++ [← parseExpr last]
  | _ => none
termination_by structural t => t

/-- The expression that a row of trees is. -/
def parseExpr : List Tree → Option Expr
  | [] => none
  | .leaf (.mark '|') :: .leaf (.word binder) :: .leaf (.mark '|') :: body =>
    .closure binder <$> parseExpr body
  | .leaf (.word text) :: rest => exprAfter (.name text) rest
  | first :: rest => do exprAfter (.ofMembers (← enclosedExprs first)) rest
termination_by structural row => row

/-- The expression that continues an expression. -/
def exprAfter : Expr → List Tree → Option Expr
  | read, [] => some read
  | read, .leaf .path :: .leaf (.word name) :: rest => exprAfter (.member read name) rest
  | read, .leaf (.mark '.') :: .leaf (.word name) :: rest => exprAfter (.field read name) rest
  | read, .leaf (.mark '?') :: rest => exprAfter (.attempt read) rest
  | read, next :: rest => do exprAfter (.call read (← enclosedExprs next)) rest
termination_by structural _ row => row

/-- The expressions that rows are. -/
def rowExprs : List (List Tree) → Option (List Expr)
  | [] => some []
  | row :: rest => do return (← parseExpr row) :: (← rowExprs rest)
termination_by structural rows => rows

end

/-! ### Blocks -/

/-- A statement that returns an answer if an expression holds something, which is named. -/
structure Attempt where
  binder : String
  scrutinee : Expr
  answer : Expr

/-- Attempts and the expression after them. -/
structure Block where
  attempts : List Attempt
  last : Expr

/-- Cuts a row after each brace: what is before it and what is in it, and what is left. -/
def cutAtBraces : List Tree → List Tree → List (List Tree × List Tree) × List Tree
  | before, [] => ([], before)
  | before, .group .brace [] inside :: rest =>
    let (cuts, left) := cutAtBraces [] rest
    ((before, inside) :: cuts, left)
  | before, t :: rest => cutAtBraces (before ++ [t]) rest

/-- Whether the tree is a semicolon. -/
def endsStatement : Tree → Bool
  | .leaf (.mark ';') => true
  | _ => false

/-- The expression that is returned. -/
def parseReturn : List Tree → Option Expr
  | .leaf (.word "return") :: rest =>
    match rest.span (!endsStatement ·) with
    | (answer, [_]) => parseExpr answer
    | _ => none
  | _ => none

/-- The attempt that a row is up to a brace, with what is in the brace. -/
def parseAttempt : List Tree × List Tree → Option Attempt
  | (.leaf (.word "if") :: .leaf (.word "let") :: .leaf (.word "Some") ::
      .group .round [] [.leaf (.word binder)] :: .leaf (.mark '=') :: scrutinee, inside) => do
    return ⟨binder, ← parseExpr scrutinee, ← parseReturn inside⟩
  | _ => none

/-- The block that a row is. -/
def parseBlock (row : List Tree) : Option Block := do
  let (cuts, left) := cutAtBraces [] row
  return ⟨← cuts.mapM parseAttempt, ← parseExpr left⟩

/-! ### Implementations -/

/-- A type that an implementation defines, for every lifetime of this name. -/
structure TypeItem where
  name : String
  lifetime : String
  definition : TypeExpr

/-- A method of an implementation, which takes itself and one argument. -/
structure Method where
  name : String
  lifetime : String
  argument : String
  argumentType : TypeExpr
  resultType : TypeExpr
  body : Block

/-- An implementation of a trait for a type. -/
structure Implementation where
  parameters : List String
  traitName : String
  self : TypeExpr
  bounds : List (String × String)
  typeItem : TypeItem
  method : Method

/-- The method that a row is. -/
def parseMethod : List Tree → Option Method
  | .leaf (.mark '#') :: .group .square [] [.leaf (.word "inline")] :: .leaf (.word "fn") ::
      .leaf (.word name) :: .group .angle [] [.leaf (.lifetime lifetime)] ::
      .group .round [[.leaf (.mark '&'), .leaf (.word "self")]]
        (.leaf (.word argument) :: .leaf (.mark ':') :: argumentType) ::
      .leaf .arrow :: rest =>
    match cutAtBraces [] rest with
    | ([(resultType, body)], []) => do
      return ⟨name, lifetime, argument, ← parseType argumentType, ← parseType resultType,
        ← parseBlock body⟩
    | _ => none
  | _ => none

/-- The type and the method that a row is. -/
def parseItems : List Tree → Option (TypeItem × Method)
  | .leaf (.word "type") :: .leaf (.word name) ::
      .group .angle [] [.leaf (.lifetime lifetime)] :: .leaf (.mark '=') :: rest =>
    match rest.span (!endsStatement ·) with
    | (definition, _ :: method) => do
      return (⟨name, lifetime, ← parseType definition⟩, ← parseMethod method)
    | _ => none
  | _ => none

/-- The parameter that a row is. -/
def parseParameter : List Tree → Option String
  | [.leaf (.word name)] => some name
  | _ => none

/-- The bound of a parameter that a row is. -/
def parseBound : List Tree → Option (String × String)
  | [.leaf (.word name), .leaf (.mark ':'), .leaf (.word bound)] => some (name, bound)
  | _ => none

/-- The implementation that the rows of a text are.  A comma ends each bound. -/
def parseRows : Level → Option Implementation
  | ⟨(.leaf (.word "impl") :: .group .angle ended last :: .leaf (.word traitName) ::
        .leaf (.word "for") :: self :: .leaf (.word "where") :: bound) :: bounds,
      [.group .brace [] items]⟩ => do
    let (typeItem, method) ← parseItems items
    return {
      parameters := ← (ended ++ [last]).mapM parseParameter
      traitName
      self := ← parseType [self]
      bounds := ← (bound :: bounds).mapM parseBound
      typeItem
      method }
  | _ => none

/-- The implementation that a text is. -/
def parse (text : String) : Option Implementation := trees text >>= parseRows

end Narrowing.Declaration
