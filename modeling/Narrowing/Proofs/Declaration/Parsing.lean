import Narrowing.Proofs.Declaration.Syntax
/-!
# Reading the parts of a declaration back

What a declaration says is written as text, and the text is read as an implementation again.
For the types, the injections and the bodies of declarations this file gives the trees that
their texts make (`spells_target`, `spells_injection`, `spells_bodyLines`) and what is read
from these trees (`parseType_ofFamily`, `parseExpr_injection`, `parseBlock_body`).

A union is made from its last member outward, while it is read, and its injections are
counted, from the first member on.  The two are joined by `union_range'`.
-/

namespace Narrowing.Declaration

/-! ### Rows that commas separate -/

/-- A tree for a word. -/
def word (text : String) : Tree := .leaf (.word text)

/-- A tree for a mark. -/
def mark (c : Char) : Tree := .leaf (.mark c)

/-- A tree for a row that brackets enclose. -/
def enclosed (b : Bracket) (row : List Tree) : Tree := .group b [] row

/-- A tree for rows that brackets enclose and commas separate. -/
def separated (b : Bracket) (rows : List (List Tree)) : Tree :=
  .group b rows.dropLast (rows.getLast?.getD [])

/-- The lexemes of rows that commas separate. -/
def separatedLexemes (rows : List (List Tree)) : List Lexeme :=
  endedLexemes rows.dropLast ++ rowLexemes (rows.getLast?.getD [])

lemma lexemes_separated (b : Bracket) (rows : List (List Tree)) :
    (separated b rows).lexemes = .opening b :: (separatedLexemes rows ++ [.closing b]) := by
  rw [separated, Tree.lexemes, separatedLexemes, List.append_assoc]

lemma separatedLexemes_cons_cons (row next : List Tree) (rest : List (List Tree)) :
    separatedLexemes (row :: next :: rest) =
      rowLexemes row ++ .comma :: separatedLexemes (next :: rest) := by
  rw [separatedLexemes, List.dropLast_cons_cons, List.getLast?_cons_cons, endedLexemes,
    List.append_assoc, List.cons_append, separatedLexemes]

@[simp] lemma rowLexemes_append (row rest : List Tree) :
    rowLexemes (row ++ rest) = rowLexemes row ++ rowLexemes rest := by
  induction row with
  | nil => rfl
  | cons t row ih => rw [List.cons_append, rowLexemes, ih, rowLexemes, List.append_assoc]

lemma rowLexemes_flatMap {α : Type} (row : α → List Tree) (items : List α) :
    rowLexemes (items.flatMap row) = items.flatMap fun a => rowLexemes (row a) := by
  induction items with
  | nil => rfl
  | cons a items ih => rw [List.flatMap_cons, rowLexemes_append, ih, List.flatMap_cons]

lemma endedLexemes_map {α : Type} (row : α → List Tree) (items : List α) :
    endedLexemes (items.map row) = items.flatMap fun a => rowLexemes (row a) ++ [.comma] := by
  induction items with
  | nil => rfl
  | cons a items ih =>
    rw [List.map_cons, endedLexemes, ih, List.flatMap_cons, List.append_assoc,
      List.singleton_append]

/-- Texts joined by commas read as rows that commas separate. -/
lemma spellsWord_commaSeparated {α : Type} {text : α → String} {row : α → List Tree}
    (h : ∀ a, SpellsWord (text a) (rowLexemes (row a))) (items : List α) :
    SpellsWord (commaSeparated (items.map text)) (separatedLexemes (items.map row)) := by
  match items with
  | [] => exact fun _ _ _ => rfl
  | [a] => exact h a
  | a :: b :: rest =>
    have hcomma : Spells ", " [.comma] := fun _ => rfl
    have hrest := spellsWord_commaSeparated h (b :: rest)
    have hjoined := ((h a).append hcomma ⟨_, _, rfl, rfl⟩).append_word hrest
    rw [List.append_assoc] at hjoined
    simp only [List.map_cons] at hjoined ⊢
    rw [commaSeparated, String.intercalate_cons_cons, separatedLexemes_cons_cons]
    exact hjoined

lemma dropLast_append_getLast? {rows : List (List Tree)} (hne : rows ≠ []) :
    rows.dropLast ++ [rows.getLast?.getD []] = rows := by
  rw [List.getLast?_eq_some_getLast hne, Option.getD_some, List.dropLast_append_getLast hne]

/-- What is read from rows is read from those that a comma ends, and from the last. -/
lemma mapM_dropLast_getLast? {α : Type} {f : List Tree → Option α} {rows : List (List Tree)}
    (hne : rows ≠ []) :
    (do return (← rows.dropLast.mapM f) ++ [← f (rows.getLast?.getD [])]) = rows.mapM f := by
  conv_rhs => rw [← dropLast_append_getLast? hne, List.mapM_append]
  simp [Option.bind_assoc]

lemma mapM_map_some {α β γ : Type} {f : β → Option γ} {part : α → β} {result : α → γ}
    {items : List α} (h : ∀ a ∈ items, f (part a) = some (result a)) :
    (items.map part).mapM f = some (items.map result) := by
  induction items with
  | nil => rfl
  | cons a items ih =>
    obtain ⟨ha, hitems⟩ := List.forall_mem_cons.1 h
    simp [ha, ih hitems]

/-! ### Types -/

/-- The trees of the type of the view of a member. -/
def memberTrees (number : Nat) : List Tree :=
  [word (parameter number), .leaf .path, word "Target", enclosed .angle [.leaf (.lifetime "a")]]

/-- The trees of a type. -/
def Target.trees : Target → List Tree
  | member number => memberTrees number
  | either left right => [word "Either", .group .angle [left.trees] right.trees]
  | tuple numbers => [separated .round (numbers.map memberTrees)]

lemma spells_memberTarget (number : Nat) :
    Spells (memberTarget number) (rowLexemes (memberTrees number)) :=
  (spellsWord_parameter number).append
    (spells_of_scan (fun _ => rfl) (fun _ => rfl)) ⟨_, _, rfl, rfl⟩

/-- The text of a type reads as its trees. -/
lemma spells_target (target : Target) : Spells target.text (rowLexemes target.trees) := by
  induction target with
  | member number => exact spells_memberTarget number
  | either left right ihleft ihright =>
    have hopen : Spells "Either<" [.atom (.word "Either"), .opening .angle] :=
      spells_of_scan (fun _ => rfl) (fun _ => rfl)
    have hcomma : Spells ", " [.comma] := fun _ => rfl
    have hclose : Spells ">" [.closing .angle] := spells_of_scan (fun _ => rfl) (fun _ => rfl)
    have htext := (((hopen.append ihleft).append hcomma).append ihright).append hclose
    simpa [Target.text, Target.trees, word, rowLexemes, Tree.lexemes, endedLexemes] using htext
  | tuple numbers =>
    have hopen : Spells "(" [.opening .round] := spells_of_scan (fun _ => rfl) (fun _ => rfl)
    have hclose : Spells ")" [.closing .round] := spells_of_scan (fun _ => rfl) (fun _ => rfl)
    have hmembers := spellsWord_commaSeparated (fun n => (spells_memberTarget n).spellsWord) numbers
    have htext := (hopen.append_word hmembers).append hclose ⟨_, _, rfl, rfl⟩
    simpa [Target.text, Target.trees, rowLexemes, lexemes_separated] using htext

/-- The type of the view of a member, as it is built. -/
def memberType (number : Nat) : TypeExpr :=
  .apply (.member (.name (parameter number)) "Target") [.lifetime "a"]

/-- A type, as it is built. -/
def Target.typeExpr : Target → TypeExpr
  | member number => memberType number
  | either left right => .apply (.name "Either") [left.typeExpr, right.typeExpr]
  | tuple numbers => .tuple (numbers.map memberType)

lemma parseType_member (number : Nat) :
    parseType (memberTrees number) = some (memberType number) := rfl

/-- A member and those that follow it, nested to the right. -/
def Target.nested (number : Nat) : Nat → Target
  | 0 => member number
  | following + 1 => either (member number) (nested (number + 1) following)

/-- Nesting is a fold from the last member outward. -/
lemma foldr_eq_nested (number following : Nat) :
    (List.range' number following).foldr (fun m nested => Target.either (.member m) nested)
        (.member (number + following)) = Target.nested number following := by
  induction following generalizing number with
  | zero => rfl
  | succ following ih =>
    rw [List.range'_succ, List.foldr_cons, Target.nested, ← ih (number + 1), Nat.add_right_comm,
      Nat.add_assoc]

lemma union_range' (number following : Nat) :
    Target.union (List.range' number (following + 1)) = Target.nested number following := by
  rw [Target.union, List.range'_concat, List.reverse_append, List.reverse_singleton,
    List.singleton_append, Nat.one_mul, ← foldr_eq_nested, List.foldr_eq_foldl_reverse]

lemma ofFamily_or {arity : Nat} (h : arity ≠ 0) :
    Target.ofFamily arity .or = Target.nested 1 (arity - 1) := by
  obtain ⟨following, rfl⟩ := Nat.exists_eq_succ_of_ne_zero h
  exact union_range' 1 following

lemma parseType_nested (number following : Nat) :
    parseType (Target.nested number following).trees =
      some (Target.nested number following).typeExpr := by
  induction following generalizing number with
  | zero => exact parseType_member number
  | succ following ih =>
    simp [Target.nested, Target.trees, Target.typeExpr, word, parseType, typeAfter, enclosedTypes,
      rowTypes, ih, parseType_member]

lemma rowTypes_eq_mapM (rows : List (List Tree)) : rowTypes rows = rows.mapM parseType := by
  induction rows with
  | nil => rfl
  | cons row rows ih => rw [rowTypes, ih, List.mapM_cons]

/-- What is read from the rows in a bracket is read from each row. -/
lemma enclosedTypes_separated (b : Bracket) {rows : List (List Tree)} (hne : rows ≠ []) :
    enclosedTypes b (separated b rows) = rows.mapM parseType := by
  rw [separated, enclosedTypes, if_pos rfl, rowTypes_eq_mapM, mapM_dropLast_getLast? hne]

lemma parseType_separated {α : Type} {row : α → List Tree} {type : α → TypeExpr}
    (h : ∀ a, parseType (row a) = some (type a)) {items : List α} (hlength : 2 ≤ items.length) :
    parseType [separated .round (items.map row)] = some (.tuple (items.map type)) := by
  match items, hlength with
  | a :: b :: rest, _ =>
    have hrows : (a :: b :: rest).map row ≠ [] := List.cons_ne_nil _ _
    show (do typeAfter (.ofMembers (← enclosedTypes .round (separated .round _))) []) = _
    rw [enclosedTypes_separated .round hrows, mapM_map_some fun a _ => h a]
    rfl

lemma parseType_ofFamily (family : Family) {arity : Nat} (h : 2 ≤ arity) :
    parseType (Target.ofFamily arity family).trees =
      some (Target.ofFamily arity family).typeExpr := by
  cases family with
  | or =>
    rw [ofFamily_or (by omega)]
    exact parseType_nested 1 (arity - 1)
  | and => exact parseType_separated parseType_member (by simpa using h)

/-! ### Expressions -/

/-- The trees of an injection. -/
def Injection.trees : Injection → List Tree
  | view => [word "it"]
  | left of => [word "Either", .leaf .path, word "Left", enclosed .round of.trees]
  | right of => [word "Either", .leaf .path, word "Right", enclosed .round of.trees]

/-- An injection, as it is built. -/
def Injection.expr : Injection → Expr
  | view => .name "it"
  | left of => .call (.member (.name "Either") "Left") [of.expr]
  | right of => .call (.member (.name "Either") "Right") [of.expr]

lemma spells_injection (e : Injection) : SpellsWord e.text (rowLexemes e.trees) := by
  have hclose : Spells ")" [.closing .round] := spells_of_scan (fun _ => rfl) (fun _ => rfl)
  induction e with
  | view => exact spellsWord_of_inWord (by decide) rfl
  | left of ih =>
    have hopen : Spells "Either::Left("
        [.atom (.word "Either"), .atom .path, .atom (.word "Left"), .opening .round] :=
      spells_of_scan (fun _ => rfl) (fun _ => rfl)
    have htext := (hopen.append_word ih).append hclose ⟨_, _, rfl, rfl⟩
    refine Spells.spellsWord ?_
    simpa [Injection.text, Injection.trees, word, enclosed, rowLexemes, Tree.lexemes,
      endedLexemes] using htext
  | right of ih =>
    have hopen : Spells "Either::Right("
        [.atom (.word "Either"), .atom .path, .atom (.word "Right"), .opening .round] :=
      spells_of_scan (fun _ => rfl) (fun _ => rfl)
    have htext := (hopen.append_word ih).append hclose ⟨_, _, rfl, rfl⟩
    refine Spells.spellsWord ?_
    simpa [Injection.text, Injection.trees, word, enclosed, rowLexemes, Tree.lexemes,
      endedLexemes] using htext

lemma rowExprs_eq_mapM (rows : List (List Tree)) : rowExprs rows = rows.mapM parseExpr := by
  induction rows with
  | nil => rfl
  | cons row rows ih => rw [rowExprs, ih, List.mapM_cons]

lemma enclosedExprs_separated {rows : List (List Tree)} (hne : rows ≠ []) :
    enclosedExprs (separated .round rows) = rows.mapM parseExpr := by
  rw [separated, enclosedExprs, rowExprs_eq_mapM, mapM_dropLast_getLast? hne]

/-- An expression before a bracket is called with what is in the bracket. -/
lemma exprAfter_call {row : List Tree} {argument : Expr} (h : parseExpr row = some argument)
    (called : Expr) (rest : List Tree) :
    exprAfter called (enclosed .round row :: rest) = exprAfter (.call called [argument]) rest := by
  have harguments : enclosedExprs (enclosed .round row) = some [argument] := by
    simp [enclosed, enclosedExprs, rowExprs, h]
  show (do exprAfter (.call called (← enclosedExprs (enclosed .round row))) rest) = _
  rw [harguments]
  rfl

lemma parseExpr_injection (e : Injection) : parseExpr e.trees = some e.expr := by
  induction e with
  | view => rfl
  | left of ih | right of ih => exact exprAfter_call ih _ []

/-- The trees of the call that narrows the member at a position. -/
def narrowTrees (position : Nat) : List Tree :=
  [word "self", mark '.', word (toString position), mark '.', word "narrow",
    enclosed .round [word "value"]]

/-- The call that narrows the member at a position, as it is built. -/
def narrowExpr (position : Nat) : Expr :=
  .call (.field (.field (.name "self") (toString position)) "narrow") [.name "value"]

lemma spells_narrowCall (position : Nat) :
    Spells (narrowCall position) (rowLexemes (narrowTrees position)) := by
  have hself : Spells "self." [.atom (.word "self"), .atom (.mark '.')] :=
    spells_of_scan (fun _ => rfl) (fun _ => rfl)
  exact (hself.append_word (spellsWord_toString position)).append
    (spells_of_scan (fun _ => rfl) (fun _ => rfl)) ⟨_, _, rfl, rfl⟩

lemma parseExpr_narrow (position : Nat) (rest : List Tree) :
    parseExpr (narrowTrees position ++ rest) = exprAfter (narrowExpr position) rest := rfl

/-- The trees of the call that gives up where the member at a position does not accept. -/
def attemptedTrees (position : Nat) : List Tree := narrowTrees position ++ [mark '?']

lemma spells_attempted (position : Nat) :
    SpellsWord (narrowCall position ++ "?") (rowLexemes (attemptedTrees position)) := by
  have hmark : Spells "?" [.atom (.mark '?')] := spells_of_scan (fun _ => rfl) (fun _ => rfl)
  have htext := (spells_narrowCall position).append hmark
  refine Spells.spellsWord ?_
  simpa [attemptedTrees, mark, rowLexemes, Tree.lexemes] using htext

lemma parseExpr_attempted (position : Nat) :
    parseExpr (attemptedTrees position) = some (.attempt (narrowExpr position)) := rfl

/-! ### Bodies -/

/-- The trees of an attempt before its brace. -/
def attemptHead (attempt : Nat × Injection) : List Tree :=
  [word "if", word "let", word "Some", enclosed .round [word "it"], mark '='] ++
    narrowTrees attempt.1

/-- The trees in the brace of an attempt. -/
def attemptInside (attempt : Nat × Injection) : List Tree :=
  [word "return", word "Some", enclosed .round attempt.2.trees, mark ';']

/-- The trees of an attempt. -/
def attemptTrees (attempt : Nat × Injection) : List Tree :=
  attemptHead attempt ++ [enclosed .brace (attemptInside attempt)]

/-- The trees of a body after its attempts. -/
def Body.lastTrees : Body → List Tree
  | firstOf _ last =>
    narrowTrees last.1 ++ [mark '.', word "map",
      enclosed .round ([mark '|', word "it", mark '|'] ++ last.2.trees)]
  | allOf positions =>
    [word "Some", enclosed .round [separated .round (positions.map attemptedTrees)]]

/-- The attempts of a body. -/
def Body.attempts : Body → List (Nat × Injection)
  | firstOf attempts _ => attempts
  | allOf _ => []

/-- The trees of a body. -/
def Body.trees (body : Body) : List Tree := body.attempts.flatMap attemptTrees ++ body.lastTrees

/-- An attempt, as it is built. -/
def attemptItem (attempt : Nat × Injection) : Attempt :=
  ⟨"it", narrowExpr attempt.1, .call (.name "Some") [attempt.2.expr]⟩

/-- A body, as it is built. -/
def Body.block : Body → Block
  | firstOf attempts last =>
    ⟨attempts.map attemptItem,
      .call (.field (narrowExpr last.1) "map") [.closure "it" last.2.expr]⟩
  | allOf positions =>
    ⟨[], .call (.name "Some") [.tuple (positions.map fun i => .attempt (narrowExpr i))]⟩

lemma spells_attemptLines (attempt : Nat × Injection) :
    SpellsLines (attemptLines attempt) (rowLexemes (attemptTrees attempt)) := by
  have hif : Spells "        if let Some(it) = "
      [.atom (.word "if"), .atom (.word "let"), .atom (.word "Some"), .opening .round,
        .atom (.word "it"), .closing .round, .atom (.mark '=')] := fun _ => rfl
  have hopen : Spells " \x7b" [.opening .brace] := spells_of_scan (fun _ => rfl) (fun _ => rfl)
  have hreturn : Spells "            return Some("
      [.atom (.word "return"), .atom (.word "Some"), .opening .round] :=
    spells_of_scan (fun _ => rfl) (fun _ => rfl)
  have hend : Spells ");" [.closing .round, .atom (.mark ';')] :=
    spells_of_scan (fun _ => rfl) (fun _ => rfl)
  have hclose : Spells "        \x7d" [.closing .brace] :=
    spells_of_scan (fun _ => rfl) (fun _ => rfl)
  have hhead := (hif.append (spells_narrowCall attempt.1)).append hopen
  have hanswer := (hreturn.append_word (spells_injection attempt.2)).append hend ⟨_, _, rfl, rfl⟩
  have hlines := SpellsLines.nil.cons hclose.spellsWord |>.cons hanswer.spellsWord
    |>.cons hhead.spellsWord
  simpa [attemptLines, attemptTrees, attemptHead, attemptInside, word, mark, enclosed, rowLexemes,
    Tree.lexemes, endedLexemes] using hlines

/-- The lines of a body read as its trees. -/
lemma spells_bodyLines (body : Body) : SpellsLines body.lines (rowLexemes body.trees) := by
  cases body with
  | firstOf attempts last =>
    have hindent : Spells "        " [] := fun _ => rfl
    have hmap : Spells ".map(|it| "
        [.atom (.mark '.'), .atom (.word "map"), .opening .round, .atom (.mark '|'),
          .atom (.word "it"), .atom (.mark '|')] := fun _ => rfl
    have hclose : Spells ")" [.closing .round] := spells_of_scan (fun _ => rfl) (fun _ => rfl)
    have hlast := (((hindent.append (spells_narrowCall last.1)).append hmap).append_word
      (spells_injection last.2)).append hclose ⟨_, _, rfl, rfl⟩
    have hlines := (SpellsLines.flatMap spells_attemptLines attempts).append
      (SpellsLines.nil.cons hlast.spellsWord)
    simpa [Body.lines, Body.trees, Body.attempts, Body.lastTrees, word, mark, enclosed, rowLexemes,
      rowLexemes_flatMap, Tree.lexemes, endedLexemes] using hlines
  | allOf positions =>
    have hopen : Spells "        Some((" [.atom (.word "Some"), .opening .round, .opening .round] :=
      spells_of_scan (fun _ => rfl) (fun _ => rfl)
    have hclose : Spells "))" [.closing .round, .closing .round] :=
      spells_of_scan (fun _ => rfl) (fun _ => rfl)
    have hmembers := spellsWord_commaSeparated spells_attempted positions
    have hlast := (hopen.append_word hmembers).append hclose ⟨_, _, rfl, rfl⟩
    have hlines := SpellsLines.nil.cons hlast.spellsWord
    simpa [Body.lines, Body.trees, Body.attempts, Body.lastTrees, word, enclosed, rowLexemes,
      Tree.lexemes, endedLexemes, lexemes_separated] using hlines

/-- Cutting a body at its braces gives its attempts and what is after them. -/
lemma cutAtBraces_body (body : Body) :
    cutAtBraces [] body.trees =
      (body.attempts.map fun attempt => (attemptHead attempt, attemptInside attempt),
        body.lastTrees) := by
  rw [Body.trees]
  induction body.attempts with
  | nil => cases body <;> rfl
  | cons attempt rest ih =>
    have hstep : ∀ row, cutAtBraces [] (attemptTrees attempt ++ row) =
        ((attemptHead attempt, attemptInside attempt) :: (cutAtBraces [] row).1,
          (cutAtBraces [] row).2) := fun _ => rfl
    rw [List.flatMap_cons, List.append_assoc, hstep, ih, List.map_cons]

lemma parseAttempt_attempt (attempt : Nat × Injection) :
    parseAttempt (attemptHead attempt, attemptInside attempt) = some (attemptItem attempt) := by
  have hscrutinee : parseExpr (narrowTrees attempt.1) = some (narrowExpr attempt.1) :=
    parseExpr_narrow attempt.1 []
  have hanswer : parseReturn (attemptInside attempt) =
      some (.call (.name "Some") [attempt.2.expr]) :=
    exprAfter_call (parseExpr_injection attempt.2) (.name "Some") []
  show (do
    return Attempt.mk "it" (← parseExpr (narrowTrees attempt.1))
      (← parseReturn (attemptInside attempt))) = _
  rw [hscrutinee, hanswer]
  rfl

/-- A body narrows two members at least, if it narrows all that it names. -/
def Body.Plural : Body → Prop
  | firstOf .. => True
  | allOf positions => 2 ≤ positions.length

lemma parseExpr_separated {α : Type} {row : α → List Tree} {expr : α → Expr}
    (h : ∀ a, parseExpr (row a) = some (expr a)) {items : List α} (hlength : 2 ≤ items.length) :
    parseExpr [separated .round (items.map row)] = some (.tuple (items.map expr)) := by
  match items, hlength with
  | a :: b :: rest, _ =>
    have hrows : (a :: b :: rest).map row ≠ [] := List.cons_ne_nil _ _
    show (do exprAfter (.ofMembers (← enclosedExprs (separated .round _))) []) = _
    rw [enclosedExprs_separated hrows, mapM_map_some fun a _ => h a]
    rfl

lemma parseExpr_last (body : Body) (h : body.Plural) :
    parseExpr body.lastTrees = some body.block.last := by
  cases body with
  | firstOf attempts last =>
    have hclosure : parseExpr ([mark '|', word "it", mark '|'] ++ last.2.trees) =
        some (.closure "it" last.2.expr) := by
      show (Expr.closure "it" <$> parseExpr last.2.trees) = _
      rw [parseExpr_injection]
      rfl
    exact exprAfter_call hclosure (.field (narrowExpr last.1) "map") []
  | allOf positions =>
    exact exprAfter_call (parseExpr_separated parseExpr_attempted h) (.name "Some") []

/-- The trees of a body are read as the body. -/
lemma parseBlock_body (body : Body) (h : body.Plural) :
    parseBlock body.trees = some body.block := by
  have hattempts : (body.attempts.map fun attempt =>
      (attemptHead attempt, attemptInside attempt)).mapM parseAttempt =
        some body.block.attempts := by
    rw [mapM_map_some fun attempt _ => parseAttempt_attempt attempt]
    cases body <;> rfl
  show (do
    return Block.mk (← (cutAtBraces [] body.trees).1.mapM parseAttempt)
      (← parseExpr (cutAtBraces [] body.trees).2)) = _
  rw [cutAtBraces_body, hattempts, parseExpr_last body h]
  rfl

end Narrowing.Declaration
