import TreeQuery.Grammar.Operator

/- The rules that nest, as productions of one level in terms of those one level
   deeper:

     Pattern     := SubNode ';'
     SubNode     := Node [Disjunction]
     Node        := '(' SubNode ')' | Description
     Disjunction := Conjunction {'|' Conjunction}
     Conjunction := Constraint {['&'] Constraint}
     Constraint  := ['!' | '?'] ('[' Disjunction ']' | Operation Node)

   A relation, a parenthesis and a bracket each lead one level down. The lowest
   level has none below it, so nesting is bounded by the number of levels. -/
set_option autoImplicit false

namespace TreeQuery.Grammar

def maxNesting : Nat := 50

def constraintStart : List TokenKind :=
  [.operator, .chainOperator, .bang, .question, .leftBracket]

def conjunctStart : List TokenKind := constraintStart ++ [.ampersand]

-- The productions of one level that other levels use. The flag tells whether a
-- negation is in force.
structure Level where
  node : Bool → Relation → Production Described
  subNode : Bool → Relation → Production Described
  disjunction : Bool → Production Node

namespace Production

def enter (deeper : Option Level) (opener : Position) : Production Level :=
  match deeper with
  | some level => pure level
  | none => throw (.nestingTooDeep maxNesting opener)

def node (settings : Settings) (deeper : Option Level) (underNegation : Bool)
    (relation : Relation) : Production Described := do
  if let some opener ← accept .leftParen then
    let level ← enter deeper opener.position
    let inner ← level.subNode underNegation relation
    let _ ← consume .rightParen
    return inner
  else
    let label ← description settings underNegation relation
    return ⟨label, none⟩

def related (settings : Settings) (deeper : Option Level) (underNegation : Bool) :
    Production Node := do
  let written ← operation
  match settings.resolver.resolve written.symbol written.argument with
  | .error cause => throw (.invalidRelation cause written.position)
  | .ok relation =>
      let level ← enter deeper written.position
      let target ← level.node underNegation relation
      return target.toNode

def plainConstraint (settings : Settings) (deeper : Option Level) (underNegation : Bool) :
    Production Node := do
  if let some opener ← accept .leftBracket then
    let level ← enter deeper opener.position
    let group ← level.disjunction underNegation
    let _ ← consume .rightBracket
    return group
  else related settings deeper underNegation

def constraint (settings : Settings) (deeper : Option Level) (underNegation : Bool) :
    Production Node := do
  if ← accepts .bang then
    let negated ← plainConstraint settings deeper true
    return negated.negate
  else if ← accepts .question then
    let optional ← plainConstraint settings deeper underNegation
    return optional.makeOptional
  else plainConstraint settings deeper underNegation

def conjunction (settings : Settings) (deeper : Option Level) (underNegation : Bool) :
    Production Node := do
  let first ← constraint settings deeper underNegation
  let others ← many (checkAny conjunctStart) do
    let _ ← accept .ampersand
    constraint settings deeper underNegation
  return Node.coordinate true (first :: others)

def branch (settings : Settings) (deeper : Option Level) (underNegation : Bool) :
    Production (Node × Scope) := do
  let node ← conjunction settings deeper underNegation
  return (node, ← getScope)

-- Every branch is read with the names known before the first one. Behind the
-- last, the names of all of them are known, for any of them may be the one that
-- holds.
def disjunction (settings : Settings) (deeper : Option Level) (underNegation : Bool) :
    Production Node := do
  let before ← getScope
  let first ← branch settings deeper underNegation
  let others ← many (accepts .pipe) do
    setScope before
    branch settings deeper underNegation
  let branches := first :: others
  setScope ((← getScope).mergeAll (branches.map Prod.snd))
  return Node.coordinate false (branches.map Prod.fst)

def subNode (settings : Settings) (deeper : Option Level) (underNegation : Bool)
    (relation : Relation) : Production Described := do
  let inner ← node settings deeper underNegation relation
  if ← checkAny constraintStart then
    return inner.attach (← disjunction settings deeper underNegation)
  else return inner

end Production

def levelAbove (settings : Settings) (deeper : Option Level) : Level where
  node := Production.node settings deeper
  subNode := Production.subNode settings deeper
  disjunction := Production.disjunction settings deeper

def level (settings : Settings) : Nat → Level
  | 0 => levelAbove settings none
  | depth + 1 => levelAbove settings (some (level settings depth))

def wholePattern (settings : Settings) : Production Described := do
  let top ← (level settings maxNesting).subNode false Relation.root
  let _ ← Production.consume .semicolon
  let _ ← Production.consume .endOfInput
  return top

end TreeQuery.Grammar
