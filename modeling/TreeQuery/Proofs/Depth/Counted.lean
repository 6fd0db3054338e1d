import TreeQuery.Pattern.Basic
import TreeQuery.Proofs.Depth.Trace

/- The parser with a counter for the depth in place of levels. A relation, a parenthesis
   and a bracket each count one up when they open and one down when they close. Calls of
   productions are recorded, and there is a limit to how many may run inside one
   another. -/
set_option autoImplicit false

namespace TreeQuery.Grammar

structure Counted where
  state : State
  depth : Nat
  -- The latest one first.
  events : List Event

def Counted.tokens (counted : Counted) : List Token :=
  taken counted.events ++ counted.state.stream.upcoming

inductive Fault where
  | pattern (error : PatternError)
  | underflow
  | overflow

abbrev Counting := EStateM Fault Counted

def Event.Within (_ : Event) (before : List Event) : Prop := (opened before).length ≤ maxNesting

namespace Counting

variable {α : Type}

def readUpTo (counted : Counted) (state : State) : List Token :=
  (counted.state.stream.upcoming.take
    (counted.state.stream.remaining - state.stream.remaining)).reverse

def moveTo (counted : Counted) (state : State) : Counted :=
  { counted with
    state, events := (readUpTo counted state).map Event.reads ++ counted.events }

-- A production that calls no other, with the tokens that it reads.
def lift (production : Production α) : Counting α := fun counted =>
  match production counted.state with
  | .ok value state => .ok value (moveTo counted state)
  | .error error state => .error (.pattern error) (moveTo counted state)

def record (event : Nat → Event) : Counting Unit := fun counted =>
  .ok () { counted with events := event counted.depth :: counted.events }

def call (callee : Callee) (body : Counting α) : Counting α := do
  record (Event.starts callee)
  let value ← body
  record (Event.ends callee)
  return value

def enter (opener : Position) : Counting Unit := fun counted =>
  let depth := counted.depth + 1
  if maxNesting < depth then
    .error (.pattern (.nestingTooDeep maxNesting opener)) { counted with depth }
  else .ok () { counted with depth }

def leave : Counting Unit := fun counted =>
  match counted.depth with
  | 0 => .error .underflow counted
  | depth + 1 => .ok () { counted with depth }

def manyUpTo (more : Counting Bool) (item : Counting α) : Nat → Counting (List α)
  | 0 => do
      let _ ← more
      return []
  | bound + 1 => do
      if ← more then
        let first ← item
        let others ← manyUpTo more item bound
        return first :: others
      else return []

def many (more : Counting Bool) (item : Counting α) : Counting (List α) := do
  manyUpTo more item (← lift Production.remaining)

end Counting

-- The productions as they can be called.
structure Calls where
  pattern : Counting Described
  root : Counting Described
  node : Bool → Relation → Counting Described
  subNode : Bool → Relation → Counting Described
  description : Bool → Relation → Counting Description
  bareDescription : Bool → Relation → Counting Description
  disjunction : Bool → Counting Node
  conjunction : Bool → Counting Node
  constraint : Bool → Counting Node
  plainConstraint : Bool → Counting Node
  related : Bool → Counting Node
  chainArgument : Counting Text

namespace Counting

variable (settings : Settings) (calls : Calls) (underNegation : Bool) (relation : Relation)

def pattern : Counting Described := do
  let top ← calls.root
  let _ ← lift (Production.consume .endOfInput)
  return top

def root : Counting Described := do
  let top ← calls.subNode false Relation.root
  let _ ← lift (Production.consume .semicolon)
  return top

def node : Counting Described := do
  if let some opener ← lift (Production.accept .leftParen) then
    enter opener.position
    let inner ← calls.subNode underNegation relation
    let _ ← lift (Production.consume .rightParen)
    leave
    return inner
  else
    let label ← calls.description underNegation relation
    return ⟨label, none⟩

def subNode : Counting Described := do
  let inner ← node calls underNegation relation
  if ← lift (Production.checkAny constraintStart) then
    return inner.attach (← calls.disjunction underNegation)
  else return inner

def description : Counting Description := do
  let descriptorNegated ← lift (Production.accepts .bang)
  let categoryMatch ← lift (Production.accepts .atSign)
  let bare ← calls.bareDescription underNegation relation
  return { bare with descriptorNegated, categoryMatch }

def branch : Counting (Node × Scope) := do
  let node ← calls.conjunction underNegation
  return (node, ← lift Production.getScope)

def disjunction : Counting Node := do
  let before ← lift Production.getScope
  let first ← branch calls underNegation
  let others ← many (lift (Production.accepts .pipe)) do
    lift (Production.setScope before)
    branch calls underNegation
  let branches := first :: others
  lift (Production.setScope ((← lift Production.getScope).mergeAll (branches.map Prod.snd)))
  return Node.coordinate false (branches.map Prod.fst)

def conjunction : Counting Node := do
  let first ← calls.constraint underNegation
  let others ← many (lift (Production.checkAny conjunctStart)) do
    let _ ← lift (Production.accept .ampersand)
    calls.constraint underNegation
  return Node.coordinate true (first :: others)

def constraint : Counting Node := do
  if ← lift (Production.accepts .bang) then
    let negated ← calls.plainConstraint true
    return negated.negate
  else if ← lift (Production.accepts .question) then
    let optional ← calls.plainConstraint underNegation
    return optional.makeOptional
  else calls.plainConstraint underNegation

def plainConstraint : Counting Node := do
  if let some opener ← lift (Production.accept .leftBracket) then
    enter opener.position
    let group ← calls.disjunction underNegation
    let _ ← lift (Production.consume .rightBracket)
    leave
    return group
  else calls.related underNegation

def target (written : Operation) : Counting Node := do
  match settings.resolver.resolve written.symbol written.argument with
  | .error cause => lift (throw (.invalidRelation cause written.position))
  | .ok relation =>
      enter written.position
      let node ← calls.node underNegation relation
      leave
      return node.toNode

def related : Counting Node := do
  if let some operator ← lift (Production.accept .operator) then
    match ← lift (Production.accept .number) with
    | none => target settings calls underNegation ⟨operator.text, none, operator.position⟩
    | some number =>
        let (symbol, index) := indexed operator.text number.text
        target settings calls underNegation ⟨symbol, some index, operator.position⟩
  else if let some operator ← lift (Production.accept .chainOperator) then
    let argument ← calls.chainArgument
    target settings calls underNegation ⟨operator.text, some argument, operator.position⟩
  else lift Production.unexpected

end Counting

def Calls.refused : Calls where
  pattern := throw .overflow
  root := throw .overflow
  node _ _ := throw .overflow
  subNode _ _ := throw .overflow
  description _ _ := throw .overflow
  bareDescription _ _ := throw .overflow
  disjunction _ := throw .overflow
  conjunction _ := throw .overflow
  constraint _ := throw .overflow
  plainConstraint _ := throw .overflow
  related _ := throw .overflow
  chainArgument := throw .overflow

-- The calls that may in turn make the given ones.
def Calls.making (settings : Settings) (calls : Calls) : Calls where
  pattern := .call .pattern (.pattern calls)
  root := .call .root (.root calls)
  node underNegation relation := .call .node (.node calls underNegation relation)
  subNode underNegation relation := .call .subNode (.subNode calls underNegation relation)
  description underNegation relation :=
    .call .description (.description calls underNegation relation)
  bareDescription underNegation relation :=
    .call .bareDescription (.lift (Production.bareDescription settings underNegation relation))
  disjunction underNegation := .call .disjunction (.disjunction calls underNegation)
  conjunction underNegation := .call .conjunction (.conjunction calls underNegation)
  constraint underNegation := .call .constraint (.constraint calls underNegation)
  plainConstraint underNegation :=
    .call .plainConstraint (.plainConstraint calls underNegation)
  related underNegation := .call .related (.related settings calls underNegation)
  chainArgument := .call .chainArgument (.lift Production.chainArgument)

def Calls.upTo (settings : Settings) : Nat → Calls
  | 0 => Calls.refused
  | limit + 1 => (Calls.upTo settings limit).making settings

def runCounted (settings : Settings) (limit : Nat) (tokens : List Token) :
    EStateM.Result Fault Counted Described :=
  (Calls.upTo settings limit).pattern ⟨⟨TokenStream.ofTokens tokens, Scope.empty⟩, 0, []⟩

end TreeQuery.Grammar
