import TreeQuery.Pattern.Error

/- Productions: what the rules of the grammar are made of. A production takes
   tokens off a stream, may declare names, and gives a value or an error; after
   an error the state still tells where the stream stood. -/
set_option autoImplicit false

namespace TreeQuery.Grammar

structure State where
  stream : TokenStream
  scope : Scope
deriving DecidableEq

abbrev Production := EStateM PatternError State

namespace Production

def checkAny (kinds : List TokenKind) : Production Bool := fun state =>
  .ok (state.stream.isAny kinds) { state with stream := state.stream.ask kinds }

def acceptAny (kinds : List TokenKind) : Production (Option Token) := fun state =>
  match state.stream.acceptAny kinds with
  | (token, stream) => .ok token { state with stream }

def accept (kind : TokenKind) : Production (Option Token) := acceptAny [kind]

def accepts (kind : TokenKind) : Production Bool := return (← accept kind).isSome

def consume (kind : TokenKind) : Production Token := fun state =>
  match state.stream.consume kind with
  | (.ok token, stream) => .ok token { state with stream }
  | (.error unexpected, stream) => .error (.unexpectedToken unexpected) { state with stream }

def unexpected {α : Type} : Production α := fun state =>
  .error (.unexpectedToken state.stream.unexpected) state

def remaining : Production Nat := fun state => .ok state.stream.remaining state

def getScope : Production Scope := fun state => .ok state.scope state

def setScope (scope : Scope) : Production Unit := fun state => .ok () { state with scope }

def ofExcept {α : Type} : Except PatternError α → Production α
  | .ok value => pure value
  | .error error => throw error

def ofScope {α : Type} (position : Position) (result : Except ScopeError α) : Production α :=
  ofExcept (result.mapError (ScopeError.locate position))

def manyUpTo {α : Type} (more : Production Bool) (item : Production α) : Nat → Production (List α)
  | 0 => do
      let _ ← more
      return []
  | bound + 1 => do
      if ← more then
        let first ← item
        let others ← manyUpTo more item bound
        return first :: others
      else return []

-- Reads items for as long as there are more. Each takes a token, so the tokens
-- that are left bound their number.
def many {α : Type} (more : Production Bool) (item : Production α) : Production (List α) := do
  manyUpTo more item (← remaining)

end Production

end TreeQuery.Grammar
