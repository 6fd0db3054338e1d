import TreeQuery.Grammar.Label

/- Operators with their arguments: a child index behind a relation, or what the
   nodes of a chain have to be. -/
set_option autoImplicit false

namespace TreeQuery.Grammar

structure Operation where
  symbol : Text
  argument : Option Text
  position : Position
deriving DecidableEq

-- A relation with a child index. A minus sign at the end of the symbol belongs
-- to the index: it counts the children from the right.
def indexed (symbol number : Text) : Text × Text :=
  if symbol.getLast? = some '-' then (symbol.dropLast, '-' :: number) else (symbol, number)

namespace Production

def argumentMark (kind : TokenKind) (mark : Char) : Production Text := do
  if ← accepts kind then return [mark] else return []

def chainArgument : Production Text := do
  if ← accepts .leftParen then
    let negation ← argumentMark .bang '!'
    let category ← argumentMark .atSign '@'
    if let some label ← acceptAny labelKinds then
      let _ ← consume .rightParen
      return negation ++ category ++ label.text
    else unexpected
  else if ← checkAny [.regex, .bang] then
    let negation ← argumentMark .bang '!'
    let regex ← consume .regex
    return negation ++ regex.text
  else unexpected

def operation : Production Operation := do
  if let some operator ← accept .operator then
    match ← accept .number with
    | none => return ⟨operator.text, none, operator.position⟩
    | some number =>
        let (symbol, index) := indexed operator.text number.text
        return ⟨symbol, some index, operator.position⟩
  else if let some operator ← accept .chainOperator then
    let argument ← chainArgument
    return ⟨operator.text, some argument, operator.position⟩
  else unexpected

end Production

end TreeQuery.Grammar
