import TreeQuery.Token.Kind
import TreeQuery.Text.Position

/- Tokens: a kind, the characters as they were written, and where they start. -/
set_option autoImplicit false

namespace TreeQuery

structure Token where
  kind : TokenKind
  text : Text
  position : Position
deriving DecidableEq

def Token.describe (token : Token) : String :=
  let written := "\"" ++ String.ofList token.text ++ "\" at " ++ token.position.text
  if token.kind = .endOfInput then "end of input at " ++ token.position.text
  else if token.kind.isClass then token.kind.name ++ " " ++ written
  else written

end TreeQuery
