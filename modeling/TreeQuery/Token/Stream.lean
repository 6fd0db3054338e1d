import TreeQuery.Token.Basic
import TreeQuery.Token.Expected

/- Tokens read one at a time with one token of lookahead. A stream remembers the
   kinds it was asked for since the last token was taken, so that a failure can
   tell everything that would have been accepted. -/
set_option autoImplicit false

namespace TreeQuery

structure TokenStream where
  upcoming : List Token
  last : Token
  asked : List TokenKind
deriving DecidableEq

structure Unexpected where
  found : Token
  expected : Expected
deriving DecidableEq

namespace TokenStream

-- Takes the tokens up to the first end of input. A list without one is ended
-- where its last token starts.
def ofTokens (tokens : List Token) : TokenStream where
  upcoming := tokens.takeWhile (·.kind ≠ .endOfInput)
  last := (tokens.find? (·.kind = .endOfInput)).getD
    ⟨.endOfInput, [], (tokens.getLast?.map Token.position).getD .nowhere⟩
  asked := []

def current (stream : TokenStream) : Token := stream.upcoming.headD stream.last

def ask (stream : TokenStream) (kinds : List TokenKind) : TokenStream :=
  { stream with asked := stream.asked ++ kinds }

def advance (stream : TokenStream) : TokenStream :=
  { stream with upcoming := stream.upcoming.tail, asked := [] }

def isAny (stream : TokenStream) (kinds : List TokenKind) : Bool :=
  kinds.contains stream.current.kind

def unexpected (stream : TokenStream) : Unexpected :=
  ⟨stream.current, Expected.ofList stream.asked⟩

def acceptAny (kinds : List TokenKind) (stream : TokenStream) : Option Token × TokenStream :=
  if stream.isAny kinds then (some stream.current, stream.advance)
  else (none, stream.ask kinds)

def accept (kind : TokenKind) (stream : TokenStream) : Option Token × TokenStream :=
  stream.acceptAny [kind]

def consume (kind : TokenKind) (stream : TokenStream) : Except Unexpected Token × TokenStream :=
  match stream.accept kind with
  | (some token, next) => (.ok token, next)
  | (none, next) => (.error next.unexpected, next)

def remaining (stream : TokenStream) : Nat := stream.upcoming.length

end TokenStream

end TreeQuery
