/- The kinds of tokens a pattern is written with. Their order of declaration is
   the order in which a message lists them. -/
set_option autoImplicit false

namespace TreeQuery

inductive TokenKind where
  | identifier
  | number
  | blank
  | regex
  -- A relation operator that stands alone or before a child index.
  | operator
  -- A relation operator that takes an argument in parentheses.
  | chainOperator
  | semicolon
  | leftParen
  | rightParen
  | bang
  | atSign
  | hash
  | equals
  | tilde
  | pipe
  | ampersand
  | question
  | leftBracket
  | rightBracket
  | endOfInput
deriving DecidableEq

namespace TokenKind

def all : List TokenKind :=
  [identifier, number, blank, regex, operator, chainOperator, semicolon, leftParen, rightParen,
   bang, atSign, hash, equals, tilde, pipe, ampersand, question, leftBracket, rightBracket,
   endOfInput]

def name : TokenKind → String
  | identifier => "IDENTIFIER"
  | number => "NUMBER"
  | blank => "BLANK"
  | regex => "REGEX"
  | operator => "RELATION"
  | chainOperator => "REL_W_STR_ARG"
  | semicolon => "\";\""
  | leftParen => "\"(\""
  | rightParen => "\")\""
  | bang => "\"!\""
  | atSign => "\"@\""
  | hash => "\"#\""
  | equals => "\"=\""
  | tilde => "\"~\""
  | pipe => "\"|\""
  | ampersand => "\"&\""
  | question => "\"?\""
  | leftBracket => "\"[\""
  | rightBracket => "\"]\""
  | endOfInput => "<EOF>"

def isClass : TokenKind → Bool
  | identifier | number | blank | regex | operator | chainOperator => true
  | _ => false

theorem mem_all (kind : TokenKind) : kind ∈ all := by
  cases kind <;> decide

end TokenKind

end TreeQuery
