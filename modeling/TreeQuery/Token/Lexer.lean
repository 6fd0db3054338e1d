import TreeQuery.Text.Blank
import TreeQuery.Token.Basic

/- From text to tokens. The rules are tried in order at each place that is not in
   a gap, and the first rule with a lexeme there decides the token. The order is
   chosen so that the longest lexeme comes first, with one exception: a number or
   a blank before a bar stays a token of its own. -/
set_option autoImplicit false

namespace TreeQuery

def isGap (c : Char) : Bool := c = ' ' || c = '\t' || c = '\r' || c = '\n'

def reserved : Text := " \t\n\r(/|@!#%&)=?[]><~.,$:;".toList

def isNameChar (c : Char) : Bool := !reserved.contains c

def chainOperators : List Text := ["<+", ">+", ".+", ",+"].map String.toList

-- The longer ones come before their beginnings.
def operators : List Text :=
  ["<<#", ">>#", "<<,", ">>,", "<<-", ">>-", "<<:", ">>:", "$++", "$--", "$..", "$,,",
   "<<", ">>", "<#", ">#", "<,", ">,", "<-", ">-", "<:", ">:", "<=", "$+", "$-", "$.", "$,",
   "..", ",,", "==", "<", ">", "$", ".", ","].map String.toList

def marks : List (TokenKind × Char) :=
  [(.semicolon, ';'), (.leftParen, '('), (.rightParen, ')'), (.bang, '!'), (.atSign, '@'),
   (.hash, '#'), (.equals, '='), (.tilde, '~'), (.pipe, '|'), (.ampersand, '&'),
   (.question, '?'), (.leftBracket, '['), (.rightBracket, ']')]

def spelling? (spellings : List Text) (text : Text) : Option Text :=
  spellings.find? fun spelling => spelling.isPrefixOf text

-- Reads the body of a regex up to and with the slash that closes it. A slash
-- behind a backslash belongs to the body; the end of a line closes nothing.
def regexTail? : Text → Option Text
  | [] => none
  | '\\' :: '/' :: rest => (regexTail? rest).map fun tail => '\\' :: '/' :: tail
  | c :: rest =>
      if c = '/' then some ['/']
      else if c = '\n' ∨ c = '\r' then none
      else (regexTail? rest).map (c :: ·)

def regexLexeme? : Text → Option Text
  | '/' :: c :: rest => if c = '/' then none else (regexTail? (c :: rest)).map ('/' :: ·)
  | _ => none

def startsName : Text → Bool
  | [] => false
  | c :: _ => isNameChar c

def numberLexeme? (text : Text) : Option Text :=
  let digits := text.takeWhile Char.isDigit
  if digits.isEmpty || startsName (text.dropWhile Char.isDigit) then none else some digits

def blankLexeme? : Text → Option Text
  | '_' :: '_' :: rest => if startsName rest then none else some ['_', '_']
  | _ => none

def identifierTail : Text → Text
  | [] => []
  | '|' :: rest => if startsName rest then '|' :: identifierTail rest else []
  | c :: rest => if isNameChar c then c :: identifierTail rest else []

def identifierLexeme? (text : Text) : Option Text :=
  if startsName text then some (identifierTail text) else none

structure LexicalRule where
  kind : TokenKind
  lexeme? : Text → Option Text

def lexicalRules : List LexicalRule :=
  [⟨.chainOperator, spelling? chainOperators⟩, ⟨.operator, spelling? operators⟩,
   ⟨.regex, regexLexeme?⟩, ⟨.number, numberLexeme?⟩, ⟨.blank, blankLexeme?⟩,
   ⟨.identifier, identifierLexeme?⟩] ++
    marks.map fun (kind, mark) => ⟨kind, spelling? [[mark]]⟩

def lexeme? (text : Text) : Option (TokenKind × Text) :=
  lexicalRules.findSome? fun rule => (rule.lexeme? text).map (rule.kind, ·)

-- Walks over the text from `here`; `pending` counts the characters of the last
-- token that are still to be passed. Fails at the first place where no token
-- starts.
def scan : Nat → Position → Text → Except Position (List Token)
  | _, here, [] => .ok [⟨.endOfInput, [], here⟩]
  | pending + 1, here, c :: rest => scan pending (here.after c) rest
  | 0, here, c :: rest =>
      if isGap c then scan 0 (here.after c) rest
      else match lexeme? (c :: rest) with
        | none => .error here
        | some (kind, lexeme) =>
            match scan (lexeme.length - 1) (here.after c) rest with
            | .error place => .error place
            | .ok tokens => .ok (⟨kind, lexeme, here⟩ :: tokens)

structure LexicalError where
  position : Position
  line : Text
deriving DecidableEq

def quotedLine (text : Text) (line : Nat) : Text :=
  let whole := (text.pieces '\n')[line - 1]?.getD []
  Text.trim (whole.filter (· ≠ '\r'))

def LexicalError.message (error : LexicalError) : String :=
  "unrecognized input near \"" ++ String.ofList error.line ++ "\""

/-- The tokens of a text. The last one, and no other, is the end of the input. -/
def tokenize (text : Text) : Except LexicalError (List Token) :=
  match scan 0 .start text with
  | .ok tokens => .ok tokens
  | .error place => .error ⟨place, quotedLine text place.line⟩

end TreeQuery
