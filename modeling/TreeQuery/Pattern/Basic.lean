import TreeQuery.Grammar.Level
import TreeQuery.Pattern.Printer

/- Patterns: from text or tokens to a checked tree, and back to text. -/
set_option autoImplicit false

namespace TreeQuery

structure Parsed where
  top : Described
  names : List Text

namespace Parsed

def root (parsed : Parsed) : Node := parsed.top.toNode

end Parsed

def runTokens (settings : Grammar.Settings) (tokens : List Token) :
    EStateM.Result PatternError Grammar.State Described :=
  (Grammar.wholePattern settings).run ⟨TokenStream.ofTokens tokens, Scope.empty⟩

def parseTokensWith (settings : Grammar.Settings) (tokens : List Token) :
    Except PatternError Parsed :=
  match runTokens settings tokens with
  | .ok top state => .ok ⟨top, state.scope.names⟩
  | .error error _ => .error error

/-- Reads a pattern with its terminator from a list of tokens. -/
def parseTokens (resolver : Resolver) (tokens : List Token) : Except PatternError Parsed :=
  parseTokensWith ⟨resolver, true⟩ tokens

/-- Reads a pattern with its terminator from a text. -/
def parseText (resolver : Resolver) (text : Text) : Except PatternError Parsed :=
  match tokenize text with
  | .error error => .error (.lexical error)
  | .ok tokens => parseTokens resolver tokens

structure Pattern where
  root : Node
  names : List Text
  source : Text
  resolver : Resolver

namespace Pattern

-- Puts the terminator behind a text that does not end in one, blanks aside.
def terminated (text : Text) : Text :=
  if text.trimEnd.getLast? = some ';' then text else text ++ [';']

/-- Reads a pattern. The terminator may be left off. -/
def compile (resolver : Resolver) (text : Text) : Except PatternError Pattern :=
  match parseText resolver (terminated text) with
  | .error error => .error error
  | .ok parsed => .ok ⟨parsed.root, parsed.names, text, resolver⟩

/-- The canonical text of the pattern. -/
def render (pattern : Pattern) : Text := pattern.root.render ++ [';']

end Pattern

end TreeQuery
