import TreeQuery.Regex.Syntax

/- A regex as a pattern holds it: the text between the slashes, kept as written,
   and the number of its capture groups. -/
set_option autoImplicit false

namespace TreeQuery

structure Regex where
  source : Text
  captures : Nat

namespace Regex

-- Regexes are compared by the way they are written.
instance : BEq Regex where
  beq a b := a.source == b.source

def unescape : Text → Text
  | [] => []
  | '\\' :: '/' :: rest => '/' :: unescape rest
  | c :: rest => c :: unescape rest

def pattern (regex : Regex) : Text := unescape regex.source

def ofSource (checker : Checker) (source : Text) : Except Error Regex :=
  match checker (unescape source) with
  | .ok captures => .ok ⟨source, captures⟩
  | .error error => .error error

-- The text between the slashes of a literal; any other text is its own body.
def literalBody (literal : Text) : Text :=
  match literal with
  | '/' :: rest => if rest.getLast? = some '/' then rest.dropLast else literal
  | _ => literal

def ofLiteral (checker : Checker) (literal : Text) : Except Error Regex :=
  ofSource checker (literalBody literal)

def render (regex : Regex) : Text := '/' :: regex.source ++ ['/']

end Regex

end TreeQuery
