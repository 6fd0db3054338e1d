import TreeQuery.Text.Basic

/- What can be wrong with a regex, and where. -/
set_option autoImplicit false

namespace TreeQuery.Regex

-- The characters from `start` up to, not including, `stop`.
structure Span where
  start : Nat
  stop : Nat
deriving DecidableEq

inductive Problem where
  | unclosedGroup
  | unopenedGroup
  | unclosedClass
  | missingOperand
  | unclosedCount
  | decimalExpected
  | decimalTooLarge
  | countOrder
  | rangeOrder
  | rangeBoundary
  | classEscape
  | unclosedName
  | emptyName
  | nameCharacter
  | duplicateName
  | lookAround
  | backreference
  | incompleteEscape
  | unknownEscape
  | hexDigit
  | emptyHex
  | hexScalar
  | unicodeClass
  | unknownFlag
  | duplicateFlag
  | danglingNegation
  | repeatedNegation
  | unfinishedFlags
  | unfinishedBoundary
  | boundaryCharacter
  | unknownBoundary
  | tooDeep (limit : Nat)
  | unicodeNotAllowed
  | invalidUtf8
  | unknownProperty
  | unknownPropertyValue
deriving DecidableEq

def Problem.text : Problem → String
  | unclosedGroup => "unclosed group"
  | unopenedGroup => "unopened group"
  | unclosedClass => "unclosed character class"
  | missingOperand => "repetition operator missing expression"
  | unclosedCount => "unclosed counted repetition"
  | decimalExpected => "repetition quantifier expects a valid decimal"
  | decimalTooLarge => "decimal literal invalid"
  | countOrder => "invalid repetition count range, the start must be <= the end"
  | rangeOrder => "invalid character class range, the start must be <= the end"
  | rangeBoundary => "invalid range boundary, must be a literal"
  | classEscape => "invalid escape sequence found in character class"
  | unclosedName => "unclosed capture group name"
  | emptyName => "empty capture group name"
  | nameCharacter => "invalid capture group character"
  | duplicateName => "duplicate capture group name"
  | lookAround => "look-around, including look-ahead and look-behind, is not supported"
  | backreference => "backreferences are not supported"
  | incompleteEscape => "incomplete escape sequence, reached end of pattern prematurely"
  | unknownEscape => "unrecognized escape sequence"
  | hexDigit => "invalid hexadecimal digit"
  | emptyHex => "hexadecimal literal empty"
  | hexScalar => "hexadecimal literal is not a Unicode scalar value"
  | unicodeClass => "invalid Unicode character class"
  | unknownFlag => "unrecognized flag"
  | duplicateFlag => "duplicate flag"
  | danglingNegation => "dangling flag negation operator"
  | repeatedNegation => "flag negation operator repeated"
  | unfinishedFlags => "expected flag but got end of regex"
  | unfinishedBoundary =>
      "found either the beginning of a special word boundary or a bounded repetition on a \\b " ++
        "with an opening brace, but no closing brace"
  | boundaryCharacter =>
      "special word boundary assertion is either unclosed or contains an invalid character"
  | unknownBoundary =>
      "unrecognized special word boundary assertion, valid choices are: start, end, " ++
        "start-half or end-half"
  | tooDeep limit =>
      "exceed the maximum number of nested parentheses/brackets (" ++ toString limit ++ ")"
  | unicodeNotAllowed => "Unicode not allowed here"
  | invalidUtf8 => "pattern can match invalid UTF-8"
  | unknownProperty => "Unicode property not found"
  | unknownPropertyValue => "Unicode property value not found"

structure Fault where
  problem : Problem
  spans : List Span
deriving DecidableEq

structure Error where
  pattern : Text
  fault : Fault
deriving DecidableEq

end TreeQuery.Regex
