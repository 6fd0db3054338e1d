import TreeQuery.Token.Lexer
import TreeQuery.Token.Stream
import TreeQuery.Relation.Error
import TreeQuery.Text.Numeral
import TreeQuery.Pattern.Scope

/- Why a text is no pattern, and where. The first error ends the reading. -/
set_option autoImplicit false

namespace TreeQuery

inductive GroupFault where
  | outOfRange
  | zero
  | noSuchGroup (source : Text) (captures : Nat)
deriving DecidableEq

def GroupFault.message : GroupFault → String
  | outOfRange => "group number out of range"
  | zero => "groups are numbered from 1"
  | noSuchGroup source captures =>
      "/" ++ String.ofList source ++ "/ has " ++ String.ofList (Text.ofNat captures) ++ " group(s)"

inductive PatternError where
  | unexpectedToken (unexpected : Unexpected)
  | duplicateCapture (name : Text) (position : Position)
  | undeclaredReference (name : Text) (position : Position)
  | captureUnderNegation (name : Text) (position : Position)
  | lexical (error : LexicalError)
  | invalidRegex (pattern : Text) (cause : Regex.Error) (position : Position)
  | invalidGroupCapture (index : Text) (fault : GroupFault) (position : Position)
  | nestingTooDeep (limit : Nat) (position : Position)
  | invalidRelation (cause : RelationError) (position : Position)
deriving DecidableEq

def ScopeError.locate (position : Position) : ScopeError → PatternError
  | duplicate name => .duplicateCapture name position
  | unknown name => .undeclaredReference name position

namespace PatternError

def position : PatternError → Position
  | unexpectedToken unexpected => unexpected.found.position
  | duplicateCapture _ position => position
  | undeclaredReference _ position => position
  | captureUnderNegation _ position => position
  | lexical error => error.position
  | invalidRegex _ _ position => position
  | invalidGroupCapture _ _ position => position
  | nestingTooDeep _ position => position
  | invalidRelation _ position => position

def reason : PatternError → String
  | unexpectedToken unexpected =>
      "unexpected " ++ unexpected.found.describe ++ "; expected " ++ unexpected.expected.text
  | duplicateCapture name _ => (ScopeError.duplicate name).message
  | undeclaredReference name _ => (ScopeError.unknown name).message
  | captureUnderNegation name _ =>
      "no named nodes allowed in the scope of negation: " ++ String.ofList name
  | lexical error => error.message
  | invalidRegex pattern cause _ =>
      "invalid regex /" ++ String.ofList pattern ++ "/: " ++ cause.message
  | invalidGroupCapture index fault _ =>
      "invalid group capture #" ++ String.ofList index ++ ": " ++ fault.message
  | nestingTooDeep limit _ =>
      "pattern is nested more than " ++ String.ofList (Text.ofNat limit) ++ " levels deep"
  | invalidRelation cause _ => cause.message

-- The whole message. The place of an unexpected token is part of the reason
-- already.
def message (error : PatternError) : String :=
  "Pattern error: " ++ error.reason ++
    match error with
    | unexpectedToken _ => ""
    | _ => " (" ++ error.position.text ++ ")"

end PatternError

end TreeQuery
