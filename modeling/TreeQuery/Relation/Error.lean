import TreeQuery.Regex.Message

/- Why an operator and its argument name no relation. -/
set_option autoImplicit false

namespace TreeQuery

inductive RelationError where
  | unknownRelation (symbol : Text)
  | missingArgument (symbol : Text)
  | unexpectedArgument (symbol argument : Text)
  | invalidIndex (symbol argument : Text)
  | invalidRegex (symbol argument : Text) (cause : Regex.Error)
deriving DecidableEq

namespace RelationError

def symbol : RelationError → Text
  | unknownRelation symbol => symbol
  | missingArgument symbol => symbol
  | unexpectedArgument symbol _ => symbol
  | invalidIndex symbol _ => symbol
  | invalidRegex symbol _ _ => symbol

def message (error : RelationError) : String :=
  let relation := "relation " ++ String.ofList error.symbol
  match error with
  | unknownRelation _ => "unknown " ++ relation
  | missingArgument _ => relation ++ " requires an argument"
  | unexpectedArgument _ argument =>
      relation ++ " does not take the argument " ++ String.ofList argument
  | invalidIndex _ argument =>
      relation ++ " has an invalid child index " ++ String.ofList argument
  | invalidRegex _ argument cause =>
      relation ++ " has an invalid regex argument " ++ String.ofList argument ++ ": " ++
        cause.message

end RelationError

end TreeQuery
