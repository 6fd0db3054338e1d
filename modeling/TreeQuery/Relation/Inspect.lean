import TreeQuery.Relation.Resolver
import TreeQuery.Text.Quoted

/- A view of relations for people who look for a fault: every part by its name,
   on one line. Strategies show as their names. -/
set_option autoImplicit false

namespace TreeQuery

namespace PlainRelation

def name : PlainRelation → String
  | equals => "Equals"
  | parentEquals => "ParentEquals"
  | dominates => "Dominates"
  | dominatedBy => "DominatedBy"
  | immediatelyDominates => "ImmediatelyDominates"
  | immediatelyDominatedBy => "ImmediatelyDominatedBy"
  | hasOnlyChild => "HasOnlyChild"
  | onlyChildOf => "OnlyChildOf"
  | hasLeftmostChild => "HasLeftmostChild"
  | leftmostChildOf => "LeftmostChildOf"
  | hasRightmostChild => "HasRightmostChild"
  | rightmostChildOf => "RightmostChildOf"
  | hasLeftmostDescendant => "HasLeftmostDescendant"
  | leftmostDescendantOf => "LeftmostDescendantOf"
  | hasRightmostDescendant => "HasRightmostDescendant"
  | rightmostDescendantOf => "RightmostDescendantOf"
  | unaryPathDominates => "UnaryPathDominates"
  | unaryPathDominatedBy => "UnaryPathDominatedBy"
  | sisterOf => "SisterOf"
  | leftSisterOf => "LeftSisterOf"
  | rightSisterOf => "RightSisterOf"
  | immediateLeftSisterOf => "ImmediateLeftSisterOf"
  | immediateRightSisterOf => "ImmediateRightSisterOf"
  | precedes => "Precedes"
  | immediatelyPrecedes => "ImmediatelyPrecedes"
  | follows => "Follows"
  | immediatelyFollows => "ImmediatelyFollows"
  | hasImmediateHead => "HasImmediateHead"
  | immediateHeadOf => "ImmediateHeadOf"
  | hasHead => "HasHead"
  | headOf => "HeadOf"

end PlainRelation

def ChainRelation.name : ChainRelation → String
  | dominates => "UnbrokenCategoryDominates"
  | dominatedBy => "UnbrokenCategoryDominatedBy"
  | precedes => "UnbrokenCategoryPrecedes"
  | follows => "UnbrokenCategoryFollows"

def RelationKind.name : RelationKind → String
  | root => "Root"
  | plain relation => relation.name
  | hasChild _ => "HasIthChild"
  | childOf _ => "IthChildOf"
  | chain relation _ => relation.name

def inspectFields (title : String) (fields : List (String × String)) : String :=
  let written := fields.map fun (name, value) => name ++ ": " ++ value
  title ++ " \x7b " ++ ", ".intercalate written ++ " \x7d"

def inspectText (text : Text) : String := String.ofList text.quoted

def BasicCategory.inspect (category : BasicCategory) : String :=
  "BasicCategory(" ++ inspectText category.name ++ ")"

def Descriptor.inspect : Descriptor → String
  | identifier label => "Identifier(" ++ inspectText label ++ ")"
  | regex r => "Regex(RegexDescriptor(" ++ inspectText r.source ++ "))"
  | blank => "Blank"
  | unspecified => "None"

def ChainArgument.inspect (argument : ChainArgument) : String :=
  inspectFields "ChainArg"
    [("descriptor", argument.descriptor.inspect), ("negated", toString argument.negated),
     ("category_match", toString argument.categoryMatch)]

def RelationKind.inspect (kind : RelationKind) : String :=
  match kind with
  | hasChild index => kind.name ++ "(" ++ String.ofList (Text.ofInt index) ++ ")"
  | childOf index => kind.name ++ "(" ++ String.ofList (Text.ofInt index) ++ ")"
  | chain _ argument => kind.name ++ "(" ++ argument.inspect ++ ")"
  | _ => kind.name

def Relation.inspect (relation : Relation) : String :=
  inspectFields "Relation"
    ([("kind", relation.kind.inspect)] ++
      relation.headFinder.toList.map (fun finder => ("head_finder", inspectText finder.name)) ++
      relation.basicCategory.toList.map (fun category => ("basic_category", category.inspect)))

def Resolver.inspect (resolver : Resolver) : String :=
  inspectFields "RelationResolver"
    [("basic_category", resolver.basicCategory.inspect),
     ("head_finder", inspectText resolver.headFinder.name)]

end TreeQuery
