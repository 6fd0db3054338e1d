import TreeQuery.Text.Basic

/- The relations that an operator names by itself, and their spellings. -/
set_option autoImplicit false

namespace TreeQuery

-- A relation between two nodes, read "A is so related to B" with A the node
-- that the relation hangs from and B the node that it introduces.
inductive PlainRelation where
  | equals
  | parentEquals
  | dominates
  | dominatedBy
  | immediatelyDominates
  | immediatelyDominatedBy
  | hasOnlyChild
  | onlyChildOf
  | hasLeftmostChild
  | leftmostChildOf
  | hasRightmostChild
  | rightmostChildOf
  | hasLeftmostDescendant
  | leftmostDescendantOf
  | hasRightmostDescendant
  | rightmostDescendantOf
  | unaryPathDominates
  | unaryPathDominatedBy
  | sisterOf
  | leftSisterOf
  | rightSisterOf
  | immediateLeftSisterOf
  | immediateRightSisterOf
  | precedes
  | immediatelyPrecedes
  | follows
  | immediatelyFollows
  | hasImmediateHead
  | immediateHeadOf
  | hasHead
  | headOf
deriving DecidableEq

namespace PlainRelation

def symbol : PlainRelation → Text
  | equals => "==".toList
  | parentEquals => "<=".toList
  | dominates => "<<".toList
  | dominatedBy => ">>".toList
  | immediatelyDominates => "<".toList
  | immediatelyDominatedBy => ">".toList
  | hasOnlyChild => "<:".toList
  | onlyChildOf => ">:".toList
  | hasLeftmostChild => "<,".toList
  | leftmostChildOf => ">,".toList
  | hasRightmostChild => "<-".toList
  | rightmostChildOf => ">-".toList
  | hasLeftmostDescendant => "<<,".toList
  | leftmostDescendantOf => ">>,".toList
  | hasRightmostDescendant => "<<-".toList
  | rightmostDescendantOf => ">>-".toList
  | unaryPathDominates => "<<:".toList
  | unaryPathDominatedBy => ">>:".toList
  | sisterOf => "$".toList
  | leftSisterOf => "$++".toList
  | rightSisterOf => "$--".toList
  | immediateLeftSisterOf => "$+".toList
  | immediateRightSisterOf => "$-".toList
  | precedes => "..".toList
  | immediatelyPrecedes => ".".toList
  | follows => ",,".toList
  | immediatelyFollows => ",".toList
  | hasImmediateHead => "<#".toList
  | immediateHeadOf => ">#".toList
  | hasHead => "<<#".toList
  | headOf => ">>#".toList

def all : List PlainRelation :=
  [equals, parentEquals, dominates, dominatedBy, immediatelyDominates, immediatelyDominatedBy,
   hasOnlyChild, onlyChildOf, hasLeftmostChild, leftmostChildOf, hasRightmostChild,
   rightmostChildOf, hasLeftmostDescendant, leftmostDescendantOf, hasRightmostDescendant,
   rightmostDescendantOf, unaryPathDominates, unaryPathDominatedBy, sisterOf, leftSisterOf,
   rightSisterOf, immediateLeftSisterOf, immediateRightSisterOf, precedes, immediatelyPrecedes,
   follows, immediatelyFollows, hasImmediateHead, immediateHeadOf, hasHead, headOf]

def aliases : List (Text × PlainRelation) :=
  [("$..".toList, leftSisterOf), ("$,,".toList, rightSisterOf),
   ("$.".toList, immediateLeftSisterOf), ("$,".toList, immediateRightSisterOf)]

def ofSymbol? (spelling : Text) : Option PlainRelation :=
  (all.find? (·.symbol = spelling)).or (aliases.lookup spelling)

def isHeadRelation : PlainRelation → Bool
  | hasImmediateHead | immediateHeadOf | hasHead | headOf => true
  | _ => false

theorem of_symbol_symbol (relation : PlainRelation) :
    ofSymbol? relation.symbol = some relation := by
  cases relation <;> decide

end PlainRelation

inductive ChainRelation where
  | dominates
  | dominatedBy
  | precedes
  | follows
deriving DecidableEq

namespace ChainRelation

def symbol : ChainRelation → Text
  | dominates => "<+".toList
  | dominatedBy => ">+".toList
  | precedes => ".+".toList
  | follows => ",+".toList

def all : List ChainRelation := [dominates, dominatedBy, precedes, follows]

def ofSymbol? (spelling : Text) : Option ChainRelation :=
  all.find? (·.symbol = spelling)

end ChainRelation

end TreeQuery
