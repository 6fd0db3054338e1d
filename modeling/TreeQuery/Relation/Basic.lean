import TreeQuery.Label.BasicCategory
import TreeQuery.Label.HeadFinder
import TreeQuery.Label.Descriptor
import TreeQuery.Relation.Symbol
import TreeQuery.Text.Numeral

/- Relations between a node and the node above it in the pattern, with the
   strategies that they need when a tree is searched. -/
set_option autoImplicit false

namespace TreeQuery

structure ChainArgument where
  descriptor : Descriptor
  negated : Bool
  categoryMatch : Bool
deriving BEq

def ChainArgument.render (argument : ChainArgument) : Text :=
  (if argument.negated then ['!'] else []) ++ (if argument.categoryMatch then ['@'] else []) ++
    argument.descriptor.render

inductive RelationKind where
  | root
  | plain (relation : PlainRelation)
  -- B is the child of A with this number; a negative number counts from the
  -- right.
  | hasChild (index : Int)
  -- A is the child of B with this number.
  | childOf (index : Int)
  | chain (relation : ChainRelation) (argument : ChainArgument)
deriving BEq

namespace RelationKind

def symbol : RelationKind → Text
  | root => []
  | plain relation => relation.symbol
  | hasChild _ => PlainRelation.immediatelyDominates.symbol
  | childOf _ => PlainRelation.immediatelyDominatedBy.symbol
  | chain relation _ => relation.symbol

def isHeadRelation : RelationKind → Bool
  | plain relation => relation.isHeadRelation
  | _ => false

def chainArgument? : RelationKind → Option ChainArgument
  | chain _ argument => some argument
  | _ => none

def childIndex? : RelationKind → Option Int
  | hasChild index => some index
  | childOf index => some index
  | _ => none

def render : RelationKind → Text
  | hasChild index => symbol (hasChild index) ++ Text.ofInt index
  | childOf index => symbol (childOf index) ++ Text.ofInt index
  | chain relation argument => relation.symbol ++ ['('] ++ argument.render ++ [')']
  | kind => kind.symbol

end RelationKind

-- A relation with its strategies: a head finder for a head relation, basic
-- categories for a chain whose argument compares them.
structure Relation where
  kind : RelationKind
  headFinder : Option HeadFinder
  basicCategory : Option BasicCategory
deriving BEq

namespace Relation

def ofKind (kind : RelationKind) : Relation := ⟨kind, none, none⟩

def root : Relation := ofKind .root

def isRoot (relation : Relation) : Bool :=
  match relation.kind with
  | .root => true
  | _ => false

def render (relation : Relation) : Text := relation.kind.render

end Relation

end TreeQuery
