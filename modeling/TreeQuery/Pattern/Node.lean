import TreeQuery.Relation.Basic

/- Patterns as trees. A node of a pattern describes a node of the searched tree,
   or combines several constraints by "and" or "or". -/
set_option autoImplicit false

namespace TreeQuery

structure GroupCapture where
  group : Nat
  name : Text
deriving DecidableEq

structure Description where
  relation : Relation
  negated : Bool
  optional : Bool
  descriptor : Descriptor
  descriptorNegated : Bool
  categoryMatch : Bool
  capture : Option Text
  -- The label has to be that of the node with this name.
  link : Option Text
  -- The node has to be the one with this name.
  backreference : Option Text
  groups : List GroupCapture
deriving BEq

def Description.plain (relation : Relation) (descriptor : Descriptor) : Description :=
  ⟨relation, false, false, descriptor, false, false, none, none, none, []⟩

structure Coordination where
  conjunctive : Bool
  negated : Bool
  optional : Bool
deriving DecidableEq

inductive Node where
  | described (description : Description) (child : Option Node)
  | coordination (coordination : Coordination) (members : List Node)

structure Described where
  description : Description
  child : Option Node

def Described.toNode (node : Described) : Node := .described node.description node.child

namespace Node

def coordinate (conjunctive : Bool) : List Node → Node
  | [only] => only
  | members => .coordination ⟨conjunctive, false, false⟩ members

def negate : Node → Node
  | described description child => described { description with negated := true } child
  | coordination c members => coordination { c with negated := true } members

def makeOptional : Node → Node
  | described description child => described { description with optional := true } child
  | coordination c members => coordination { c with optional := true } members

def isRoot : Node → Bool
  | described description _ => description.relation.isRoot
  | coordination _ _ => false

def described? : Node → Option Described
  | described description child => some ⟨description, child⟩
  | coordination _ _ => none

def coordinationSize? : Node → Option Nat
  | described _ _ => none
  | coordination _ members => some members.length

mutual

def describedNodes : Node → List Described
  | described description child => ⟨description, child⟩ :: describedNodesOfChild child
  | coordination _ members => describedNodesOfMembers members

def describedNodesOfChild : Option Node → List Described
  | none => []
  | some node => describedNodes node

def describedNodesOfMembers : List Node → List Described
  | [] => []
  | node :: nodes => describedNodes node ++ describedNodesOfMembers nodes

end

def descriptions (node : Node) : List Description :=
  node.describedNodes.map Described.description

mutual

-- Node for node, strategies are compared by name and regexes as they are
-- written.
def same : Node → Node → Bool
  | described a child, described b child' => a == b && sameChild child child'
  | coordination a members, coordination b members' => a == b && sameMembers members members'
  | _, _ => false

def sameChild : Option Node → Option Node → Bool
  | none, none => true
  | some a, some b => same a b
  | _, _ => false

def sameMembers : List Node → List Node → Bool
  | [], [] => true
  | a :: as, b :: bs => same a b && sameMembers as bs
  | _, _ => false

end

instance : BEq Node := ⟨same⟩

end Node

def Described.attach (node : Described) (child : Node) : Described :=
  match node.child with
  | none => { node with child := some child }
  | some earlier => { node with child := some (Node.coordinate true [earlier, child]) }

end TreeQuery
