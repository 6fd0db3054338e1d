import TreeQuery.Pattern.Node

/- The comparison of nodes holds of a node and itself. -/
set_option autoImplicit false

namespace TreeQuery

instance : ReflBEq BasicCategory := ⟨BEq.refl (α := Text) _⟩

instance : ReflBEq HeadFinder := ⟨BEq.refl (α := Text) _⟩

instance : ReflBEq Regex := ⟨BEq.refl (α := Text) _⟩

deriving instance ReflBEq for Descriptor, ChainArgument, RelationKind, Relation, Description

namespace Node

mutual

theorem same_refl : (node : Node) → same node node = true
  | described description child => by
      rw [same, BEq.refl description, same_child_refl child, Bool.and_self]
  | coordination c members => by
      rw [same, BEq.refl c, same_members_refl members, Bool.and_self]

theorem same_child_refl : (child : Option Node) → sameChild child child = true
  | none => rfl
  | some node => same_refl node

theorem same_members_refl : (nodes : List Node) → sameMembers nodes nodes = true
  | [] => rfl
  | node :: nodes => by rw [sameMembers, same_refl node, same_members_refl nodes, Bool.and_self]

end

instance : ReflBEq Node := ⟨same_refl _⟩

end Node

end TreeQuery
