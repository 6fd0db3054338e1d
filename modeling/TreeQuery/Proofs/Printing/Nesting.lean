import TreeQuery.Pattern.Printer

/- How deep the printed text of a tree is nested: in relations, in the parentheses around
   a node with more than its label, and in brackets. Brackets are put around every
   disjunction, where a text that is compiled needs none around the outermost one. -/
set_option autoImplicit false

namespace TreeQuery

def Description.nestingWith (description : Description) (hasChild : Bool) (body : Nat) : Nat :=
  if description.relation.isRoot then body else if hasChild then body + 2 else body + 1

theorem Description.nesting_with_le (description : Description) (hasChild : Bool) (body : Nat) :
    description.nestingWith hasChild body ≤ if hasChild then body + 2 else body + 1 := by
  unfold nestingWith
  split
  · split <;> omega
  · exact Nat.le_refl _

def Coordination.nestingWith (c : Coordination) (inConjunction : Bool) (body : Nat) : Nat :=
  if c.isBracketed inConjunction then body + 1 else body

namespace Node

mutual

def printedNesting (inConjunction : Bool) : Node → Nat
  | described description child =>
      description.nestingWith child.isSome (printedNestingOfChild child)
  | coordination c members =>
      c.nestingWith inConjunction (printedNestingOfMembers c.conjunctive members)

def printedNestingOfChild : Option Node → Nat
  | none => 0
  | some node => printedNesting false node

def printedNestingOfMembers (inConjunction : Bool) : List Node → Nat
  | [] => 0
  | node :: nodes =>
      max (printedNesting inConjunction node) (printedNestingOfMembers inConjunction nodes)

end

-- Within a conjunction a coordination has brackets, elsewhere it may go without.
theorem printed_nesting_within (node : Node) :
    node.printedNesting false ≤ node.printedNesting true ∧
      node.printedNesting true ≤ node.printedNesting false + 1 := by
  cases node with
  | described description child => exact ⟨Nat.le_refl _, Nat.le_succ _⟩
  | coordination c members =>
      have bracketed : c.isBracketed true = true := Bool.or_true _
      rw [printedNesting, printedNesting, Coordination.nestingWith, Coordination.nestingWith,
        if_pos bracketed]
      split <;> omega

end Node

end TreeQuery
