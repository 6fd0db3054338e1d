import TreeQuery.Text.Basic

/- Head finders: which child is the head of a phrase. -/
set_option autoImplicit false

namespace TreeQuery

structure HeadFinder where
  name : Text
  headIndex : Text → List Text → Option Nat

namespace HeadFinder

instance : BEq HeadFinder where
  beq a b := a.name == b.name

def leftmost : HeadFinder :=
  ⟨"leftmost".toList, fun _ children => if children.isEmpty then none else some 0⟩

def rightmost : HeadFinder :=
  ⟨"rightmost".toList, fun _ children =>
    if children.isEmpty then none else some (children.length - 1)⟩

instance : Inhabited HeadFinder := ⟨leftmost⟩

end HeadFinder

end TreeQuery
