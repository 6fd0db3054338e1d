import TreeQuery.Pattern.Node
import TreeQuery.Pattern.Scope

/- What a tree does to the known names. Read from the top, a node declares its
   group variables, refers to other nodes, declares its own name, and leaves the
   rest to the constraints below it. The members of a conjunction are read one
   after the other, those of a disjunction each from the names before the first.
   There is no scope behind a tree that breaks a rule for names. -/
set_option autoImplicit false

namespace TreeQuery

namespace Scope

-- Where names are not checked, none is ever declared.

def behindGroup (checked : Bool) (name : Text) (scope : Scope) : Option Scope :=
  if checked then (scope.declareGroup name).toOption else some scope

def behindGroups (checked : Bool) : List GroupCapture → Scope → Option Scope
  | [], scope => some scope
  | group :: groups, scope =>
      (scope.behindGroup checked group.name).bind (behindGroups checked groups)

def behindReference (checked : Bool) : Option Text → Scope → Option Scope
  | none, scope => some scope
  | some name, scope =>
      if checked then (scope.reference name).toOption.map fun _ => scope else some scope

def behindCapture (checked underNegation : Bool) : Option Text → Scope → Option Scope
  | none, scope => some scope
  | some name, scope =>
      if checked then
        (scope.declare name).toOption.bind fun scope => if underNegation then none else some scope
      else some scope

@[simp] theorem behind_groups_nil (checked : Bool) (scope : Scope) :
    scope.behindGroups checked [] = some scope := rfl

@[simp] theorem behind_reference_none (checked : Bool) (scope : Scope) :
    scope.behindReference checked none = some scope := rfl

@[simp] theorem behind_capture_none (checked underNegation : Bool) (scope : Scope) :
    scope.behindCapture checked underNegation none = some scope := rfl

def joined (before : Scope) (branches : List Scope) : Scope :=
  (branches.getLastD before).mergeAll branches

end Scope

def Description.scopeBehind (checked underNegation : Bool) (description : Description)
    (scope : Scope) : Option Scope :=
  (scope.behindGroups checked description.groups).bind fun scope =>
    (scope.behindReference checked description.link).bind fun scope =>
      (scope.behindReference checked description.backreference).bind fun scope =>
        scope.behindCapture checked underNegation description.capture

namespace Node

mutual

def scopeBehind (checked underNegation : Bool) : Node → Scope → Option Scope
  | described description child, scope =>
      (description.scopeBehind checked (underNegation || description.negated) scope).bind
        (childBehind checked (underNegation || description.negated) child)
  | coordination c members, scope =>
      if c.conjunctive then conjunctsBehind checked (underNegation || c.negated) members scope
      else (disjunctsBehind checked (underNegation || c.negated) members scope).map scope.joined

def childBehind (checked underNegation : Bool) : Option Node → Scope → Option Scope
  | none, scope => some scope
  | some node, scope => scopeBehind checked underNegation node scope

def conjunctsBehind (checked underNegation : Bool) : List Node → Scope → Option Scope
  | [], scope => some scope
  | node :: nodes, scope =>
      (scopeBehind checked underNegation node scope).bind
        (conjunctsBehind checked underNegation nodes)

def disjunctsBehind (checked underNegation : Bool) : List Node → Scope → Option (List Scope)
  | [], _ => some []
  | node :: nodes, scope =>
      (scopeBehind checked underNegation node scope).bind fun first =>
        (disjunctsBehind checked underNegation nodes scope).map (first :: ·)

end

end Node

theorem Scope.union_self (names : List Text) : Scope.union names names = names := by
  have known : ∀ added known : List Text, added ⊆ known → Scope.union known added = known := by
    intro added
    induction added with
    | nil => intro known _; rfl
    | cons name others ih =>
        intro known inside
        have present : name ∈ known := inside (by simp)
        change Scope.union (known.insert name) others = known
        rw [List.insert_of_mem present]
        exact ih known (fun other member => inside (by simp [member]))
  exact known names names (List.Subset.refl names)

theorem Scope.merge_self (scope : Scope) : scope.merge scope = scope := by
  simp only [Scope.merge, Scope.union_self]

theorem Scope.joined_singleton (before scope : Scope) : before.joined [scope] = scope :=
  Scope.merge_self scope

namespace Node

variable (checked underNegation : Bool) (scope : Scope)

theorem scope_behind_negate (node : Node) :
    node.negate.scopeBehind checked underNegation scope = node.scopeBehind checked true scope := by
  cases node with
  | described description child =>
      simp only [negate, scopeBehind, Bool.or_true, Bool.true_or]
      rfl
  | coordination c members => simp only [negate, scopeBehind, Bool.or_true, Bool.true_or]

theorem scope_behind_make_optional (node : Node) :
    node.makeOptional.scopeBehind checked underNegation scope =
      node.scopeBehind checked underNegation scope := by
  cases node <;> rfl

theorem scope_behind_coordinate_conj (first : Node) (others : List Node) :
    (coordinate true (first :: others)).scopeBehind checked underNegation scope =
      conjunctsBehind checked underNegation (first :: others) scope := by
  cases others with
  | nil => simp [coordinate, conjunctsBehind]
  | cons second others => simp [coordinate, scopeBehind]

theorem disjuncts_behind_length (nodes : List Node) {scopes : List Scope}
    (found : disjunctsBehind checked underNegation nodes scope = some scopes) :
    scopes.length = nodes.length := by
  induction nodes generalizing scopes with
  | nil =>
      cases found
      rfl
  | cons node nodes ih =>
      simp only [disjunctsBehind, Option.bind_eq_some_iff, Option.map_eq_some_iff] at found
      obtain ⟨first, -, others, behind, rfl⟩ := found
      simp [ih behind]

theorem scope_behind_coordinate_disj (first : Node) (others : List Node) :
    (coordinate false (first :: others)).scopeBehind checked underNegation scope =
      (disjunctsBehind checked underNegation (first :: others) scope).map scope.joined := by
  cases others with
  | nil =>
      cases behind : first.scopeBehind checked underNegation scope <;>
        simp [coordinate, disjunctsBehind, behind, Scope.joined_singleton]
  | cons second others => simp [coordinate, scopeBehind]

end Node

theorem Described.scope_behind_label (checked underNegation : Bool) (scope : Scope)
    (description : Description) (plain : description.negated = false) :
    (Described.toNode ⟨description, none⟩).scopeBehind checked underNegation scope =
      description.scopeBehind checked underNegation scope := by
  simp only [Described.toNode, Node.scopeBehind, plain, Bool.or_false]
  cases description.scopeBehind checked underNegation scope <;> rfl

theorem Described.scope_behind_attach (checked underNegation : Bool) (scope : Scope)
    (top : Described) (child : Node) (plain : top.description.negated = false) :
    (top.attach child).toNode.scopeBehind checked underNegation scope =
      (top.toNode.scopeBehind checked underNegation scope).bind
        (child.scopeBehind checked underNegation) := by
  obtain ⟨description, earlier⟩ := top
  change description.negated = false at plain
  cases earlier with
  | none =>
      simp only [Described.attach, Described.toNode, Node.scopeBehind, plain, Bool.or_false]
      cases description.scopeBehind checked underNegation scope <;> rfl
  | some earlier =>
      simp only [Described.attach, Described.toNode, Node.scopeBehind, plain, Bool.or_false,
        Option.bind_assoc]
      cases description.scopeBehind checked underNegation scope with
      | none => rfl
      | some scope =>
          simp [Node.childBehind, Node.coordinate, Node.scopeBehind, Node.conjunctsBehind]

end TreeQuery
