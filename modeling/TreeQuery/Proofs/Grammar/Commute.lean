import TreeQuery.Proofs.Grammar.Context
import TreeQuery.Proofs.Grammar.Derivation
import TreeQuery.Proofs.Scope.Agreement

/- The branches of a disjunction may stand in any order. The pattern is accepted in each
   of them, declares the same names, and has its tree with the branches in that order. -/
set_option autoImplicit false

namespace TreeQuery.Grammar

def DisjunctsPhrase.branches : DisjunctsPhrase → List ConjunctionPhrase
  | .nil => []
  | .cons _ next others => next :: others.branches

def DisjunctsPhrase.bars : DisjunctsPhrase → List (Leaf [.pipe])
  | .nil => []
  | .cons bar _ others => bar :: others.bars

def DisjunctsPhrase.ofBranches : List (Leaf [.pipe]) → List ConjunctionPhrase → DisjunctsPhrase
  | bar :: bars, next :: others => .cons bar next (ofBranches bars others)
  | _, _ => .nil

def DisjunctionPhrase.branches : DisjunctionPhrase → List ConjunctionPhrase
  | .of first others => first :: others.branches

def DisjunctionPhrase.reorder (order : List Nat) : DisjunctionPhrase → DisjunctionPhrase
  | .of first others =>
      match rearrange order (first :: others.branches) with
      | [] => .of first others
      | head :: tail => .of head (.ofBranches others.bars tail)

theorem DisjunctsPhrase.bars_length : (others : DisjunctsPhrase) →
    others.bars.length = others.branches.length
  | .nil => rfl
  | .cons _ _ others => congrArg Nat.succ (bars_length others)

theorem DisjunctsPhrase.of_branches_branches {bars : List (Leaf [.pipe])}
    {branches : List ConjunctionPhrase} (fits : bars.length = branches.length) :
    (ofBranches bars branches).branches = branches := by
  induction bars generalizing branches with
  | nil =>
      cases branches with
      | nil => rfl
      | cons next others => cases fits
  | cons bar bars ih =>
      cases branches with
      | nil => cases fits
      | cons next others => exact congrArg (next :: ·) (ih (Nat.succ.inj fits))

theorem DisjunctsPhrase.nesting_le_iff {limit : Nat} : (others : DisjunctsPhrase) →
    (others.nesting ≤ limit ↔ ∀ branch ∈ others.branches, branch.nesting ≤ limit)
  | .nil => by simp [nesting, branches]
  | .cons _ _ others => by
      rw [nesting, branches, Nat.max_le, nesting_le_iff others, List.forall_mem_cons]

theorem DisjunctsPhrase.denote_iff {resolver : Resolver} : (others : DisjunctsPhrase) →
    ∀ {members : List Node}, others.denote resolver = some members ↔
      List.Forall₂ (fun branch member => branch.denote resolver = some member)
        others.branches members
  | .nil, _ => by
      rw [branches, List.forall₂_nil_left_iff]
      simp only [denote, Option.some.injEq]
      exact eq_comm
  | .cons _ _ others, members => by
      rw [denote_cons, branches, List.forall₂_cons_left_iff]
      constructor
      · intro found
        obtain ⟨head, tail, here, behind, rfl⟩ := found
        exact ⟨head, tail, here, (denote_iff others).1 behind, rfl⟩
      · intro found
        obtain ⟨head, tail, here, behind, rfl⟩ := found
        exact ⟨head, tail, here, (denote_iff others).2 behind, rfl⟩

namespace DisjunctionPhrase

variable {group : DisjunctionPhrase} {order : List Nat} {resolver : Resolver}

theorem reorder_branches (permutes : order.Perm (List.range group.branches.length)) :
    (group.reorder order).branches = rearrange order group.branches := by
  obtain ⟨first, others⟩ := group
  change order.Perm (List.range (first :: others.branches).length) at permutes
  have sameLength := (rearrange_perm permutes).length_eq
  simp only [reorder, branches]
  cases found : rearrange order (first :: others.branches) with
  | nil =>
      rw [found] at sameLength
      cases sameLength
  | cons head tail =>
      rw [found] at sameLength
      have fits : others.bars.length = tail.length :=
        others.bars_length.trans (Nat.succ.inj sameLength).symm
      exact congrArg (head :: ·) (DisjunctsPhrase.of_branches_branches fits)

theorem nesting_le_iff {limit : Nat} :
    group.nesting ≤ limit ↔ ∀ branch ∈ group.branches, branch.nesting ≤ limit := by
  obtain ⟨first, others⟩ := group
  rw [nesting, branches, Nat.max_le, others.nesting_le_iff, List.forall_mem_cons]

theorem reorder_nesting_le (permutes : order.Perm (List.range group.branches.length)) :
    (group.reorder order).nesting ≤ group.nesting := by
  apply nesting_le_iff.2
  intro branch inside
  rw [reorder_branches permutes] at inside
  exact nesting_le_iff.1 (Nat.le_refl _) branch ((rearrange_perm permutes).mem_iff.1 inside)

theorem denote_iff {node : Node} : group.denote resolver = some node ↔
    ∃ members, List.Forall₂ (fun branch member => branch.denote resolver = some member)
        group.branches members ∧ Node.coordinate false members = node := by
  obtain ⟨first, others⟩ := group
  rw [denote_of]
  constructor
  · intro found
    obtain ⟨head, tail, here, behind, rfl⟩ := found
    exact ⟨head :: tail, .cons here (others.denote_iff.1 behind),
      (gathered_eq_coordinate false head tail).symm⟩
  · intro found
    obtain ⟨members, each, rfl⟩ := found
    obtain ⟨head, tail, here, behind, rfl⟩ := List.forall₂_cons_left_iff.1 each
    exact ⟨head, tail, here, others.denote_iff.2 behind, gathered_eq_coordinate false head tail⟩

theorem denote_several {node : Node} (several : 2 ≤ group.branches.length) :
    group.denote resolver = some node ↔
      ∃ members, List.Forall₂ (fun branch member => branch.denote resolver = some member)
          group.branches members ∧ .coordination ⟨false, false, false⟩ members = node := by
  rw [denote_iff]
  constructor <;>
    · intro found
      obtain ⟨members, each, rfl⟩ := found
      rw [each.length_eq] at several
      match members, several with
      | first :: second :: others, _ => exact ⟨first :: second :: others, each, rfl⟩

end DisjunctionPhrase

section Rearranged

variable {order : List Nat} {members : List Node}

def Rule.Rearranged (order : List Nat) (members : List Node) :
    {rule : Rule} → rule.Value → rule.Value → Prop
  | .node, top, other => Node.Rearranged order members top.toNode other.toNode
  | .subNode, top, other => Node.Rearranged order members top.toNode other.toNode
  | .disjunction, tree, other => Node.Rearranged order members tree other
  | .disjuncts, trees, others => Node.RearrangedMember order members trees others
  | .conjunction, tree, other => Node.Rearranged order members tree other
  | .conjuncts, trees, others => Node.RearrangedMember order members trees others
  | .constraint, tree, other => Node.Rearranged order members tree other
  | .plain, tree, other => Node.Rearranged order members tree other

variable {resolver : Resolver} {own : Relation} {outer inner : Rule}

theorem Frame.assemble_rearranged (frame : Frame outer inner) {value other : inner.Value}
    {whole : outer.Value} (found : frame.assemble resolver own value = some whole)
    (rearranged : Rule.Rearranged order members value other) :
    ∃ wholeToo, frame.assemble resolver own other = some wholeToo ∧
      Rule.Rearranged order members whole wholeToo := by
  cases frame with
  | enclosed opener closer =>
      cases found
      exact ⟨other, rfl, rearranged⟩
  | alone =>
      cases found
      exact ⟨other, rfl, rearranged⟩
  | overChildren children =>
      obtain ⟨child, denoted, rfl⟩ := Option.map_eq_some_iff.1 found
      exact ⟨_, Option.map_eq_some_iff.2 ⟨child, denoted, rfl⟩, Described.rearranged_top rearranged⟩
  | underNode node =>
      obtain ⟨top, denoted, rfl⟩ := Option.map_eq_some_iff.1 found
      exact ⟨_, Option.map_eq_some_iff.2 ⟨top, denoted, rfl⟩, Described.rearranged_child rearranged⟩
  | firstBranch others =>
      obtain ⟨nodes, denoted, rfl⟩ := Option.map_eq_some_iff.1 found
      exact ⟨_, Option.map_eq_some_iff.2 ⟨nodes, denoted, rfl⟩,
        (Node.RearrangedMember.first rearranged nodes).gathered false⟩
  | otherBranches first =>
      obtain ⟨node, denoted, rfl⟩ := Option.map_eq_some_iff.1 found
      exact ⟨_, Option.map_eq_some_iff.2 ⟨node, denoted, rfl⟩,
        (Node.RearrangedMember.later rearranged node).gathered false⟩
  | nextBranch bar others =>
      obtain ⟨nodes, denoted, rfl⟩ := Option.map_eq_some_iff.1 found
      exact ⟨_, Option.map_eq_some_iff.2 ⟨nodes, denoted, rfl⟩, .first rearranged nodes⟩
  | laterBranches bar next =>
      obtain ⟨node, denoted, rfl⟩ := Option.map_eq_some_iff.1 found
      exact ⟨_, Option.map_eq_some_iff.2 ⟨node, denoted, rfl⟩, .later rearranged node⟩
  | firstConjunct others =>
      obtain ⟨nodes, denoted, rfl⟩ := Option.map_eq_some_iff.1 found
      exact ⟨_, Option.map_eq_some_iff.2 ⟨nodes, denoted, rfl⟩,
        (Node.RearrangedMember.first rearranged nodes).gathered true⟩
  | otherConjuncts first =>
      obtain ⟨node, denoted, rfl⟩ := Option.map_eq_some_iff.1 found
      exact ⟨_, Option.map_eq_some_iff.2 ⟨node, denoted, rfl⟩,
        (Node.RearrangedMember.later rearranged node).gathered true⟩
  | nextConjunct joint others =>
      obtain ⟨nodes, denoted, rfl⟩ := Option.map_eq_some_iff.1 found
      exact ⟨_, Option.map_eq_some_iff.2 ⟨nodes, denoted, rfl⟩, .first rearranged nodes⟩
  | laterConjuncts joint next =>
      obtain ⟨node, denoted, rfl⟩ := Option.map_eq_some_iff.1 found
      exact ⟨_, Option.map_eq_some_iff.2 ⟨node, denoted, rfl⟩, .later rearranged node⟩
  | unmodified =>
      cases found
      exact ⟨other, rfl, rearranged⟩
  | negated bang =>
      cases found
      exact ⟨_, rfl, Node.Rearranged.with_negation rearranged⟩
  | optional question =>
      cases found
      exact ⟨_, rfl, Node.Rearranged.with_option rearranged⟩
  | group opener closer =>
      cases found
      exact ⟨other, rfl, rearranged⟩
  | related operation =>
      cases found
      exact ⟨_, rfl, rearranged⟩

theorem Context.assemble_rearranged (context : Context outer inner) {value other : inner.Value}
    {whole : outer.Value} (found : context.assemble resolver own value = some whole)
    (rearranged : Rule.Rearranged order members value other) :
    ∃ wholeToo, context.assemble resolver own other = some wholeToo ∧
      Rule.Rearranged order members whole wholeToo := by
  induction context generalizing own with
  | hole =>
      cases found
      exact ⟨other, rfl, rearranged⟩
  | inside frame context ih =>
      simp only [assemble, Option.bind_eq_some_iff] at found ⊢
      obtain ⟨relation, related, part, inner, outer⟩ := found
      obtain ⟨partToo, innerToo, deeper⟩ := ih inner rearranged
      obtain ⟨wholeToo, outerToo, result⟩ := frame.assemble_rearranged outer deeper
      exact ⟨wholeToo, ⟨relation, related, partToo, innerToo, outerToo⟩, result⟩

end Rearranged

section Commute

variable {resolver : Resolver} {context : Context .subNode .disjunction}
  {group : DisjunctionPhrase} {terminator : Leaf [.semicolon]} {rest : List Token}
  {order : List Nat} {parsed : Parsed}

/-- Wherever a disjunction stands in an accepted pattern, its branches may be put into any
other order. The pattern stays accepted and declares the same names, and in its tree nothing
changes but the order of the members of that disjunction. -/
theorem parse_tokens_branches_commute (several : 2 ≤ group.branches.length)
    (permutes : order.Perm (List.range group.branches.length))
    (accepted : parseTokens resolver (context.before ++ group.tokens ++ context.behind ++
      terminator.token :: rest) = .ok parsed) :
    ∃ (members : List Node) (other : Parsed),
      List.Forall₂ (fun branch member => branch.denote resolver = some member)
          group.branches members ∧
        parseTokens resolver (context.before ++ (group.reorder order).tokens ++ context.behind ++
          terminator.token :: rest) = .ok other ∧
        other.names = parsed.names ∧
        context.assemble resolver Relation.root (.coordination ⟨false, false, false⟩ members) =
          some parsed.top ∧
        context.assemble resolver Relation.root
          (.coordination ⟨false, false, false⟩ (rearrange order members)) = some other.top ∧
        Node.Rearranged order members parsed.root other.root := by
  obtain ⟨fits, relation, node, related, inner, assembled⟩ := Context.accepted_part accepted
  obtain ⟨members, each, rfl⟩ := (DisjunctionPhrase.denote_several several).1 inner
  have reordered : (group.reorder order).denote resolver =
      some (.coordination ⟨false, false, false⟩ (rearrange order members)) := by
    have branches := DisjunctionPhrase.reorder_branches permutes
    have severalToo : 2 ≤ (group.reorder order).branches.length := by
      rw [branches, (rearrange_perm permutes).length_eq]
      exact several
    apply (DisjunctionPhrase.denote_several severalToo).2
    rw [branches]
    exact ⟨rearrange order members, rearrange_related each order, rfl⟩
  have here : Node.Rearranged order members (.coordination ⟨false, false, false⟩ members)
      (.coordination ⟨false, false, false⟩ (rearrange order members)) := .here _ rfl
  obtain ⟨topToo, assembledToo, rearranged⟩ := context.assemble_rearranged assembled here
  have fitsToo := Nat.le_trans
    (context.fill_nesting_le (DisjunctionPhrase.reorder_nesting_le permutes)) fits
  -- Names are known or not as they were, and the same are known at the end.
  rw [each.length_eq] at permutes
  obtain ⟨names, behind, listed⟩ := parse_tokens_scope accepted
  obtain ⟨namesToo, behindToo, agrees⟩ := Node.Rearranged.scope_behind permutes rearranged behind
  have accepts := Context.other_accepted accepted fitsToo related reordered assembledToo behindToo
  exact ⟨members, _, each, accepts, by rw [listed, agrees.names], assembled, assembledToo, rearranged⟩

theorem parse_tokens_branches_commute_captures :
    ∃ (context : Context .subNode .disjunction) (group : DisjunctionPhrase)
      (terminator : Leaf [.semicolon]) (parsed other : Parsed) (members : List Node),
      2 ≤ group.branches.length ∧ [1, 0].Perm (List.range group.branches.length) ∧
        parseTokens .standard (context.before ++ group.tokens ++ context.behind ++
          terminator.token :: []) = .ok parsed ∧
        parsed.root.render = "S=s [< A=x | < B=x] < ~x".toList ∧
        parseTokens .standard (context.before ++ (group.reorder [1, 0]).tokens ++ context.behind ++
          terminator.token :: []) = .ok other ∧
        other.names = parsed.names ∧ Node.Rearranged [1, 0] members parsed.root other.root := by
  let link : ConstraintPhrase := .plain (.related (.plain (.word .operator "<") none)
    (.label ⟨none, none, .linked (.word .tilde "~") (.word .identifier "x") none⟩))
  let context : Context .subNode .disjunction :=
    .inside (.underNode (.captured "S" "s")) (.inside (.firstBranch .nil)
      (.inside (.firstConjunct (.cons none link .nil))
        (.inside .unmodified (.inside (.group (.word .leftBracket "[") (.word .rightBracket "]"))
          .hole))))
  let group : DisjunctionPhrase := .of (.of (.captured "A" "x") .nil)
    (.cons (.word .pipe "|") (.of (.captured "B" "x") .nil) .nil)
  have accepted : (parseTokens .standard (context.before ++ group.tokens ++ context.behind ++
      (Leaf.word .semicolon ";").token :: [])).toOption.map (·.root.render) =
        some "S=s [< A=x | < B=x] < ~x".toList := by decide +kernel
  obtain ⟨parsed, found, printed⟩ := Option.map_eq_some_iff.1 accepted
  have parses := to_option_eq_some.1 found
  have several : 2 ≤ group.branches.length := by decide
  have permutes : [1, 0].Perm (List.range group.branches.length) := by decide
  obtain ⟨members, other, -, accepts, names, -, -, rearranged⟩ :=
    parse_tokens_branches_commute several permutes parses
  exact ⟨context, group, .word .semicolon ";", parsed, other, members, several, permutes, parses,
    printed, accepts, names, rearranged⟩

end Commute

end TreeQuery.Grammar
