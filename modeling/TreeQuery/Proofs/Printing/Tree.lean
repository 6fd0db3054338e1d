import TreeQuery.Proofs.Printing.Nesting
import TreeQuery.Proofs.Printing.Readable

/- Readable trees are printed in a way that reads back as the same tree, if no node
   carries both modifiers: of two marks before a constraint the grammar takes one. -/
set_option autoImplicit false

namespace TreeQuery

open Grammar

namespace Node

-- No node is both negated and optional.
abbrev Exclusive (root : Node) : Prop :=
  root.Everywhere fun node => ¬ (node.isNegated = true ∧ node.isOptional = true)

def modify (negated optional : Bool) (node : Node) : Node :=
  if negated then node.negate else if optional then node.makeOptional else node

theorem modify_described (description : Description) (child : Option Node)
    (exclusive : ¬ (description.negated = true ∧ description.optional = true)) :
    modify description.negated description.optional
      (.described { description with negated := false, optional := false } child) =
        .described description child := by
  obtain ⟨relation, negated, optional⟩ := description
  cases negated <;> cases optional <;> first | rfl | exact absurd ⟨rfl, rfl⟩ exclusive

theorem modify_coordination (c : Coordination) (members : List Node)
    (exclusive : ¬ (c.negated = true ∧ c.optional = true)) :
    modify c.negated c.optional (.coordination ⟨c.conjunctive, false, false⟩ members) =
      .coordination c members := by
  obtain ⟨conjunctive, negated, optional⟩ := c
  cases negated <;> cases optional <;> first | rfl | exact absurd ⟨rfl, rfl⟩ exclusive

end Node

-- The tokens are a phrase that denotes the tree and is nested so deep.

section Spelt

variable (resolver : Resolver)

def SpeltNode (relation : Relation) (top : Described) (depth : Nat) (tokens : List Token) : Prop :=
  ∃ phrase : NodePhrase, phrase.tokens = tokens ∧ phrase.denote resolver relation = some top ∧
    phrase.nesting = depth

def SpeltSubNode (relation : Relation) (top : Described) (depth : Nat) (tokens : List Token) : Prop :=
  ∃ phrase : SubNodePhrase, phrase.tokens = tokens ∧ phrase.denote resolver relation = some top ∧
    phrase.nesting = depth

def SpeltPlain (node : Node) (depth : Nat) (tokens : List Token) : Prop :=
  ∃ phrase : PlainPhrase, phrase.tokens = tokens ∧ phrase.denote resolver = some node ∧
    phrase.nesting = depth

def SpeltConstraint (node : Node) (depth : Nat) (tokens : List Token) : Prop :=
  ∃ phrase : ConstraintPhrase, phrase.tokens = tokens ∧ phrase.denote resolver = some node ∧
    phrase.nesting = depth

def SpeltConjunction (node : Node) (depth : Nat) (tokens : List Token) : Prop :=
  ∃ phrase : ConjunctionPhrase, phrase.tokens = tokens ∧ phrase.denote resolver = some node ∧
    phrase.nesting = depth

def SpeltDisjunction (node : Node) (depth : Nat) (tokens : List Token) : Prop :=
  ∃ phrase : DisjunctionPhrase, phrase.tokens = tokens ∧ phrase.denote resolver = some node ∧
    phrase.nesting = depth

def SpeltConjuncts (nodes : List Node) (depth : Nat) (tokens : List Token) : Prop :=
  ∃ (first : ConstraintPhrase) (others : ConjunctsPhrase) (head : Node) (tail : List Node),
    nodes = head :: tail ∧ first.tokens ++ others.tokens = tokens ∧
      first.denote resolver = some head ∧ others.denote resolver = some tail ∧
        max first.nesting others.nesting = depth

def SpeltDisjuncts (nodes : List Node) (depth : Nat) (tokens : List Token) : Prop :=
  ∃ (first : ConjunctionPhrase) (others : DisjunctsPhrase) (head : Node) (tail : List Node),
    nodes = head :: tail ∧ first.tokens ++ others.tokens = tokens ∧
      first.denote resolver = some head ∧ others.denote resolver = some tail ∧
        max first.nesting others.nesting = depth

end Spelt

variable {resolver : Resolver} {relation : Relation} {description : Description} {node : Node}
  {nodes : List Node} {depth : Nat} {tokens : List Token} {text : Text}

theorem SpeltConstraint.conjunction (spelt : SpeltConstraint resolver node depth tokens) :
    SpeltConjunction resolver node depth tokens := by
  obtain ⟨phrase, rfl, denoted, rfl⟩ := spelt
  refine ⟨.of phrase .nil, ?_, ?_, ?_⟩
  · rw [ConjunctionPhrase.tokens, ConjunctsPhrase.tokens, List.append_nil]
  · simp [ConjunctionPhrase.denote, ConjunctsPhrase.denote, denoted, gathered]
  · rw [ConjunctionPhrase.nesting, ConjunctsPhrase.nesting, Nat.max_zero]

theorem SpeltConjunction.disjunction (spelt : SpeltConjunction resolver node depth tokens) :
    SpeltDisjunction resolver node depth tokens := by
  obtain ⟨phrase, rfl, denoted, rfl⟩ := spelt
  refine ⟨.of phrase .nil, ?_, ?_, ?_⟩
  · rw [DisjunctionPhrase.tokens, DisjunctsPhrase.tokens, List.append_nil]
  · simp [DisjunctionPhrase.denote, DisjunctsPhrase.denote, denoted, gathered]
  · rw [DisjunctionPhrase.nesting, DisjunctsPhrase.nesting, Nat.max_zero]

theorem SpeltConjuncts.conjunction (several : 2 ≤ nodes.length)
    (spelt : SpeltConjuncts resolver nodes depth tokens) :
    SpeltConjunction resolver (.coordination ⟨true, false, false⟩ nodes) depth tokens := by
  obtain ⟨first, others, head, tail, rfl, rfl, foundFirst, foundOthers, rfl⟩ := spelt
  refine ⟨.of first others, by rw [ConjunctionPhrase.tokens], ?_, by rw [ConjunctionPhrase.nesting]⟩
  cases tail with
  | nil => simp at several
  | cons second tail =>
      simp [ConjunctionPhrase.denote, foundFirst, foundOthers, gathered]

theorem SpeltDisjuncts.disjunction (several : 2 ≤ nodes.length)
    (spelt : SpeltDisjuncts resolver nodes depth tokens) :
    SpeltDisjunction resolver (.coordination ⟨false, false, false⟩ nodes) depth tokens := by
  obtain ⟨first, others, head, tail, rfl, rfl, foundFirst, foundOthers, rfl⟩ := spelt
  refine ⟨.of first others, by rw [DisjunctionPhrase.tokens], ?_, by rw [DisjunctionPhrase.nesting]⟩
  cases tail with
  | nil => simp at several
  | cons second tail =>
      simp [DisjunctionPhrase.denote, foundFirst, foundOthers, gathered]

namespace Spells

theorem bracketed (spells : Spells text Boundary (SpeltDisjunction resolver node depth)) :
    Spells ('[' :: (text ++ [']'])) Boundary (SpeltPlain resolver node (depth + 1)) := by
  refine mark (by decide : (.leftBracket, '[') ∈ marks) (by decide) fun opener => ?_
  refine spells.append (fun rest _ => boundary_cons rest rfl (by decide)) ?_
  rintro _ ⟨members, rfl, denoted, rfl⟩
  refine mark (by decide : (.rightBracket, ']') ∈ marks) (by decide) fun closer => nil ?_
  exact ⟨.group opener members closer, by rw [PlainPhrase.tokens],
    by rw [PlainPhrase.denote, denoted], by rw [PlainPhrase.nesting]⟩

theorem modified {negated optional : Bool} (exclusive : ¬ (negated = true ∧ optional = true))
    (spells : Spells text Boundary (SpeltPlain resolver node depth)) :
    Spells (renderModifiers negated optional ++ text) Boundary
      (SpeltConstraint resolver (node.modify negated optional) depth) := by
  cases negated with
  | true =>
      have plain : optional = false := by simpa using exclusive
      subst plain
      refine mark (by decide : (.bang, '!') ∈ marks) (by decide) fun bang => spells.mono ?_
      rintro _ ⟨phrase, rfl, denoted, rfl⟩
      exact ⟨.negated bang phrase, by rw [ConstraintPhrase.tokens],
        by simp [ConstraintPhrase.denote_negated_eq, denoted, Node.modify],
        by rw [ConstraintPhrase.nesting]⟩
  | false =>
      cases optional with
      | true =>
          refine mark (by decide : (.question, '?') ∈ marks) (by decide) fun question =>
            spells.mono ?_
          rintro _ ⟨phrase, rfl, denoted, rfl⟩
          exact ⟨.optional question phrase, by rw [ConstraintPhrase.tokens],
            by simp [ConstraintPhrase.denote_optional_eq, denoted, Node.modify],
            by rw [ConstraintPhrase.nesting]⟩
      | false =>
          refine spells.mono ?_
          rintro _ ⟨phrase, rfl, denoted, rfl⟩
          exact ⟨.plain phrase, by rw [ConstraintPhrase.tokens],
            by simp [ConstraintPhrase.denote, denoted, Node.modify], by rw [ConstraintPhrase.nesting]⟩

theorem labelled (relation : Relation) (label : description.LabelReads resolver) :
    Spells description.renderLabel Boundary (SpeltNode resolver relation
      ⟨{ description with relation, negated := false, optional := false }, none⟩ 0) := by
  refine label.mono ?_
  rintro _ ⟨phrase, rfl, denoted⟩
  exact ⟨.label phrase, by rw [NodePhrase.tokens], by simp [NodePhrase.denote, denoted],
    by rw [NodePhrase.nesting]⟩

theorem headed (label : description.LabelReads resolver)
    (below : Spells text Boundary (SpeltDisjunction resolver node depth)) :
    Spells (description.renderLabel ++ ' ' :: text) Boundary (SpeltSubNode resolver relation
      ⟨{ description with relation, negated := false, optional := false }, some node⟩ depth) := by
  refine (labelled relation label).append (fun rest _ => boundary_cons _ rfl (by decide)) ?_
  rintro _ ⟨phrase, rfl, denoted, flat⟩
  refine gap (below.mono ?_)
  rintro _ ⟨children, rfl, found, rfl⟩
  exact ⟨.above phrase children, by rw [SubNodePhrase.tokens],
    by simp [SubNodePhrase.denote, denoted, found, beneath],
    by rw [SubNodePhrase.nesting, flat, Nat.zero_max]⟩

theorem enclosed {top : Described}
    (spells : Spells text Boundary (SpeltSubNode resolver relation top depth)) :
    Spells ('(' :: (text ++ [')'])) Boundary (SpeltNode resolver relation top (depth + 1)) := by
  refine mark (by decide : (.leftParen, '(') ∈ marks) (by decide) fun opener => ?_
  refine spells.append (fun rest _ => boundary_cons rest rfl (by decide)) ?_
  rintro _ ⟨phrase, rfl, denoted, rfl⟩
  refine mark (by decide : (.rightParen, ')') ∈ marks) (by decide) fun closer => nil ?_
  exact ⟨.enclosed opener phrase closer, by rw [NodePhrase.tokens],
    by rw [NodePhrase.denote, denoted], by rw [NodePhrase.nesting]⟩

theorem related {top : Described} (reads : relation.Reads resolver)
    (target : Spells text Boundary (SpeltNode resolver relation top depth)) :
    Spells (relation.render ++ ' ' :: text) Boundary
      (SpeltPlain resolver top.toNode (depth + 1)) := by
  refine reads.spells.append (fun rest _ => ⟨text ++ rest, rfl⟩) ?_
  rintro _ ⟨operation, rfl, denoted⟩
  refine gap (target.mono ?_)
  rintro _ ⟨phrase, rfl, found, rfl⟩
  exact ⟨.related operation phrase, by rw [PlainPhrase.tokens],
    by simp [PlainPhrase.denote, denoted, found], by rw [PlainPhrase.nesting]⟩

theorem describedNode {child : Option Node} (reads : description.relation.Reads resolver)
    (label : description.LabelReads resolver)
    (exclusive : ¬ (description.negated = true ∧ description.optional = true))
    (below : ∀ node, child = some node → Spells (node.renderIn false) Boundary
      (SpeltDisjunction resolver node (node.printedNesting false))) (inConjunction : Bool) :
    Spells ((Node.described description child).renderIn inConjunction) Boundary
      (SpeltConstraint resolver (.described description child)
        ((Node.described description child).printedNesting inConjunction)) := by
  rw [Node.renderIn, Description.renderWith, Node.printedNesting, Description.nestingWith,
    reads.notRoot, if_neg Bool.false_ne_true, if_neg Bool.false_ne_true, List.append_assoc,
    List.append_assoc, ← Node.modify_described description child exclusive]
  refine modified exclusive ?_
  cases child with
  | none =>
      simp only [Option.isSome_none, Bool.false_eq_true, if_false, Node.renderChild, List.append_nil]
      exact related reads (labelled description.relation label)
  | some node =>
      simp only [Option.isSome_some, if_true, Node.renderChild]
      have spells := related reads (enclosed (headed label (below node rfl)))
      simpa [Described.toNode, Node.printedNestingOfChild] using spells

theorem bracketedCoordination {c : Coordination} {inConjunction : Bool}
    (bracketed : c.isBracketed inConjunction = true)
    (exclusive : ¬ (c.negated = true ∧ c.optional = true)) {members : List Text}
    (spells : Spells (Text.join c.separator members) Boundary
      (SpeltDisjunction resolver (.coordination ⟨c.conjunctive, false, false⟩ nodes) depth)) :
    Spells (c.renderWith inConjunction members) Boundary
      (SpeltConstraint resolver (.coordination c nodes) (c.nestingWith inConjunction depth)) := by
  rw [Coordination.renderWith, Coordination.nestingWith, if_pos bracketed, if_pos bracketed,
    ← Node.modify_coordination c nodes exclusive]
  exact modified exclusive (by simpa using spells.bracketed)

end Spells

mutual

theorem Node.renders : (node : Node) → node.Readable resolver → node.Exclusive →
    Spells (node.renderIn true) Boundary
        (SpeltConstraint resolver node (node.printedNesting true)) ∧
      Spells (node.renderIn false) Boundary
        (SpeltConjunction resolver node (node.printedNesting false))
  | .described description child, readable, exclusive => by
      obtain ⟨⟨reads, label⟩, readableBelow⟩ := Node.everywhere_described.1 readable
      obtain ⟨single, exclusiveBelow⟩ := Node.everywhere_described.1 exclusive
      have spells := Spells.describedNode reads label single
        (Node.child_renders child readableBelow exclusiveBelow)
      exact ⟨spells true, (spells false).mono fun _ => SpeltConstraint.conjunction⟩
  | .coordination c members, readable, exclusive => by
      obtain ⟨several, readableBelow⟩ := Node.everywhere_coordination.1 readable
      obtain ⟨single, exclusiveBelow⟩ := Node.everywhere_coordination.1 exclusive
      have nonempty : members ≠ [] := by
        rintro rfl
        cases several
      obtain ⟨conjuncts, disjuncts⟩ :=
        Node.members_render members readableBelow exclusiveBelow nonempty
      obtain ⟨conjunctive, negated, optional⟩ := c
      cases conjunctive with
      | false =>
          have body : Spells (Text.join [' ', '|', ' '] (renderMembers false members)) Boundary
              (SpeltDisjunction resolver (.coordination ⟨false, false, false⟩ members) _) :=
            disjuncts.mono fun _ => SpeltDisjuncts.disjunction several
          have bracketed : ∀ inConjunction,
              Coordination.isBracketed ⟨false, negated, optional⟩ inConjunction = true := by
            simp [Coordination.isBracketed]
          exact ⟨Spells.bracketedCoordination (bracketed true) single body,
            (Spells.bracketedCoordination (bracketed false) single body).mono
              fun _ => SpeltConstraint.conjunction⟩
      | true =>
          have body : Spells (Text.join [' '] (renderMembers true members)) Boundary
              (SpeltConjunction resolver (.coordination ⟨true, false, false⟩ members) _) :=
            conjuncts.mono fun _ => SpeltConjuncts.conjunction several
          have whole := body.mono fun _ => SpeltConjunction.disjunction
          refine ⟨Spells.bracketedCoordination (by simp [Coordination.isBracketed]) single whole, ?_⟩
          -- A plain conjunction outside of another one is printed without brackets.
          cases bracketed : Coordination.isBracketed ⟨true, negated, optional⟩ false with
          | true =>
              exact (Spells.bracketedCoordination bracketed single whole).mono
                fun _ => SpeltConstraint.conjunction
          | false =>
              obtain ⟨rfl, rfl⟩ : negated = false ∧ optional = false := by
                simpa [Coordination.isBracketed] using bracketed
              exact body

theorem Node.child_renders : (child : Option Node) →
    (∀ node, child = some node → node.Readable resolver) →
      (∀ node, child = some node → node.Exclusive) →
        ∀ node, child = some node → Spells (node.renderIn false) Boundary
          (SpeltDisjunction resolver node (node.printedNesting false))
  | none, _, _ => fun _ same => by cases same
  | some node, readable, exclusive => by
      rintro _ ⟨⟩
      exact (Node.renders node (readable node rfl) (exclusive node rfl)).2.mono
        fun _ => SpeltConjunction.disjunction

theorem Node.members_render : (nodes : List Node) → (∀ node ∈ nodes, node.Readable resolver) →
    (∀ node ∈ nodes, node.Exclusive) → nodes ≠ [] →
      Spells (Text.join [' '] (renderMembers true nodes)) Boundary
          (SpeltConjuncts resolver nodes (printedNestingOfMembers true nodes)) ∧
        Spells (Text.join [' ', '|', ' '] (renderMembers false nodes)) Boundary
          (SpeltDisjuncts resolver nodes (printedNestingOfMembers false nodes))
  | [], _, _, nonempty => absurd rfl nonempty
  | [node], readable, exclusive, _ => by
      obtain ⟨constraint, conjunction⟩ := Node.renders node (readable node (by simp))
        (exclusive node (by simp))
      refine ⟨constraint.mono ?_, conjunction.mono ?_⟩
      · rintro _ ⟨phrase, rfl, denoted, deep⟩
        exact ⟨phrase, .nil, node, [], rfl, by simp [ConjunctsPhrase.tokens], denoted,
          by rw [ConjunctsPhrase.denote],
          by rw [printedNestingOfMembers, printedNestingOfMembers, ConjunctsPhrase.nesting, deep]⟩
      · rintro _ ⟨phrase, rfl, denoted, deep⟩
        exact ⟨phrase, .nil, node, [], rfl, by simp [DisjunctsPhrase.tokens], denoted,
          by rw [DisjunctsPhrase.denote],
          by rw [printedNestingOfMembers, printedNestingOfMembers, DisjunctsPhrase.nesting, deep]⟩
  | node :: second :: nodes, readable, exclusive, _ => by
      obtain ⟨constraint, conjunction⟩ := Node.renders node (readable node (by simp))
        (exclusive node (by simp))
      obtain ⟨conjuncts, disjuncts⟩ := Node.members_render (second :: nodes)
        (fun other inside => readable other (List.mem_cons_of_mem _ inside))
        (fun other inside => exclusive other (List.mem_cons_of_mem _ inside)) (List.cons_ne_nil _ _)
      constructor
      · change Spells (node.renderIn true ++ [' '] ++ _) Boundary _
        rw [List.append_assoc]
        refine constraint.append (fun rest _ => boundary_cons _ rfl (by decide)) ?_
        rintro _ ⟨phrase, rfl, denoted, deep⟩
        refine Spells.gap (conjuncts.mono ?_)
        rintro _ ⟨first, others, head, tail, same, rfl, foundFirst, foundOthers, deepOthers⟩
        refine ⟨phrase, .cons none first others, node, second :: nodes, rfl, ?_, denoted, ?_, ?_⟩
        · simp [ConjunctsPhrase.tokens, optionalTokens]
        · simp [ConjunctsPhrase.denote, foundFirst, foundOthers, same]
        · rw [ConjunctsPhrase.nesting, deep, deepOthers, ← printedNestingOfMembers]
      · change Spells (node.renderIn false ++ [' ', '|', ' '] ++ _) Boundary _
        rw [List.append_assoc]
        refine conjunction.append (fun rest _ => boundary_cons _ rfl (by decide)) ?_
        rintro _ ⟨phrase, rfl, denoted, deep⟩
        refine Spells.gap (Spells.mark (by decide : (.pipe, '|') ∈ marks) (by decide) fun bar =>
          Spells.gap (disjuncts.mono ?_))
        rintro _ ⟨first, others, head, tail, same, rfl, foundFirst, foundOthers, deepOthers⟩
        refine ⟨phrase, .cons bar first others, node, second :: nodes, rfl, ?_, denoted, ?_, ?_⟩
        · simp [DisjunctsPhrase.tokens]
        · simp [DisjunctsPhrase.denote, foundFirst, foundOthers, same]
        · rw [DisjunctsPhrase.nesting, deep, deepOthers, ← printedNestingOfMembers]

end

end TreeQuery
