import TreeQuery.Proofs.Grammar.Modifiers
import TreeQuery.Proofs.Pattern.Same

/- Negating a group. One member stands for its group, and a negation is a mark that a
   node has or has not: on a group whose only member is negated itself, the second
   negation is lost. On every other group it changes the tree. -/
set_option autoImplicit false

namespace TreeQuery

theorem Description.same_negated (description : Description) :
    (description == { description with negated := true }) = description.negated := by
  by_cases marked : description.negated = true
  · have same : { description with negated := true } = description := by
      rw [← marked]
    rw [same, marked]
    exact BEq.refl description
  · obtain ⟨relation, negated, optional, descriptor⟩ := description
    have positive : negated = false := Bool.eq_false_iff.2 marked
    subst positive
    change (relation == relation && (false == true && _)) = false
    rw [show (false == true) = false from rfl, Bool.false_and, Bool.and_false]

theorem Coordination.same_negated (c : Coordination) :
    (c == { c with negated := true }) = c.negated := by
  obtain ⟨conjunctive, negated, optional⟩ := c
  cases negated <;> simp

theorem Node.same_negate (node : Node) : (node == node.negate) = node.isNegated := by
  cases node with
  | described description child =>
      change (description == { description with negated := true } && sameChild child child) = _
      rw [Description.same_negated, same_child_refl, Bool.and_true]
      rfl
  | coordination c members =>
      change (c == { c with negated := true } && sameMembers members members) = _
      rw [Coordination.same_negated, same_members_refl, Bool.and_true]
      rfl

theorem Described.same_attach (top : Described) (child other : Node) :
    ((top.attach child).toNode == (top.attach other).toNode) = (child == other) := by
  obtain ⟨description, earlier⟩ := top
  change Node.same _ _ = Node.same child other
  cases earlier with
  | none =>
      simp only [attach, toNode, Node.same, Node.sameChild, BEq.refl, Bool.true_and]
  | some earlier =>
      simp only [attach, toNode, Node.coordinate, Node.same, Node.sameChild, Node.sameMembers,
        Node.same_refl, BEq.refl, Bool.true_and, Bool.and_true]

namespace Grammar

variable {resolver : Resolver}

namespace PatternPhrase

def above (top : NodePhrase) (group : DisjunctionPhrase) (terminator : Leaf [.semicolon]) :
    PatternPhrase := ⟨.above top group, terminator⟩

def aboveNegated (top : NodePhrase) (bang : Leaf [.bang]) (opener : Leaf [.leftBracket])
    (group : DisjunctionPhrase) (closer : Leaf [.rightBracket]) (terminator : Leaf [.semicolon]) :
    PatternPhrase :=
  above top (.of (.of (.negated bang (.group opener group closer)) .nil) .nil) terminator

variable (top : NodePhrase) (bang : Leaf [.bang]) (opener : Leaf [.leftBracket])
  (group : DisjunctionPhrase) (closer : Leaf [.rightBracket]) (terminator : Leaf [.semicolon])
  (final : Token)

theorem above_tokens : (above top group terminator).tokens ++ [final] =
    top.tokens ++ (group.tokens ++ [terminator.token, final]) := by
  simp [above, PatternPhrase.tokens, SubNodePhrase.tokens]

theorem above_negated_tokens :
    (aboveNegated top bang opener group closer terminator).tokens ++ [final] =
      top.tokens ++ bang.token :: opener.token ::
        (group.tokens ++ [closer.token, terminator.token, final]) := by
  unfold aboveNegated
  rw [above_tokens]
  simp [DisjunctionPhrase.tokens, DisjunctsPhrase.tokens, ConjunctionPhrase.tokens,
    ConjunctsPhrase.tokens, ConstraintPhrase.tokens, PlainPhrase.tokens]

theorem above_denote : (above top group terminator).denote resolver =
    (top.denote resolver Relation.root).bind fun node =>
      (group.denote resolver).map node.attach := by
  change (SubNodePhrase.above top group).denote resolver Relation.root = _
  rw [SubNodePhrase.denote]
  simp only [beneath_eq_attach]
  cases group.denote resolver <;> rfl

theorem above_negated_denote :
    (aboveNegated top bang opener group closer terminator).denote resolver =
      (top.denote resolver Relation.root).bind fun node =>
        (group.denote resolver).map fun child => node.attach child.negate := by
  have negated : DisjunctionPhrase.denote resolver
      (.of (.of (.negated bang (.group opener group closer)) .nil) .nil) =
        (group.denote resolver).map Node.negate := by
    simp only [DisjunctionPhrase.denote, DisjunctsPhrase.denote, ConjunctionPhrase.denote,
      ConjunctsPhrase.denote, ConstraintPhrase.denote_negated_eq, PlainPhrase.denote]
    cases group.denote resolver <;> rfl
  unfold aboveNegated
  rw [above_denote, negated]
  simp only [Option.map_map]
  rfl

end PatternPhrase

/-- Negating the group beneath a node leaves the tree as it was just if the group stands for a
single constraint that is negated already; a negation of any other group shows. -/
theorem parse_tokens_negated_group (resolver : Resolver) (top : NodePhrase)
    (group : DisjunctionPhrase) (bang : Leaf [.bang]) (opener : Leaf [.leftBracket])
    (closer : Leaf [.rightBracket]) (terminator : Leaf [.semicolon]) (final : Token)
    (ended : final.kind = .endOfInput) (plain negated : Parsed)
    (accepted : parseTokens resolver
      (top.tokens ++ (group.tokens ++ [terminator.token, final])) = .ok plain)
    (acceptedNegated : parseTokens resolver
      (top.tokens ++ bang.token :: opener.token ::
        (group.tokens ++ [closer.token, terminator.token, final])) = .ok negated) :
    (plain.root == negated.root) = group.carries .negation := by
  rw [← PatternPhrase.above_tokens] at accepted
  rw [← PatternPhrase.above_negated_tokens] at acceptedNegated
  have denoted := parse_tokens_denotes ended accepted
  have denotedNegated := parse_tokens_denotes ended acceptedNegated
  rw [PatternPhrase.above_denote] at denoted
  rw [PatternPhrase.above_negated_denote] at denotedNegated
  obtain ⟨node, found, beneath⟩ := Option.bind_eq_some_iff.1 denoted
  obtain ⟨child, foundChild, same⟩ := Option.map_eq_some_iff.1 beneath
  rw [found, Option.bind_some, foundChild, Option.map_some, Option.some_inj] at denotedNegated
  unfold Parsed.root
  rw [← same, ← denotedNegated, Described.same_attach, Node.same_negate]
  exact group.denote_carries .negation foundChild

theorem parse_tokens_negated_group_dominance :
    ∃ (tokens others : List Token) (plain negated : Parsed),
      parseTokens .standard tokens = .ok plain ∧ parseTokens .standard others = .ok negated ∧
        plain.root.render = "S < A".toList ∧ negated.root.render = "S !< A".toList ∧
          (plain.root == negated.root) = false := by
  let top : NodePhrase := .plain "S"
  let group : DisjunctionPhrase := .of (.of (.plain (.child "A")) .nil) .nil
  let bang : Leaf [.bang] := .word .bang "!"
  let opener : Leaf [.leftBracket] := .word .leftBracket "["
  let closer : Leaf [.rightBracket] := .word .rightBracket "]"
  let terminator : Leaf [.semicolon] := .word .semicolon ";"
  let final : Token := ⟨.endOfInput, [], .nowhere⟩
  have accepted : (parseTokens .standard (top.tokens ++ (group.tokens ++
      [terminator.token, final]))).toOption.map (·.root.render) = some "S < A".toList := by
    decide +kernel
  have acceptedNegated : (parseTokens .standard (top.tokens ++ bang.token :: opener.token ::
      (group.tokens ++ [closer.token, terminator.token, final]))).toOption.map (·.root.render) =
        some "S !< A".toList := by decide +kernel
  obtain ⟨plain, found, printed⟩ := Option.map_eq_some_iff.1 accepted
  obtain ⟨negated, foundNegated, printedNegated⟩ := Option.map_eq_some_iff.1 acceptedNegated
  have parses := to_option_eq_some.1 found
  have parsesNegated := to_option_eq_some.1 foundNegated
  exact ⟨_, _, plain, negated, parses, parsesNegated, printed, printedNegated,
    parse_tokens_negated_group .standard top group bang opener closer terminator final rfl plain
      negated parses parsesNegated⟩

-- A second negation around a negated constraint goes unnoticed.
theorem negated_group_unchanged :
    ∃ (group : DisjunctionPhrase) (plain negated : Parsed),
      group.tokens = [⟨.bang, ['!'], .nowhere⟩, ⟨.operator, ['<'], .nowhere⟩,
        ⟨.identifier, ['A'], .nowhere⟩] ∧
      parseTokens .standard (⟨.identifier, ['S'], .nowhere⟩ :: (group.tokens ++
        [⟨.semicolon, [';'], .nowhere⟩, ⟨.endOfInput, [], .nowhere⟩])) = .ok plain ∧
      parseTokens .standard (⟨.identifier, ['S'], .nowhere⟩ :: ⟨.bang, ['!'], .nowhere⟩ ::
        ⟨.leftBracket, ['['], .nowhere⟩ :: (group.tokens ++ [⟨.rightBracket, [']'], .nowhere⟩,
          ⟨.semicolon, [';'], .nowhere⟩, ⟨.endOfInput, [], .nowhere⟩])) = .ok negated ∧
      (plain.root == negated.root) = true := by
  have unchanged : ((parseTokens .standard
      [⟨.identifier, ['S'], .nowhere⟩, ⟨.bang, ['!'], .nowhere⟩, ⟨.operator, ['<'], .nowhere⟩,
        ⟨.identifier, ['A'], .nowhere⟩, ⟨.semicolon, [';'], .nowhere⟩,
        ⟨.endOfInput, [], .nowhere⟩]).toOption.bind fun plain =>
      (parseTokens .standard
        [⟨.identifier, ['S'], .nowhere⟩, ⟨.bang, ['!'], .nowhere⟩, ⟨.leftBracket, ['['], .nowhere⟩,
          ⟨.bang, ['!'], .nowhere⟩, ⟨.operator, ['<'], .nowhere⟩, ⟨.identifier, ['A'], .nowhere⟩,
          ⟨.rightBracket, [']'], .nowhere⟩, ⟨.semicolon, [';'], .nowhere⟩,
          ⟨.endOfInput, [], .nowhere⟩]).toOption.map fun negated => plain.root == negated.root) =
      some true := by decide +kernel
  obtain ⟨plain, found, others⟩ := Option.bind_eq_some_iff.1 unchanged
  obtain ⟨negated, foundNegated, same⟩ := Option.map_eq_some_iff.1 others
  exact ⟨.of (.of (.negated ⟨⟨.bang, ['!'], .nowhere⟩, by decide⟩
      (.related (.plain ⟨⟨.operator, ['<'], .nowhere⟩, by decide⟩ none)
        (.label ⟨none, none, .labelled ⟨⟨.identifier, ['A'], .nowhere⟩, by decide⟩ [] none⟩)))
      .nil) .nil, plain, negated, rfl, to_option_eq_some.1 found, to_option_eq_some.1 foundNegated,
    same⟩

end Grammar

end TreeQuery
