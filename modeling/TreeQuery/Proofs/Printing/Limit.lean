import TreeQuery.Proofs.Grammar.Modifiers

/- When a printed pattern is nested too deep to be read back. Parentheses that the text has
   beyond need are not printed, but brackets are added: around every disjunction, and around
   a group that joins another one below the same node. So what is printed is at most half as
   deep again as what was read. -/
set_option autoImplicit false

namespace TreeQuery

open Grammar

namespace Node

theorem printed_nesting_mark (modifier : Modifier) (node : Node) :
    (modifier.mark node).printedNesting true = node.printedNesting true := by
  cases node with
  | described description child => cases modifier <;> rfl
  | coordination c members =>
      have bracketed (c : Coordination) : c.isBracketed true = true := Bool.or_true _
      cases modifier <;>
        simp only [Modifier.mark, negate, makeOptional, printedNesting, Coordination.nestingWith,
          bracketed]

section Bound

variable {inConjunction : Bool} {first : Node} {others : List Node} {slack bound : Nat}

theorem printed_nesting_members
    (fits : ∀ node ∈ first :: others, 2 * node.printedNesting inConjunction + slack ≤ bound) :
    2 * printedNestingOfMembers inConjunction (first :: others) + slack ≤ bound := by
  induction others generalizing first with
  | nil =>
      rw [printedNestingOfMembers, printedNestingOfMembers, Nat.max_zero]
      exact fits first List.mem_cons_self
  | cons second others ih =>
      obtain ⟨boundFirst, boundOthers⟩ := List.forall_mem_cons.1 fits
      have bound := ih boundOthers
      rw [printedNestingOfMembers]
      omega

theorem printed_nesting_conjunction
    (fits : ∀ node ∈ first :: others, 2 * node.printedNesting true + slack ≤ bound) :
    2 * (gathered true first others).printedNesting false + slack ≤ bound := by
  cases others with
  | nil =>
      have boundFirst := fits first List.mem_cons_self
      have within := first.printed_nesting_within
      rw [gathered]
      omega
  | cons second others => exact printed_nesting_members fits

theorem printed_nesting_disjunction
    (fits : ∀ node ∈ first :: others, 2 * node.printedNesting false + slack ≤ bound) :
    2 * (gathered false first others).printedNesting true + slack ≤ bound + 2 := by
  cases others with
  | nil =>
      have boundFirst := fits first List.mem_cons_self
      have within := first.printed_nesting_within
      rw [gathered]
      omega
  | cons second others =>
      have boundMembers := printed_nesting_members fits
      change 2 * (printedNestingOfMembers false (first :: second :: others) + 1) + slack ≤ _
      omega

end Bound

end Node

variable {resolver : Resolver}

namespace Grammar

mutual

theorem NodePhrase.printed_nesting {relation : Relation} : (phrase : NodePhrase) →
    ∀ {top : Described}, phrase.denote resolver relation = some top →
      ∀ child, top.child = some child → 2 * child.printedNesting false + 2 ≤ 3 * phrase.nesting
  | .enclosed opener inner closer, top, denoted, child, below => by
      rw [NodePhrase.denote] at denoted
      have bound := inner.printed_nesting denoted child below
      rw [NodePhrase.nesting]
      omega
  | .label description, top, denoted, child, below => by
      rw [NodePhrase.denote] at denoted
      obtain ⟨found, -, rfl⟩ := Option.map_eq_some_iff.1 denoted
      cases below

theorem SubNodePhrase.printed_nesting {relation : Relation} : (phrase : SubNodePhrase) →
    ∀ {top : Described}, phrase.denote resolver relation = some top →
      ∀ child, top.child = some child → 2 * child.printedNesting false ≤ 3 * phrase.nesting + 1
  | .alone node, top, denoted, child, below => by
      rw [SubNodePhrase.denote] at denoted
      have bound := node.printed_nesting denoted child below
      rw [SubNodePhrase.nesting]
      omega
  | .above node children, top, denoted, child, below => by
      obtain ⟨⟨description, earlier⟩, added, found, meant, rfl⟩ := SubNodePhrase.denote_above.1 denoted
      have boundAdded := children.printed_nesting meant
      rw [SubNodePhrase.nesting]
      cases earlier with
      | none =>
          obtain rfl : added = child := Option.some.inj below
          have within := added.printed_nesting_within
          omega
      | some earlier =>
          obtain rfl : gathered true earlier [added] = child := Option.some.inj below
          have boundEarlier := node.printed_nesting found earlier rfl
          have within := earlier.printed_nesting_within
          have fits : ∀ other ∈ [earlier, added],
              2 * other.printedNesting true + 0 ≤ 3 * max node.nesting children.nesting + 1 := by
            rw [List.forall_mem_cons, List.forall_mem_singleton]
            omega
          exact Node.printed_nesting_conjunction fits

theorem DisjunctionPhrase.printed_nesting : (phrase : DisjunctionPhrase) → ∀ {node : Node},
    phrase.denote resolver = some node → 2 * node.printedNesting true ≤ 3 * phrase.nesting + 1
  | .of first others, node, denoted => by
      obtain ⟨head, tail, found, behind, rfl⟩ := DisjunctionPhrase.denote_of.1 denoted
      have boundFirst := first.printed_nesting found
      have boundOthers := others.printed_nesting behind
      rw [DisjunctionPhrase.nesting]
      have fits : ∀ node ∈ head :: tail,
          2 * node.printedNesting false + 1 ≤ 3 * max first.nesting others.nesting := by
        rw [List.forall_mem_cons]
        constructor
        · omega
        · intro node inside
          have bound := boundOthers node inside
          omega
      have bound := Node.printed_nesting_disjunction fits
      omega

theorem DisjunctsPhrase.printed_nesting : (phrase : DisjunctsPhrase) → ∀ {nodes : List Node},
    phrase.denote resolver = some nodes →
      ∀ node ∈ nodes, 2 * node.printedNesting false + 1 ≤ 3 * phrase.nesting
  | .nil, nodes, denoted => by
      cases denoted
      exact List.forall_mem_nil _
  | .cons bar next others, nodes, denoted => by
      obtain ⟨head, tail, found, behind, rfl⟩ := DisjunctsPhrase.denote_cons.1 denoted
      have boundNext := next.printed_nesting found
      have boundOthers := others.printed_nesting behind
      rw [List.forall_mem_cons, DisjunctsPhrase.nesting]
      constructor
      · omega
      · intro node inside
        have bound := boundOthers node inside
        omega

theorem ConjunctionPhrase.printed_nesting : (phrase : ConjunctionPhrase) → ∀ {node : Node},
    phrase.denote resolver = some node → 2 * node.printedNesting false + 1 ≤ 3 * phrase.nesting
  | .of first others, node, denoted => by
      obtain ⟨head, tail, found, behind, rfl⟩ := ConjunctionPhrase.denote_of.1 denoted
      have boundFirst := first.printed_nesting found
      have boundOthers := others.printed_nesting behind
      rw [ConjunctionPhrase.nesting]
      have fits : ∀ node ∈ head :: tail,
          2 * node.printedNesting true + 1 ≤ 3 * max first.nesting others.nesting := by
        rw [List.forall_mem_cons]
        constructor
        · omega
        · intro node inside
          have bound := boundOthers node inside
          omega
      exact Node.printed_nesting_conjunction fits

theorem ConjunctsPhrase.printed_nesting : (phrase : ConjunctsPhrase) → ∀ {nodes : List Node},
    phrase.denote resolver = some nodes →
      ∀ node ∈ nodes, 2 * node.printedNesting true + 1 ≤ 3 * phrase.nesting
  | .nil, nodes, denoted => by
      cases denoted
      exact List.forall_mem_nil _
  | .cons joint next others, nodes, denoted => by
      obtain ⟨head, tail, found, behind, rfl⟩ := ConjunctsPhrase.denote_cons.1 denoted
      have boundNext := next.printed_nesting found
      have boundOthers := others.printed_nesting behind
      rw [List.forall_mem_cons, ConjunctsPhrase.nesting]
      constructor
      · omega
      · intro node inside
        have bound := boundOthers node inside
        omega

theorem ConstraintPhrase.printed_nesting : (phrase : ConstraintPhrase) → ∀ {node : Node},
    phrase.denote resolver = some node → 2 * node.printedNesting true + 1 ≤ 3 * phrase.nesting
  | .plain constraint, node, denoted => by
      rw [ConstraintPhrase.denote] at denoted
      rw [ConstraintPhrase.nesting]
      exact constraint.printed_nesting denoted
  | .negated bang constraint, node, denoted => by
      obtain ⟨inner, found, rfl⟩ := ConstraintPhrase.denote_negated.1 denoted
      have same := Node.printed_nesting_mark .negation inner
      rw [ConstraintPhrase.nesting, ← Modifier.mark, same]
      exact constraint.printed_nesting found
  | .optional question constraint, node, denoted => by
      obtain ⟨inner, found, rfl⟩ := ConstraintPhrase.denote_optional.1 denoted
      have same := Node.printed_nesting_mark .option inner
      rw [ConstraintPhrase.nesting, ← Modifier.mark, same]
      exact constraint.printed_nesting found

theorem PlainPhrase.printed_nesting : (phrase : PlainPhrase) → ∀ {node : Node},
    phrase.denote resolver = some node → 2 * node.printedNesting true + 1 ≤ 3 * phrase.nesting
  | .group opener members closer, node, denoted => by
      rw [PlainPhrase.denote] at denoted
      have bound := members.printed_nesting denoted
      rw [PlainPhrase.nesting]
      omega
  | .related operation target, node, denoted => by
      obtain ⟨relation, ⟨description, child⟩, -, meant, rfl⟩ := PlainPhrase.denote_related.1 denoted
      rw [PlainPhrase.nesting, Described.toNode, Node.printedNesting]
      cases child with
      | none =>
          have bound : description.nestingWith false 0 ≤ 0 + 1 := description.nesting_with_le false 0
          change 2 * description.nestingWith false 0 + 1 ≤ _
          omega
      | some child =>
          have bound : description.nestingWith true (child.printedNesting false) ≤
              child.printedNesting false + 2 := description.nesting_with_le true _
          have below := target.printed_nesting meant child rfl
          change 2 * description.nestingWith true (child.printedNesting false) + 1 ≤ _
          omega

end

theorem PatternPhrase.printed_nesting (phrase : PatternPhrase) {top : Described}
    (denoted : phrase.denote resolver = some top) :
    2 * top.toNode.printedNesting false ≤ 3 * phrase.top.nesting + 1 := by
  obtain ⟨isRoot, -, -⟩ := phrase.top.denote_plain denoted
  have body : top.toNode.printedNesting false = Node.printedNestingOfChild top.child := by
    rw [Described.toNode, Node.printedNesting, Description.nestingWith, isRoot]
    rfl
  rw [body]
  cases below : top.child with
  | none => exact Nat.zero_le _
  | some child => exact phrase.top.printed_nesting denoted child below

end Grammar

namespace Pattern

variable {text : Text} {pattern : Pattern}

theorem compile_render_at (compiled : compile resolver text = .ok pattern)
    (exclusive : pattern.root.Exclusive) :
    pattern.root.printedNesting false ≤ maxNesting ∧
        (∃ again, compile resolver pattern.render = .ok again) ∨
      maxNesting < pattern.root.printedNesting false ∧
        ∃ limit position,
          compile resolver pattern.render = .error (.nestingTooDeep limit position) := by
  obtain ⟨top, names, rfl, readable, plain, behind⟩ := compiled_readable compiled
  have spells := readable.spells_pattern plain exclusive
  have ending := terminated_render ⟨top.toNode, names.names, text, resolver⟩
  obtain ⟨fits, accepted⟩ | refused := compile_of_spells_at ending spells behind
  · exact .inl ⟨fits, _, accepted⟩
  · exact .inr refused

/-- A pattern is printed at most half as deep again as the text that it was compiled from, and
one bracket deeper. If no node of it is both negated and optional, its printed text is refused
for its depth just if that is beyond the limit. -/
theorem compile_render_nesting (compiled : compile resolver text = .ok pattern) :
    (∃ phrase, ReadAs text phrase) ∧
      (∀ phrase, ReadAs text phrase →
        2 * pattern.root.printedNesting false ≤ 3 * phrase.top.nesting + 1) ∧
      (pattern.root.Exclusive →
        ((∃ limit position,
          compile resolver pattern.render = .error (.nestingTooDeep limit position)) ↔
            maxNesting < pattern.root.printedNesting false)) := by
  obtain ⟨read, reads⟩ := compile_reads compiled
  refine ⟨read, ?_, ?_⟩
  · intro phrase readAs
    obtain ⟨-, top, denoted, root⟩ := reads phrase readAs
    rw [root]
    exact phrase.printed_nesting denoted
  · intro exclusive
    obtain ⟨fits, again, accepted⟩ | ⟨tooDeep, refused⟩ := compile_render_at compiled exclusive
    · constructor
      · rintro ⟨limit, position, refused⟩
        rw [accepted] at refused
        cases refused
      · exact fun tooDeep => absurd tooDeep (Nat.not_lt.2 fits)
    · exact ⟨fun _ => tooDeep, fun _ => refused⟩

-- A disjunction below a disjunction comes by two relations and one parenthesis more, and by
-- brackets when it is printed.
theorem compile_render_nesting_disjunctions :
    ∃ (pattern : Pattern) (phrase : PatternPhrase),
      compile .standard "S<A|<(B<A|<(B<A|<B))".toList = .ok pattern ∧
        pattern.render = "S [< A | < (B [< A | < (B [< A | < B])])];".toList ∧
          pattern.root.Exclusive ∧ pattern.root.printedNesting false = 8 ∧
            ReadAs "S<A|<(B<A|<(B<A|<B))".toList phrase ∧ 2 * 8 ≤ 3 * phrase.top.nesting + 1 ∧
              ∀ limit position,
                compile .standard pattern.render ≠ .error (.nestingTooDeep limit position) := by
  have accepted : (compile .standard "S<A|<(B<A|<(B<A|<B))".toList).toOption.map
      (fun pattern => (pattern.render, decide pattern.root.Exclusive,
        pattern.root.printedNesting false)) =
          some ("S [< A | < (B [< A | < (B [< A | < B])])];".toList, true, 8) := by decide +kernel
  obtain ⟨pattern, found, evaluated⟩ := Option.map_eq_some_iff.1 accepted
  obtain ⟨printed, evaluated⟩ := Prod.mk.inj evaluated
  obtain ⟨exclusive, depth⟩ := Prod.mk.inj evaluated
  have compiled := to_option_eq_some.1 found
  have exclusive := of_decide_eq_true exclusive
  obtain ⟨⟨phrase, read⟩, bound, refused⟩ := compile_render_nesting compiled
  have refused := refused exclusive
  rw [depth] at refused
  have fits : ¬ maxNesting < 8 := by decide
  exact ⟨pattern, phrase, compiled, printed, exclusive, depth, read, depth ▸ bound phrase read,
    fun limit position same => fits (refused.1 ⟨limit, position, same⟩)⟩

def nestedDisjunctions (others : Nat) : Text :=
  ['S'] ++ (List.replicate others "<A|<(B".toList).flatten ++ "<A|<B".toList ++
    List.replicate others ')'

-- Nested 35 deep when it is read, and 53 deep when it is printed.
theorem compile_render_too_deep :
    ∃ (pattern : Pattern) (limit : Nat) (position : Position),
      compile .standard (nestedDisjunctions 17) = .ok pattern ∧
        compile .standard pattern.render = .error (.nestingTooDeep limit position) := by
  have accepted : (compile .standard (nestedDisjunctions 17)).toOption.map
      (fun pattern => (decide pattern.root.Exclusive, pattern.root.printedNesting false)) =
        some (true, 53) := by decide +kernel
  obtain ⟨pattern, found, evaluated⟩ := Option.map_eq_some_iff.1 accepted
  obtain ⟨exclusive, depth⟩ := Prod.mk.inj evaluated
  have compiled := to_option_eq_some.1 found
  have tooDeep : maxNesting < 53 := by decide
  obtain ⟨fits, -⟩ | ⟨-, limit, position, refused⟩ :=
    compile_render_at compiled (of_decide_eq_true exclusive)
  · exact absurd tooDeep (Nat.not_lt.2 (depth ▸ fits))
  · exact ⟨pattern, limit, position, compiled, refused⟩

end Pattern

end TreeQuery
