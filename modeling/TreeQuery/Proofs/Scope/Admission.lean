import TreeQuery.Proofs.Scope.Names
import TreeQuery.Proofs.Scope.Polarity

/- Names are checked exactly: a tree that keeps the rules for names, as they can be
   told from the tree alone, is never refused for a name. -/
set_option autoImplicit false

namespace TreeQuery

namespace WellNamed

variable {located others : List Located} {before middle : Scope}

theorem of_under {step : Step} (named : WellNamed (located.map (Located.under step)) before) :
    WellNamed located before where
  fresh one inside := named.fresh (one.under step) (List.mem_map_of_mem inside)
  distinct one inside := named.distinct (one.under step) (List.mem_map_of_mem inside)
  apart := by
    have apart := List.pairwise_map.1 named.apart
    apply apart.imp
    intro one other apart name bound boundToo
    exact apart_same.1 (apart name bound boundToo)
  resolved := by
    intro front one back split name referred
    have splitAbove : located.map (Located.under step) =
        front.map (Located.under step) ++ one.under step :: back.map (Located.under step) := by
      rw [split, List.map_append, List.map_cons]
    rcases named.resolved _ _ _ splitAbove name referred with known | resolved
    · exact .inl known
    · obtain ⟨above, member, captured, near⟩ := resolved
      obtain ⟨other, earlier, same⟩ := List.mem_map.1 member
      subst same
      exact .inr ⟨other, earlier, captured, fun apart => near (apart_same.2 apart)⟩

theorem first (named : WellNamed (located ++ others) before) : WellNamed located before where
  fresh one inside := named.fresh one (List.mem_append_left others inside)
  distinct one inside := named.distinct one (List.mem_append_left others inside)
  apart := (List.pairwise_append.1 named.apart).1
  resolved := by
    intro front one back split
    apply named.resolved front one (back ++ others)
    rw [split, List.append_assoc, List.cons_append]

-- The names that the first part adds are all the second one may rely on, and none of
-- them is bound by it again.
theorem second (named : WellNamed (located ++ others) before)
    (nodes : Adds Scope.nodes Description.captures (located.map Located.description) before middle)
    (groups : Adds Scope.groups Description.groupNames (located.map Located.description) before middle)
    (near : ∀ one ∈ located, ∀ other ∈ others, ¬ Apart one.place other.place) :
    WellNamed others middle where
  fresh := by
    intro one inside name bound
    have unknown := Scope.knows_eq_false_iff.1
      (named.fresh one (List.mem_append_right located inside) name bound)
    have unbound : ∀ description ∈ located.map Located.description,
        name ∉ description.bindings := by
      intro description listed boundToo
      obtain ⟨other, member, same⟩ := List.mem_map.1 listed
      subst same
      have across := (List.pairwise_append.1 named.apart).2.2
      exact near other member one inside (across other member one inside name boundToo bound)
    apply Scope.knows_eq_false_iff.2
    rw [nodes name, groups name]
    constructor
    · intro cases
      rcases cases with known | ⟨description, listed, captured⟩
      · exact unknown.1 known
      · exact unbound description listed (Description.mem_bindings.2 (.inr captured))
    · intro cases
      rcases cases with known | ⟨description, listed, grouped⟩
      · exact unknown.2 known
      · exact unbound description listed (Description.mem_bindings.2 (.inl grouped))
  distinct one inside := named.distinct one (List.mem_append_right located inside)
  apart := (List.pairwise_append.1 named.apart).2.1
  resolved := by
    intro front one back split name referred
    have splitBoth : located ++ others = (located ++ front) ++ one :: back := by
      rw [split, List.append_assoc]
    rcases named.resolved _ _ _ splitBoth name referred with known | resolved
    · exact .inl ((nodes name).2 (.inl known))
    · obtain ⟨other, member, captured, notApart⟩ := resolved
      rcases List.mem_append.1 member with member | member
      · have listed := List.mem_map_of_mem (f := Located.description) member
        exact .inl ((nodes name).2 (.inr ⟨_, listed, captured⟩))
      · exact .inr ⟨other, member, captured, notApart⟩

theorem alternative (named : WellNamed (located ++ others) before)
    (apart : ∀ one ∈ located, ∀ other ∈ others, Apart one.place other.place) :
    WellNamed others before where
  fresh one inside := named.fresh one (List.mem_append_right located inside)
  distinct one inside := named.distinct one (List.mem_append_right located inside)
  apart := (List.pairwise_append.1 named.apart).2.1
  resolved := by
    intro front one back split name referred
    have inside : one ∈ others := by simp [split]
    have splitBoth : located ++ others = (located ++ front) ++ one :: back := by
      rw [split, List.append_assoc]
    rcases named.resolved _ _ _ splitBoth name referred with known | resolved
    · exact .inl known
    · obtain ⟨other, member, captured, near⟩ := resolved
      rcases List.mem_append.1 member with member | member
      · exact absurd (apart other member one inside) near
      · exact .inr ⟨other, member, captured, near⟩

theorem admitted {description : Description} {underNegation : Bool}
    (named : WellNamed (⟨[], description⟩ :: located) before)
    (positive : ∀ name ∈ description.captures, underNegation = false) :
    description.Admitted underNegation before where
  fresh := named.fresh _ List.mem_cons_self
  distinct := named.distinct _ List.mem_cons_self
  positive := positive
  known := by
    intro name referred
    rcases named.resolved [] _ located rfl name referred with known | resolved
    · exact known
    · obtain ⟨other, member, _⟩ := resolved
      cases member

end WellNamed

namespace Node

mutual

theorem scope_behind_exists : (node : Node) → ∀ {underNegation : Bool} {before : Scope},
    WellNamed node.located before → CapturesAllowed underNegation node →
      ∃ after, node.scopeBehind true underNegation before = some after
  | .described description child, underNegation, before, named, allowed => by
      obtain ⟨positive, below⟩ := captures_allowed_described.1 allowed
      have admitted := named.admitted positive
      have here := Description.scope_behind_eq_some.2 ⟨admitted, rfl⟩
      have parts : WellNamed ([⟨[], description⟩] ++ locatedInChild child) before := named
      have lower := parts.second
        (tracks_nodes.single _ _ _ _ here) (tracks_groups.single _ _ _ _ here) (by
          intro one inside other _
          rw [List.mem_singleton.1 inside]
          exact not_apart_nil _)
      obtain ⟨after, behind⟩ := child_behind_exists child lower below
      exact ⟨after, by rw [scopeBehind, here]; exact behind⟩
  | .coordination c members, underNegation, before, named, allowed => by
      have each := captures_allowed_coordination.1 allowed
      rw [located] at named
      rw [scopeBehind]
      by_cases conjunctive : c.conjunctive = true
      · rw [Coordination.step_conjunct conjunctive] at named
        rw [if_pos conjunctive]
        exact conjuncts_behind_exists members named each
      · rw [Coordination.step_disjunct conjunctive] at named
        rw [if_neg conjunctive]
        obtain ⟨scopes, behind⟩ := disjuncts_behind_exists members named each
        exact ⟨before.joined scopes, by rw [behind]; rfl⟩

theorem child_behind_exists : (child : Option Node) → ∀ {underNegation : Bool} {before : Scope},
    WellNamed (locatedInChild child) before →
      (∀ node, child = some node → CapturesAllowed underNegation node) →
        ∃ after, childBehind true underNegation child before = some after
  | none, _, before, _, _ => ⟨before, rfl⟩
  | some node, _, _, named, allowed => scope_behind_exists node named.of_under (allowed node rfl)

theorem conjuncts_behind_exists : (nodes : List Node) →
    ∀ {index : Nat} {underNegation : Bool} {before : Scope},
      WellNamed (locatedInMembers .conjunct index nodes) before →
        (∀ node ∈ nodes, CapturesAllowed underNegation node) →
          ∃ after, conjunctsBehind true underNegation nodes before = some after
  | [], _, _, before, _, _ => ⟨before, rfl⟩
  | node :: nodes, index, underNegation, before, named, allowed => by
      obtain ⟨first, others⟩ := List.forall_mem_cons.1 allowed
      obtain ⟨middle, here⟩ := scope_behind_exists node named.first.of_under first
      have same := located_under_descriptions (.conjunct index) node
      have later := named.second (same ▸ adds tracks_nodes node here)
        (same ▸ adds tracks_groups node here) conjuncts_near
      obtain ⟨after, behind⟩ := conjuncts_behind_exists nodes later others
      exact ⟨after, by rw [conjunctsBehind, here]; exact behind⟩

theorem disjuncts_behind_exists : (nodes : List Node) →
    ∀ {index : Nat} {underNegation : Bool} {before : Scope},
      WellNamed (locatedInMembers .disjunct index nodes) before →
        (∀ node ∈ nodes, CapturesAllowed underNegation node) →
          ∃ scopes, disjunctsBehind true underNegation nodes before = some scopes
  | [], _, _, _, _, _ => ⟨[], rfl⟩
  | node :: nodes, index, underNegation, before, named, allowed => by
      obtain ⟨first, others⟩ := List.forall_mem_cons.1 allowed
      obtain ⟨middle, here⟩ := scope_behind_exists node named.first.of_under first
      have later := named.alternative disjuncts_apart
      obtain ⟨scopes, behind⟩ := disjuncts_behind_exists nodes later others
      exact ⟨middle :: scopes, by rw [disjunctsBehind, here, behind]; rfl⟩

end

structure RulesKept (root : Node) : Prop where
  unique : root.sites.Pairwise fun one other =>
    one.name = other.name → root.Alternative one.place other.place
  resolved : ∀ (index : Nat) (one : Located), root.located[index]? = some one →
    ∀ name ∈ one.description.references, ∃ (earlier : Nat) (other : Located), earlier < index ∧
      root.located[earlier]? = some other ∧ other.description.capture = some name ∧
        ¬ root.Alternative other.place one.place
  positive : CapturesPositive root

theorem not_alternative_self {root : Node} {one : Located} (inside : one ∈ root.located) :
    ¬ root.Alternative one.place one.place := by
  intro alternative
  have apart := (alternative_iff_apart inside one.place).1 alternative
  exact apart.not_above (List.prefix_refl one.place)

theorem RulesKept.well_named {root : Node} (kept : RulesKept root) :
    WellNamed root.located Scope.empty where
  fresh := by
    intro one _ name _
    rfl
  distinct := by
    intro one inside
    have sites := (List.pairwise_flatMap.1 kept.unique).1 one inside
    apply (List.pairwise_map.1 sites).imp
    intro name other apart same
    exact not_alternative_self inside (apart same)
  apart := by
    have sites := (List.pairwise_flatMap.1 kept.unique).2
    apply sites.imp_of_mem
    intro one other inside member apart name bound boundToo
    apply (alternative_iff_apart inside other.place).1
    exact apart ⟨one.place, name⟩ (List.mem_map_of_mem bound) ⟨other.place, name⟩
      (List.mem_map_of_mem boundToo) rfl
  resolved := by
    intro front one back split name referred
    have here : root.located[front.length]? = some one := by simp [split]
    obtain ⟨earlier, other, before, found, captured, near⟩ :=
      kept.resolved front.length one here name referred
    have member : other ∈ front := by
      rw [split, List.getElem?_append_left before] at found
      exact List.mem_of_getElem? found
    refine .inr ⟨other, member, by simp [Description.captures, captured], ?_⟩
    intro apart
    exact near ((alternative_iff_apart (List.mem_of_getElem? found) one.place).2 apart)

theorem rules_kept_iff {root : Node} :
    RulesKept root ↔ ∃ after, root.scopeBehind true false Scope.empty = some after := by
  constructor
  · intro kept
    exact scope_behind_exists root kept.well_named (captures_positive_iff.1 kept.positive)
  · intro admitted
    obtain ⟨after, behind⟩ := admitted
    have named := well_named root behind
    exact ⟨(names_unique named).alternative, (references_resolved named).captured,
      captures_positive_iff.2 (captures_allowed root behind)⟩

end Node

namespace Grammar

variable {resolver : Resolver} {tokens : List Token} {parsed : Parsed}

/-- Tokens that are accepted when no name is checked are accepted with the same tree when
names are checked, if the tree keeps the rules for names. -/
theorem parse_tokens_of_rules_kept
    (accepted : parseTokensWith ⟨resolver, false⟩ tokens = .ok parsed)
    (kept : parsed.root.RulesKept) :
    ∃ checked, parseTokens resolver tokens = .ok checked ∧ checked.root = parsed.root := by
  obtain ⟨phrase, names, same, fits, found, _⟩ := parse_tokens_outcome accepted
  have denoted := (outcome_of_eq_some.1 found).1
  obtain ⟨known, behind⟩ := Node.rules_kept_iff.1 kept
  have outcome : phrase.outcome ⟨resolver, true⟩ = some (parsed.top, known) :=
    outcome_of_eq_some.2 ⟨denoted, behind⟩
  rcases parse_tokens_of_outcome same.symm outcome with checked | ⟨tooDeep, _⟩
  · exact ⟨_, checked, rfl⟩
  · exact absurd fits tooDeep

theorem parse_tokens_of_rules_kept_branches :
    ∃ (tokens : List Token) (parsed : Parsed),
      tokenize "S [< NP=x | < VP=x] !< PP < ~x;".toList = .ok tokens ∧
        parseTokensWith ⟨.standard, false⟩ tokens = .ok parsed ∧ parsed.root.RulesKept ∧
          ∃ checked, parseTokens .standard tokens = .ok checked ∧ checked.root = parsed.root := by
  have evaluated : (tokenize "S [< NP=x | < VP=x] !< PP < ~x;".toList).toOption.bind (fun tokens =>
      (parseTokensWith ⟨.standard, false⟩ tokens).toOption.bind fun parsed =>
        parsed.root.scopeBehind true false Scope.empty) = some ⟨[['x']], []⟩ := by decide +kernel
  obtain ⟨tokens, lexed, accepted⟩ := Option.bind_eq_some_iff.1 evaluated
  obtain ⟨parsed, parses, behind⟩ := Option.bind_eq_some_iff.1 accepted
  have kept := Node.rules_kept_iff.2 ⟨_, behind⟩
  exact ⟨tokens, parsed, to_option_eq_some.1 lexed, to_option_eq_some.1 parses, kept,
    parse_tokens_of_rules_kept (to_option_eq_some.1 parses) kept⟩

end Grammar

end TreeQuery
