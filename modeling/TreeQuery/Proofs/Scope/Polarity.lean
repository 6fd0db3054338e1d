import TreeQuery.Proofs.Scope.Declared
import TreeQuery.Proofs.Pattern.Place
import TreeQuery.Proofs.Grammar.Derivation

/- Names and negation: where a node is captured, nothing from the root down to it is
   negated. While a pattern is read a flag stands for the negations in force; in the
   finished tree they are marks on the nodes above. -/
set_option autoImplicit false

namespace TreeQuery

namespace Node

def Positive (root : Node) (place : Place) : Prop :=
  ∀ above node, above <+: place → root.at? above = some node → node.isNegated = false

variable {root node : Node} {place : Place} {step : Step} {underNegation : Bool}

theorem positive_nil : root.Positive [] ↔ root.isNegated = false := by
  constructor
  · intro positive
    exact positive [] root (List.prefix_refl []) rfl
  · intro here above node front reached
    cases List.prefix_nil.1 front
    cases reached
    exact here

theorem positive_cons : root.Positive (step :: place) ↔
    root.isNegated = false ∧ ∀ node, root.below? step = some node → node.Positive place := by
  constructor
  · intro positive
    have here : root.isNegated = false := positive [] root List.nil_prefix rfl
    refine ⟨here, ?_⟩
    intro node found above other front reached
    apply positive (step :: above) other (List.prefix_cons_inj step |>.2 front)
    rw [at?, found]
    exact reached
  · intro parts above other front reached
    obtain ⟨here, below⟩ := parts
    cases above with
    | nil =>
        cases reached
        exact here
    | cons first above =>
        obtain ⟨same, shorter⟩ := List.cons_prefix_cons.1 front
        subst first
        obtain ⟨node, found, further⟩ := Option.bind_eq_some_iff.1 reached
        exact below node found above other shorter further

-- Whatever is captured stands under no negation, neither in the tree nor in force
-- around it.
def CapturesAllowed (underNegation : Bool) (root : Node) : Prop :=
  ∀ one ∈ root.located, ∀ name ∈ one.description.captures,
    underNegation = false ∧ root.Positive one.place

theorem captures_allowed_described {description : Description} {child : Option Node} :
    CapturesAllowed underNegation (.described description child) ↔
      (∀ name ∈ description.captures, (underNegation || description.negated) = false) ∧
        ∀ node, child = some node →
          CapturesAllowed (underNegation || description.negated) node := by
  constructor
  · intro allowed
    constructor
    · intro name captured
      have top := allowed ⟨[], description⟩ List.mem_cons_self name captured
      rw [top.1, Bool.false_or]
      exact positive_nil.1 top.2
    · intro node same one inside name captured
      subst same
      have lower := allowed (one.under .child)
        (List.mem_cons_of_mem _ (List.mem_map_of_mem inside)) name captured
      obtain ⟨here, below⟩ := positive_cons.1 lower.2
      exact ⟨by rw [lower.1, Bool.false_or]; exact here, below node rfl⟩
  · intro parts one inside name captured
    obtain ⟨top, lower⟩ := parts
    rcases List.mem_cons.1 inside with same | inside
    · subst same
      have flags := Bool.or_eq_false_iff.1 (top name captured)
      exact ⟨flags.1, positive_nil.2 flags.2⟩
    · cases child with
      | none => cases inside
      | some node =>
          obtain ⟨inner, member, same⟩ := List.mem_map.1 inside
          subst same
          have below := lower node rfl inner member name captured
          have flags := Bool.or_eq_false_iff.1 below.1
          refine ⟨flags.1, positive_cons.2 ⟨flags.2, ?_⟩⟩
          intro other found
          cases found
          exact below.2

theorem mem_located_members {step : Nat → Step} {one : Located} {nodes : List Node} {index : Nat} :
    one ∈ locatedInMembers step index nodes ↔
      ∃ (offset : Nat) (node : Node) (inner : Located), nodes[offset]? = some node ∧
        inner ∈ node.located ∧ inner.under (step (index + offset)) = one := by
  induction nodes generalizing index with
  | nil => simp [locatedInMembers]
  | cons first nodes ih =>
      rw [locatedInMembers, List.mem_append, ih, List.mem_map]
      constructor
      · intro cases
        rcases cases with ⟨inner, member, same⟩ | ⟨offset, node, inner, found, member, same⟩
        · exact ⟨0, first, inner, rfl, member, same⟩
        · exact ⟨offset + 1, node, inner, found, member, by rw [← same, Nat.add_right_comm]; rfl⟩
      · intro parts
        obtain ⟨offset, node, inner, found, member, same⟩ := parts
        cases offset with
        | zero =>
            cases found
            exact .inl ⟨inner, member, same⟩
        | succ offset =>
            exact .inr ⟨offset, node, inner, found, member, by rw [← same, Nat.add_right_comm]; rfl⟩

theorem captures_allowed_coordination {c : Coordination} {members : List Node} :
    CapturesAllowed underNegation (.coordination c members) ↔
      ∀ node ∈ members, CapturesAllowed (underNegation || c.negated) node := by
  constructor
  · intro allowed node inside one located name captured
    obtain ⟨index, found⟩ := List.getElem?_of_mem inside
    have there : one.under (c.step index) ∈ (coordination c members).located :=
      mem_located_members.2 ⟨index, node, one, found, located, by rw [Nat.zero_add]⟩
    have lower := allowed _ there name captured
    obtain ⟨here, below⟩ := positive_cons.1 lower.2
    have reached : (coordination c members).below? (c.step index) = some node := by
      rw [below_member, found]
    exact ⟨by rw [lower.1, Bool.false_or]; exact here, below node reached⟩
  · intro each one inside name captured
    obtain ⟨index, node, inner, found, member, same⟩ := mem_located_members.1 inside
    subst same
    have below := each node (List.mem_of_getElem? found) inner member name captured
    have flags := Bool.or_eq_false_iff.1 below.1
    refine ⟨flags.1, positive_cons.2 ⟨flags.2, ?_⟩⟩
    intro other reached
    rw [Nat.zero_add, below_member, found] at reached
    cases reached
    exact below.2

mutual

theorem captures_allowed : (node : Node) → ∀ {underNegation : Bool} {before after : Scope},
    node.scopeBehind true underNegation before = some after → CapturesAllowed underNegation node
  | .described description child, underNegation, before, after, found => by
      obtain ⟨middle, here, below⟩ := Option.bind_eq_some_iff.1 found
      have admitted := (Description.scope_behind_eq_some.1 here).1
      apply captures_allowed_described.2
      refine ⟨admitted.positive, ?_⟩
      intro node same
      subst same
      exact captures_allowed node below
  | .coordination c members, underNegation, before, after, found => by
      apply captures_allowed_coordination.2
      rw [scopeBehind] at found
      by_cases conjunctive : c.conjunctive = true
      · rw [if_pos conjunctive] at found
        exact conjuncts_captures_allowed members found
      · rw [if_neg conjunctive] at found
        obtain ⟨scopes, behind, _⟩ := Option.map_eq_some_iff.1 found
        exact disjuncts_captures_allowed members behind

theorem conjuncts_captures_allowed : (nodes : List Node) →
    ∀ {underNegation : Bool} {before after : Scope},
      conjunctsBehind true underNegation nodes before = some after →
        ∀ node ∈ nodes, CapturesAllowed underNegation node
  | [], _, _, _, _ => by simp
  | first :: nodes, underNegation, before, after, found => by
      obtain ⟨middle, here, others⟩ := Option.bind_eq_some_iff.1 found
      exact List.forall_mem_cons.2 ⟨captures_allowed first here, conjuncts_captures_allowed nodes others⟩

theorem disjuncts_captures_allowed : (nodes : List Node) →
    ∀ {underNegation : Bool} {before : Scope} {scopes : List Scope},
      disjunctsBehind true underNegation nodes before = some scopes →
        ∀ node ∈ nodes, CapturesAllowed underNegation node
  | [], _, _, _, _ => by simp
  | first :: nodes, underNegation, before, scopes, found => by
      obtain ⟨middle, here, others⟩ := Option.bind_eq_some_iff.1 found
      obtain ⟨rest, behind, _⟩ := Option.map_eq_some_iff.1 others
      exact List.forall_mem_cons.2 ⟨captures_allowed first here, disjuncts_captures_allowed nodes behind⟩

end

end Node

structure CapturesPositive (root : Node) : Prop where
  itself : ∀ one ∈ root.located, one.description.capture ≠ none → one.description.negated = false
  lineage : ∀ one ∈ root.located, one.description.capture ≠ none →
    ∀ above node, above <+: one.place → root.at? above = some node → node.isNegated = false

theorem Description.captures_of_ne_none {description : Description}
    (captured : description.capture ≠ none) : ∃ name, name ∈ description.captures := by
  obtain ⟨name, same⟩ := Option.ne_none_iff_exists'.1 captured
  exact ⟨name, by simp [captures, same]⟩

theorem Node.captures_positive_iff {root : Node} :
    CapturesPositive root ↔ root.CapturesAllowed false := by
  constructor
  · intro positive one inside name captured
    refine ⟨rfl, positive.lineage one inside ?_⟩
    intro none
    simp [Description.captures, none] at captured
  · intro allowed
    have lineage : ∀ one ∈ root.located, one.description.capture ≠ none → root.Positive one.place := by
      intro one inside captured
      obtain ⟨name, member⟩ := Description.captures_of_ne_none captured
      exact (allowed one inside name member).2
    refine ⟨?_, lineage⟩
    intro one inside captured
    obtain ⟨child, there⟩ := located_at root one inside
    exact lineage one inside captured one.place _ (List.prefix_refl _) there

namespace Grammar

variable {resolver : Resolver} {tokens : List Token} {parsed : Parsed}

/-- In an accepted pattern no node is captured under a negation. -/
theorem parse_tokens_captures_positive (accepted : parseTokens resolver tokens = .ok parsed) :
    CapturesPositive parsed.root := by
  obtain ⟨names, behind, _⟩ := parse_tokens_scope accepted
  exact Node.captures_positive_iff.2 (Node.captures_allowed parsed.root behind)

theorem parse_tokens_captures_positive_beside :
    ∃ (tokens : List Token) (parsed : Parsed),
      tokenize "S ![< NP | < VP] < (PP=x !< NN);".toList = .ok tokens ∧
        parseTokens .standard tokens = .ok parsed ∧
          parsed.root.descriptions.map Description.capture = [none, none, none, some ['x'], none] ∧
            CapturesPositive parsed.root := by
  have accepted : (parseText .standard "S ![< NP | < VP] < (PP=x !< NN);".toList).toOption.map
      (·.root.descriptions.map Description.capture) = some [none, none, none, some ['x'], none] := by
    decide +kernel
  obtain ⟨parsed, found, captures⟩ := Option.map_eq_some_iff.1 accepted
  obtain ⟨tokens, lexed, parses⟩ := parse_text_eq_ok.1 (to_option_eq_some.1 found)
  exact ⟨tokens, parsed, lexed, parses, captures, parse_tokens_captures_positive parses⟩

end Grammar

end TreeQuery
