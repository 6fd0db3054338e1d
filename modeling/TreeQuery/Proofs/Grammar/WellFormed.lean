import TreeQuery.Proofs.Grammar.Derivation
import TreeQuery.Proofs.Pattern.Place

/- The shape of accepted patterns. Every node of the tree comes from a description or
   gathers two constraints or more, and what a description may hold is fixed by the way
   in which it is written. -/
set_option autoImplicit false

namespace TreeQuery

open Grammar

-- A property of single nodes that every step by which phrases build trees keeps.
structure Node.Stable (resolver : Resolver) (holds : Node → Prop) : Prop where
  negate : ∀ node, holds node → holds node.negate
  makeOptional : ∀ node, holds node → holds node.makeOptional
  coordination : ∀ c members, 2 ≤ members.length → holds (.coordination c members)
  described : ∀ (operation : OperationPhrase) (phrase : DescriptionPhrase) relation description child,
    operation.denote resolver = some relation →
      phrase.denote resolver.checkRegex relation = some description →
        holds (.described description child)

structure Described.Built (resolver : Resolver) (holds : Node → Prop) (relation : Relation)
    (top : Described) : Prop where
  label : ∃ phrase : DescriptionPhrase,
    phrase.denote resolver.checkRegex relation = some top.description
  child : ∀ node, top.child = some node → node.Everywhere holds

namespace Node.Stable

variable {resolver : Resolver} {holds : Node → Prop} (stable : Node.Stable resolver holds)

include stable

theorem negate_everywhere {node : Node} (all : node.Everywhere holds) :
    node.negate.Everywhere holds := by
  cases node with
  | described description child =>
      obtain ⟨here, below⟩ := everywhere_described.1 all
      exact everywhere_described.2 ⟨stable.negate _ here, below⟩
  | coordination c members =>
      obtain ⟨here, below⟩ := everywhere_coordination.1 all
      exact everywhere_coordination.2 ⟨stable.negate _ here, below⟩

theorem make_optional_everywhere {node : Node} (all : node.Everywhere holds) :
    node.makeOptional.Everywhere holds := by
  cases node with
  | described description child =>
      obtain ⟨here, below⟩ := everywhere_described.1 all
      exact everywhere_described.2 ⟨stable.makeOptional _ here, below⟩
  | coordination c members =>
      obtain ⟨here, below⟩ := everywhere_coordination.1 all
      exact everywhere_coordination.2 ⟨stable.makeOptional _ here, below⟩

theorem gathered_everywhere (conjunctive : Bool) {first : Node} {others : List Node}
    (head : first.Everywhere holds) (tail : ∀ node ∈ others, node.Everywhere holds) :
    (gathered conjunctive first others).Everywhere holds := by
  cases others with
  | nil => exact head
  | cons second others =>
      have enough : 2 ≤ (first :: second :: others).length := Nat.le_add_left 2 others.length
      have below := List.forall_mem_cons.2 ⟨head, tail⟩
      exact everywhere_coordination.2 ⟨stable.coordination _ _ enough, below⟩

theorem beneath_built {relation : Relation} {top : Described} {child : Node}
    (built : top.Built resolver holds relation) (below : child.Everywhere holds) :
    (beneath top child).Built resolver holds relation := by
  obtain ⟨description, earlier⟩ := top
  cases earlier with
  | none =>
      refine ⟨built.label, ?_⟩
      intro node same
      cases same
      exact below
  | some earlier =>
      refine ⟨built.label, ?_⟩
      intro node same
      cases same
      exact stable.gathered_everywhere true (built.child earlier rfl)
        (List.forall_mem_singleton.2 below)

end Node.Stable

namespace Grammar

variable {resolver : Resolver} {holds : Node → Prop}

mutual

theorem NodePhrase.built (stable : Node.Stable resolver holds) {relation : Relation} :
    (phrase : NodePhrase) → ∀ {top : Described}, phrase.denote resolver relation = some top →
      top.Built resolver holds relation
  | .enclosed opener inner closer, top, denoted => by
      rw [NodePhrase.denote] at denoted
      exact SubNodePhrase.built stable inner denoted
  | .label description, top, denoted => by
      rw [NodePhrase.denote] at denoted
      obtain ⟨found, denotes, same⟩ := Option.map_eq_some_iff.1 denoted
      cases same
      refine ⟨⟨description, denotes⟩, ?_⟩
      intro node none
      cases none

theorem SubNodePhrase.built (stable : Node.Stable resolver holds) {relation : Relation} :
    (phrase : SubNodePhrase) → ∀ {top : Described}, phrase.denote resolver relation = some top →
      top.Built resolver holds relation
  | .alone node, top, denoted => by
      rw [SubNodePhrase.denote] at denoted
      exact NodePhrase.built stable node denoted
  | .above node children, top, denoted => by
      obtain ⟨inner, child, found, below, same⟩ := SubNodePhrase.denote_above.1 denoted
      rw [← same]
      exact stable.beneath_built (NodePhrase.built stable node found)
        (DisjunctionPhrase.everywhere stable children below)

theorem DisjunctionPhrase.everywhere (stable : Node.Stable resolver holds) :
    (phrase : DisjunctionPhrase) → ∀ {node : Node}, phrase.denote resolver = some node →
      node.Everywhere holds
  | .of first others, node, denoted => by
      obtain ⟨head, tail, found, behind, same⟩ := DisjunctionPhrase.denote_of.1 denoted
      rw [← same]
      exact stable.gathered_everywhere false (ConjunctionPhrase.everywhere stable first found)
        (DisjunctsPhrase.everywhere stable others behind)

theorem DisjunctsPhrase.everywhere (stable : Node.Stable resolver holds) :
    (phrase : DisjunctsPhrase) → ∀ {nodes : List Node}, phrase.denote resolver = some nodes →
      ∀ node ∈ nodes, node.Everywhere holds
  | .nil, nodes, denoted => by
      cases denoted
      exact List.forall_mem_nil _
  | .cons bar next others, nodes, denoted => by
      obtain ⟨head, tail, found, behind, same⟩ := DisjunctsPhrase.denote_cons.1 denoted
      rw [← same]
      exact List.forall_mem_cons.2 ⟨ConjunctionPhrase.everywhere stable next found,
        DisjunctsPhrase.everywhere stable others behind⟩

theorem ConjunctionPhrase.everywhere (stable : Node.Stable resolver holds) :
    (phrase : ConjunctionPhrase) → ∀ {node : Node}, phrase.denote resolver = some node →
      node.Everywhere holds
  | .of first others, node, denoted => by
      obtain ⟨head, tail, found, behind, same⟩ := ConjunctionPhrase.denote_of.1 denoted
      rw [← same]
      exact stable.gathered_everywhere true (ConstraintPhrase.everywhere stable first found)
        (ConjunctsPhrase.everywhere stable others behind)

theorem ConjunctsPhrase.everywhere (stable : Node.Stable resolver holds) :
    (phrase : ConjunctsPhrase) → ∀ {nodes : List Node}, phrase.denote resolver = some nodes →
      ∀ node ∈ nodes, node.Everywhere holds
  | .nil, nodes, denoted => by
      cases denoted
      exact List.forall_mem_nil _
  | .cons joint next others, nodes, denoted => by
      obtain ⟨head, tail, found, behind, same⟩ := ConjunctsPhrase.denote_cons.1 denoted
      rw [← same]
      exact List.forall_mem_cons.2 ⟨ConstraintPhrase.everywhere stable next found,
        ConjunctsPhrase.everywhere stable others behind⟩

theorem ConstraintPhrase.everywhere (stable : Node.Stable resolver holds) :
    (phrase : ConstraintPhrase) → ∀ {node : Node}, phrase.denote resolver = some node →
      node.Everywhere holds
  | .plain constraint, node, denoted => by
      rw [ConstraintPhrase.denote] at denoted
      exact PlainPhrase.everywhere stable constraint denoted
  | .negated bang constraint, node, denoted => by
      obtain ⟨positive, found, rfl⟩ := ConstraintPhrase.denote_negated.1 denoted
      exact stable.negate_everywhere (PlainPhrase.everywhere stable constraint found)
  | .optional question constraint, node, denoted => by
      obtain ⟨required, found, rfl⟩ := ConstraintPhrase.denote_optional.1 denoted
      exact stable.make_optional_everywhere (PlainPhrase.everywhere stable constraint found)

theorem PlainPhrase.everywhere (stable : Node.Stable resolver holds) :
    (phrase : PlainPhrase) → ∀ {node : Node}, phrase.denote resolver = some node →
      node.Everywhere holds
  | .group opener members closer, node, denoted => by
      rw [PlainPhrase.denote] at denoted
      exact DisjunctionPhrase.everywhere stable members denoted
  | .related operation target, node, denoted => by
      obtain ⟨relation, top, resolved, found, same⟩ := PlainPhrase.denote_related.1 denoted
      have built := NodePhrase.built stable target found
      obtain ⟨phrase, label⟩ := built.label
      have here := stable.described operation phrase relation top.description top.child resolved label
      rw [← same]
      exact Node.everywhere_described.2 ⟨here, built.child⟩

end

end Grammar

structure Description.WellFormed (description : Description) : Prop where
  unspecified_iff : description.descriptor = .unspecified ↔
    description.link ≠ none ∨ description.backreference ≠ none
  exclusive : description.link = none ∨ description.backreference = none
  ungrouped : description.descriptor = .unspecified → description.groups = []
  uncaptured : description.backreference ≠ none → description.capture = none
  numbered : ∀ group ∈ description.groups, 1 ≤ group.group ∧
    ∀ regex, description.descriptor = .regex regex → group.group ≤ regex.captures

def Node.WellFormed : Node → Prop
  | .described description _ => description.WellFormed
  | .coordination _ members => 2 ≤ members.length

namespace Grammar

theorem descriptor_of_specified {checker : Regex.Checker} {label : Token} {descriptor : Descriptor}
    (found : descriptorOf checker label = .ok descriptor) : descriptor ≠ .unspecified := by
  unfold descriptorOf at found
  split at found
  · split at found
    · cases found
      exact Descriptor.noConfusion
    · cases found
  · cases found
    exact Descriptor.noConfusion
  · cases found
    exact Descriptor.noConfusion

theorem group_number_bounds {descriptor : Descriptor} {text : Text} {number : Nat}
    (found : groupNumber descriptor text = .ok number) :
    1 ≤ number ∧ ∀ regex, descriptor = .regex regex → number ≤ regex.captures := by
  unfold groupNumber at found
  dsimp only at found
  split at found
  · cases found
  · rename_i inRange
    split at found
    · cases found
    · rename_i nonzero
      have positive : 1 ≤ (Numeral.read text).value.toNat := by omega
      split at found
      · rename_i regex
        split at found
        · cases found
        · rename_i captured
          cases found
          refine ⟨positive, ?_⟩
          intro other same
          cases same
          exact Nat.not_lt.1 captured
      · rename_i other
        cases found
        refine ⟨positive, ?_⟩
        intro regex same
        exact absurd same (other regex)

theorem groups_denoted {descriptor : Descriptor} (phrases : List GroupPhrase) :
    ∀ {groups : List GroupCapture}, phrases.mapM (GroupPhrase.denote descriptor) = some groups →
      ∀ group ∈ groups, ∃ phrase ∈ phrases, phrase.denote descriptor = some group := by
  induction phrases with
  | nil =>
      intro groups denoted
      cases denoted
      exact List.forall_mem_nil _
  | cons phrase phrases ih =>
      intro groups denoted
      simp only [List.mapM_cons, Option.bind_eq_bind, Option.bind_eq_some_iff, Option.pure_def,
        Option.some.injEq] at denoted
      obtain ⟨first, found, rest, others, same⟩ := denoted
      rw [← same]
      intro group inside
      rcases List.mem_cons.1 inside with equal | inside
      · exact ⟨phrase, List.mem_cons_self, equal ▸ found⟩
      · obtain ⟨other, member, meant⟩ := ih others group inside
        exact ⟨other, List.mem_cons_of_mem phrase member, meant⟩

theorem BarePhrase.denote_well_formed {checker : Regex.Checker} {relation : Relation}
    {phrase : BarePhrase} {description : Description}
    (denoted : phrase.denote checker relation = some description) : description.WellFormed := by
  cases phrase with
  | labelled label phrases capture =>
      simp only [denote, Option.bind_eq_bind, Option.pure_def, Option.bind_eq_some_iff,
        Option.some.injEq] at denoted
      obtain ⟨descriptor, meant, groups, captured, same⟩ := denoted
      rw [← same]
      have specified := descriptor_of_specified (to_option_eq_some.1 meant)
      constructor
      · simp [Description.plain, specified]
      · exact .inl rfl
      · exact fun unspecified => absurd unspecified specified
      · exact fun referred => absurd rfl referred
      · intro group inside
        obtain ⟨phrase, _, found⟩ := groups_denoted phrases captured group inside
        obtain ⟨number, read, same⟩ := Option.map_eq_some_iff.1 found
        rw [← same]
        exact group_number_bounds (to_option_eq_some.1 read)
  | linked tilde target capture =>
      cases denoted
      constructor
      · simp [Description.plain]
      · exact .inr rfl
      · exact fun _ => rfl
      · exact fun referred => absurd rfl referred
      · exact List.forall_mem_nil _
  | backreferenced equals target =>
      cases denoted
      constructor
      · simp [Description.plain]
      · exact .inl rfl
      · exact fun _ => rfl
      · exact fun _ => rfl
      · exact List.forall_mem_nil _

theorem DescriptionPhrase.denote_well_formed {checker : Regex.Checker} {relation : Relation}
    {phrase : DescriptionPhrase} {description : Description}
    (denoted : phrase.denote checker relation = some description) : description.WellFormed := by
  obtain ⟨bare, found, same⟩ := Option.map_eq_some_iff.1 denoted
  obtain ⟨unspecified, exclusive, ungrouped, uncaptured, numbered⟩ :=
    BarePhrase.denote_well_formed found
  rw [← same]
  exact ⟨unspecified, exclusive, ungrouped, uncaptured, numbered⟩

end Grammar

theorem Resolver.resolve_not_root {resolver : Resolver} {symbol : Text} {argument : Option Text}
    {relation : Relation} (found : resolver.resolve symbol argument = .ok relation) :
    relation.isRoot = false := by
  cases argument with
  | none =>
      change resolver.resolveBare symbol = .ok relation at found
      unfold resolveBare at found
      split at found
      · cases found
      · split at found
        · cases found
        · cases found
          rfl
  | some argument =>
      change resolver.resolveWith symbol argument = .ok relation at found
      unfold resolveWith at found
      repeat' split at found
      all_goals cases found
      all_goals rfl

theorem Node.stable_well_formed (resolver : Resolver) :
    Node.Stable resolver fun node => node.WellFormed ∧ node.isRoot = false where
  negate node holds := by
    cases node with
    | described description child =>
        obtain ⟨⟨unspecified, exclusive, ungrouped, uncaptured, numbered⟩, related⟩ := holds
        exact ⟨⟨unspecified, exclusive, ungrouped, uncaptured, numbered⟩, related⟩
    | coordination c members => exact holds
  makeOptional node holds := by
    cases node with
    | described description child =>
        obtain ⟨⟨unspecified, exclusive, ungrouped, uncaptured, numbered⟩, related⟩ := holds
        exact ⟨⟨unspecified, exclusive, ungrouped, uncaptured, numbered⟩, related⟩
    | coordination c members => exact holds
  coordination c members enough := ⟨enough, rfl⟩
  described operation phrase relation description child resolved denoted := by
    refine ⟨DescriptionPhrase.denote_well_formed denoted, ?_⟩
    change description.relation.isRoot = false
    rw [(DescriptionPhrase.denote_plain denoted).1]
    exact Resolver.resolve_not_root (to_option_eq_some.1 resolved)

theorem Node.Everywhere.descriptions {holds : Node → Prop} {node : Node}
    (all : node.Everywhere holds) :
    ∀ description ∈ node.descriptions, ∃ child, holds (.described description child) := by
  intro description listed
  rw [← located_descriptions] at listed
  obtain ⟨one, inside, same⟩ := List.mem_map.1 listed
  obtain ⟨child, there⟩ := located_at node one inside
  rw [← same]
  exact ⟨child, all one.place _ there⟩

structure Node.WellFormedPattern (root : Node) : Prop where
  top : ∃ description child, root = .described description child ∧
    description.relation = Relation.root ∧ description.negated = false ∧
      description.optional = false
  related : ∀ description ∈ root.descriptions.tail, description.relation.kind ≠ .root
  gathered : ∀ place c members, root.at? place = some (.coordination c members) →
    2 ≤ members.length
  described : ∀ description ∈ root.descriptions, description.WellFormed

theorem Relation.is_root_eq_false {relation : Relation} (other : relation.isRoot = false) :
    relation.kind ≠ .root := by
  intro same
  rw [isRoot, same] at other
  cases other

namespace Grammar

theorem SubNodePhrase.well_formed {resolver : Resolver} (phrase : SubNodePhrase) {top : Described}
    (denoted : phrase.denote resolver Relation.root = some top) :
    top.toNode.WellFormedPattern := by
  have plain := phrase.denote_plain denoted
  have built := phrase.built (Node.stable_well_formed resolver) denoted
  obtain ⟨label, meant⟩ := built.label
  have here := DescriptionPhrase.denote_well_formed meant
  have below : ∀ node, top.child = some node → node.Everywhere Node.WellFormed :=
    fun node same place other there => (built.child node same place other there).1
  have all : top.toNode.Everywhere Node.WellFormed := Node.everywhere_described.2 ⟨here, below⟩
  constructor
  · exact ⟨top.description, top.child, rfl, plain⟩
  · intro description listed
    obtain ⟨description', child⟩ := top
    cases child with
    | none => cases listed
    | some node =>
        obtain ⟨child, _, related⟩ := (built.child node rfl).descriptions description listed
        exact Relation.is_root_eq_false related
  · exact fun place c members there => all place _ there
  · intro description listed
    obtain ⟨child, holds⟩ := all.descriptions description listed
    exact holds

variable {resolver : Resolver} {tokens : List Token} {parsed : Parsed}

/-- The tree of an accepted pattern has the relation of the root at its top and nowhere else,
and no modifier there; its coordinations have two members or more; and in its descriptions a
link, a reference back and a descriptor exclude one another, and groups have numbers that
exist. -/
theorem parse_tokens_well_formed (accepted : parseTokens resolver tokens = .ok parsed) :
    parsed.root.WellFormedPattern := by
  obtain ⟨phrase, names, _, _, found, _⟩ := parse_tokens_outcome accepted
  exact phrase.top.well_formed (outcome_of_eq_some.1 found).1

theorem parse_tokens_well_formed_references :
    ∃ (tokens : List Token) (parsed : Parsed),
      tokenize "S=x [< /(a)(b)/#2=v | !< VP] < ~x=y $ =y;".toList = .ok tokens ∧
        parseTokens .standard tokens = .ok parsed ∧
          parsed.root.descriptions.map Description.link = [none, none, none, some ['x'], none] ∧
            parsed.root.WellFormedPattern := by
  have accepted : (parseText .standard
      "S=x [< /(a)(b)/#2=v | !< VP] < ~x=y $ =y;".toList).toOption.map
      (·.root.descriptions.map Description.link) = some [none, none, none, some ['x'], none] := by
    decide +kernel
  obtain ⟨parsed, found, links⟩ := Option.map_eq_some_iff.1 accepted
  obtain ⟨tokens, lexed, parses⟩ := parse_text_eq_ok.1 (to_option_eq_some.1 found)
  exact ⟨tokens, parsed, lexed, parses, links, parse_tokens_well_formed parses⟩

end Grammar

end TreeQuery
