import TreeQuery.Proofs.Scope.Declared
import TreeQuery.Proofs.Pattern.Place

/- Trees that break no rule for names: what they bind is new, what they bind twice is
   bound in alternatives, and what they refer to is captured before. -/
set_option autoImplicit false

namespace TreeQuery

structure WellNamed (located : List Located) (before : Scope) : Prop where
  fresh : ∀ one ∈ located, ∀ name ∈ one.description.bindings, before.knows name = false
  distinct : ∀ one ∈ located, one.description.bindings.Nodup
  apart : located.Pairwise fun one other =>
    ∀ name ∈ one.description.bindings, name ∈ other.description.bindings →
      Apart one.place other.place
  resolved : ∀ front one back, located = front ++ one :: back →
    ∀ name ∈ one.description.references, name ∈ before.nodes ∨
      ∃ other ∈ front, name ∈ other.description.captures ∧ ¬ Apart other.place one.place

namespace WellNamed

variable {located others : List Located} {before middle : Scope}

theorem nil : WellNamed [] before := ⟨by simp, by simp, .nil, by simp⟩

theorem single {description : Description} {underNegation : Bool}
    (admitted : description.Admitted underNegation before) :
    WellNamed [⟨[], description⟩] before where
  fresh := by simpa using admitted.fresh
  distinct := by simpa using admitted.distinct
  apart := List.pairwise_singleton _ _
  resolved := by
    intro front one back split name referred
    obtain ⟨rfl, rfl, rfl⟩ : front = [] ∧ one = ⟨[], description⟩ ∧ back = [] := by
      cases front with
      | nil => simpa [eq_comm] using split
      | cons first front => simp at split
    exact .inl (admitted.known name referred)

theorem under (step : Step) (named : WellNamed located before) :
    WellNamed (located.map (Located.under step)) before where
  fresh := by
    intro one inside
    obtain ⟨one, member, rfl⟩ := List.mem_map.1 inside
    exact named.fresh one member
  distinct := by
    intro one inside
    obtain ⟨one, member, rfl⟩ := List.mem_map.1 inside
    exact named.distinct one member
  apart := by
    refine List.pairwise_map.2 (named.apart.imp ?_)
    intro one other apart name bound boundToo
    exact apart_same.2 (apart name bound boundToo)
  resolved := by
    intro front one back split name referred
    obtain ⟨front, rest, rfl, rfl, behind⟩ := List.map_eq_append_iff.1 split
    obtain ⟨one, back, rfl, rfl, rfl⟩ := List.map_eq_cons_iff.1 behind
    rcases named.resolved front one back rfl name referred with known | ⟨other, earlier, captured, near⟩
    · exact .inl known
    · exact .inr ⟨other.under step, List.mem_map_of_mem earlier, captured,
        fun apart => near (apart_same.1 apart)⟩

theorem resolved_append
    (first : ∀ front one back, located = front ++ one :: back →
      ∀ name ∈ one.description.references, name ∈ before.nodes ∨
        ∃ other ∈ front, name ∈ other.description.captures ∧ ¬ Apart other.place one.place)
    (second : ∀ front one back, others = front ++ one :: back →
      ∀ name ∈ one.description.references, name ∈ before.nodes ∨
        ∃ other ∈ located ++ front,
          name ∈ other.description.captures ∧ ¬ Apart other.place one.place) :
    ∀ front one back, located ++ others = front ++ one :: back →
      ∀ name ∈ one.description.references, name ∈ before.nodes ∨
        ∃ other ∈ front, name ∈ other.description.captures ∧ ¬ Apart other.place one.place := by
  intro front one back split
  rcases List.append_eq_append_iff.1 split with ⟨rest, rfl, behind⟩ | ⟨rest, rfl, behind⟩
  · exact second rest one back behind
  · cases rest with
    | nil => simpa using second [] one back behind.symm
    | cons head rest =>
        cases behind
        exact first front one rest rfl

theorem append (first : WellNamed located before) (second : WellNamed others middle)
    (nodes : Adds Scope.nodes Description.captures (located.map Located.description) before middle)
    (groups : Adds Scope.groups Description.groupNames (located.map Located.description) before middle)
    (near : ∀ one ∈ located, ∀ other ∈ others, ¬ Apart one.place other.place) :
    WellNamed (located ++ others) before := by
  -- What the first part binds is known to the second, which may bind no known name.
  have unknown : ∀ one ∈ others, ∀ name ∈ one.description.bindings, before.knows name = false ∧
      ∀ other ∈ located, name ∉ other.description.bindings := by
    intro one inside name bound
    have absent := Scope.knows_eq_false_iff.1 (second.fresh one inside name bound)
    rw [nodes name, groups name] at absent
    refine ⟨Scope.knows_eq_false_iff.2 ⟨fun known => absent.1 (.inl known),
      fun known => absent.2 (.inl known)⟩, fun other member boundToo => ?_⟩
    have listed := List.mem_map_of_mem (f := Located.description) member
    rcases Description.mem_bindings.1 boundToo with grouped | captured
    · exact absent.2 (.inr ⟨_, listed, grouped⟩)
    · exact absent.1 (.inr ⟨_, listed, captured⟩)
  refine ⟨?_, ?_, ?_, resolved_append first.resolved ?_⟩
  · intro one inside
    rcases List.mem_append.1 inside with inside | inside
    · exact first.fresh one inside
    · exact fun name bound => (unknown one inside name bound).1
  · intro one inside
    rcases List.mem_append.1 inside with inside | inside
    · exact first.distinct one inside
    · exact second.distinct one inside
  · refine List.pairwise_append.2 ⟨first.apart, second.apart, ?_⟩
    intro one inside other member name bound boundToo
    exact absurd bound ((unknown other member name boundToo).2 one inside)
  · rintro front one back rfl name referred
    rcases second.resolved front one back rfl name referred with known | ⟨other, earlier, captured, apart⟩
    · rcases (nodes name).1 known with known | ⟨_, listed, captured⟩
      · exact .inl known
      · obtain ⟨other, member, rfl⟩ := List.mem_map.1 listed
        exact .inr ⟨other, by simp [member], captured, near other member one (by simp)⟩
    · exact .inr ⟨other, by simp [earlier], captured, apart⟩

-- Both parts are read with the same names, as branches of a disjunction.
theorem beside (first : WellNamed located before) (second : WellNamed others before)
    (apart : ∀ one ∈ located, ∀ other ∈ others, Apart one.place other.place) :
    WellNamed (located ++ others) before := by
  refine ⟨?_, ?_, ?_, resolved_append first.resolved ?_⟩
  · intro one inside
    rcases List.mem_append.1 inside with inside | inside
    · exact first.fresh one inside
    · exact second.fresh one inside
  · intro one inside
    rcases List.mem_append.1 inside with inside | inside
    · exact first.distinct one inside
    · exact second.distinct one inside
  · refine List.pairwise_append.2 ⟨first.apart, second.apart, ?_⟩
    exact fun one inside other member _ _ _ => apart one inside other member
  · intro front one back split name referred
    rcases second.resolved front one back split name referred with known | ⟨other, earlier, captured, near⟩
    · exact .inl known
    · exact .inr ⟨other, by simp [earlier], captured, near⟩

end WellNamed

namespace Node

theorem later_step {step : Nat → Step} {index : Nat} {nodes : List Node} {one : Located}
    (inside : one ∈ locatedInMembers step (index + 1) nodes) :
    ∃ later place, index < later ∧ one.place = step later :: place := by
  obtain ⟨offset, -, place, -, rest, -⟩ := located_at_members step (index + 1) nodes one inside
  exact ⟨index + 1 + offset, place, by omega, rest⟩

theorem conjuncts_near {index : Nat} {node : Node} {nodes : List Node} :
    ∀ one ∈ node.located.map (Located.under (.conjunct index)),
      ∀ other ∈ locatedInMembers .conjunct (index + 1) nodes, ¬ Apart one.place other.place := by
  intro one inside other member apart
  obtain ⟨inner, _, same⟩ := List.mem_map.1 inside
  obtain ⟨later, place, behind, rest⟩ := later_step member
  rw [← same, rest] at apart
  rcases apart_cons.1 apart with ⟨sameStep, _⟩ | ⟨i, j, _, conjunct, _⟩
  · have equal := Step.conjunct.inj sameStep
    omega
  · cases conjunct

theorem disjuncts_apart {index : Nat} {node : Node} {nodes : List Node} :
    ∀ one ∈ node.located.map (Located.under (.disjunct index)),
      ∀ other ∈ locatedInMembers .disjunct (index + 1) nodes, Apart one.place other.place := by
  intro one inside other member
  obtain ⟨inner, _, same⟩ := List.mem_map.1 inside
  obtain ⟨later, place, behind, rest⟩ := later_step member
  rw [← same, rest]
  exact apart_cons.2 (.inr ⟨index, later, by omega, rfl, rfl⟩)

mutual

theorem well_named : (node : Node) → ∀ {underNegation : Bool} {before after : Scope},
    node.scopeBehind true underNegation before = some after → WellNamed node.located before
  | .described description child, underNegation, before, after, found => by
      simp only [scopeBehind, Option.bind_eq_some_iff] at found
      obtain ⟨middle, here, below⟩ := found
      have admitted := (Description.scope_behind_eq_some.1 here).1
      refine (WellNamed.single admitted).append (child_well_named child below)
        (tracks_nodes.single _ _ _ _ here) (tracks_groups.single _ _ _ _ here) ?_
      intro one inside other _
      rw [List.mem_singleton.1 inside]
      exact not_apart_nil _
  | .coordination c members, underNegation, before, after, found => by
      simp only [scopeBehind] at found
      rw [located]
      split at found
      · rename_i conjunctive
        rw [Coordination.step_conjunct conjunctive]
        exact conjuncts_well_named 0 members found
      · rename_i disjunctive
        rw [Coordination.step_disjunct disjunctive]
        obtain ⟨scopes, behind, -⟩ := Option.map_eq_some_iff.1 found
        exact disjuncts_well_named 0 members behind

theorem child_well_named : (child : Option Node) → ∀ {underNegation : Bool} {before after : Scope},
    childBehind true underNegation child before = some after →
      WellNamed (locatedInChild child) before
  | none, _, _, _, _ => WellNamed.nil
  | some node, _, _, _, found => (well_named node found).under .child

theorem conjuncts_well_named (index : Nat) : (nodes : List Node) →
    ∀ {underNegation : Bool} {before after : Scope},
      conjunctsBehind true underNegation nodes before = some after →
        WellNamed (locatedInMembers .conjunct index nodes) before
  | [], _, _, _, _ => WellNamed.nil
  | node :: nodes, underNegation, before, after, found => by
      simp only [conjunctsBehind, Option.bind_eq_some_iff] at found
      obtain ⟨middle, first, others⟩ := found
      have same := located_under_descriptions (.conjunct index) node
      exact ((well_named node first).under (.conjunct index)).append
        (conjuncts_well_named (index + 1) nodes others) (same ▸ adds tracks_nodes node first)
        (same ▸ adds tracks_groups node first) conjuncts_near

theorem disjuncts_well_named (index : Nat) : (nodes : List Node) →
    ∀ {underNegation : Bool} {before : Scope} {scopes : List Scope},
      disjunctsBehind true underNegation nodes before = some scopes →
        WellNamed (locatedInMembers .disjunct index nodes) before
  | [], _, _, _, _ => WellNamed.nil
  | node :: nodes, underNegation, before, scopes, found => by
      simp only [disjunctsBehind, Option.bind_eq_some_iff, Option.map_eq_some_iff] at found
      obtain ⟨first, here, others, behind, -⟩ := found
      exact ((well_named node here).under (.disjunct index)).beside
        (disjuncts_well_named (index + 1) nodes behind) disjuncts_apart

end

end Node

end TreeQuery
