import TreeQuery.Proofs.Scope.WellNamed
import TreeQuery.Proofs.Grammar.Derivation

/- The names of accepted patterns: where one may be bound twice, and what a reference
   refers to. -/
set_option autoImplicit false

namespace TreeQuery

structure Site where
  place : Place
  name : Text

def Located.sites (located : Located) : List Site :=
  located.description.bindings.map (Site.mk located.place)

def Node.sites (root : Node) : List Site := root.located.flatMap Located.sites

structure NamesUnique (root : Node) : Prop where
  alternative : root.sites.Pairwise fun one other =>
    one.name = other.name → root.Alternative one.place other.place
  once : ∀ one ∈ root.located, one.description.bindings.Nodup
  lineage : ∀ one ∈ root.located, ∀ other ∈ root.located, one.place <+: other.place →
    one.place ≠ other.place → ∀ name ∈ one.description.bindings, name ∉ other.description.bindings
  conjuncts : ∀ one ∈ root.located, ∀ other ∈ root.located, ∀ above i j, i ≠ j →
    above ++ [.conjunct i] <+: one.place → above ++ [.conjunct j] <+: other.place →
      ∀ name ∈ one.description.bindings, name ∉ other.description.bindings

structure ReferencesResolved (root : Node) : Prop where
  captured : ∀ (index : Nat) (one : Located), root.located[index]? = some one →
    ∀ name ∈ one.description.references, ∃ (earlier : Nat) (other : Located), earlier < index ∧
      root.located[earlier]? = some other ∧ other.description.capture = some name ∧
        ¬ root.Alternative other.place one.place
  -- It does not help that a group variable has the name.
  groups : ∀ name, (∀ description ∈ root.descriptions, description.capture ≠ some name) →
    ∀ description ∈ root.descriptions, description.link ≠ some name ∧
      description.backreference ≠ some name

theorem WellNamed.apart_of_ne {located : List Located} {before : Scope}
    (named : WellNamed located before) {one other : Located} (inside : one ∈ located)
    (member : other ∈ located) (different : one.place ≠ other.place) {name : Text}
    (bound : name ∈ one.description.bindings) (boundToo : name ∈ other.description.bindings) :
    Apart one.place other.place := by
  obtain ⟨i, _, rfl⟩ := List.mem_iff_getElem.1 inside
  obtain ⟨j, _, rfl⟩ := List.mem_iff_getElem.1 member
  have apart := List.pairwise_iff_getElem.1 named.apart
  rcases Nat.lt_trichotomy i j with less | rfl | more
  · exact apart i j _ _ less name bound boundToo
  · exact absurd rfl different
  · exact (apart j i _ _ more name boundToo bound).symm

theorem Node.names_unique {root : Node} {before : Scope} (named : WellNamed root.located before) :
    NamesUnique root where
  alternative := by
    refine List.pairwise_flatMap.2 ⟨?_, ?_⟩
    · intro one inside
      refine List.pairwise_map.2 ((named.distinct one inside).imp ?_)
      exact fun different same => absurd same different
    · refine named.apart.imp_of_mem ?_
      intro one other inside member apart first firstSite second secondSite same
      obtain ⟨name, bound, rfl⟩ := List.mem_map.1 firstSite
      obtain ⟨_, boundToo, rfl⟩ := List.mem_map.1 secondSite
      cases same
      exact (alternative_iff_apart inside _).2 (apart name bound boundToo)
  once := named.distinct
  lineage := by
    intro one inside other member above different name bound boundToo
    exact (named.apart_of_ne inside member different bound boundToo).not_above above
  conjuncts := by
    intro one inside other member above i j different first second name bound boundToo
    have apart : one.place ≠ other.place := by
      intro same
      rw [← same] at second
      have steps := (List.prefix_of_prefix_length_le first second (by simp)).eq_of_length (by simp)
      simp [different] at steps
    exact (named.apart_of_ne inside member apart bound boundToo).not_conjuncts different first second

theorem Node.references_resolved {root : Node} (named : WellNamed root.located Scope.empty) :
    ReferencesResolved root := by
  have captured : ∀ (index : Nat) (one : Located), root.located[index]? = some one →
      ∀ name ∈ one.description.references, ∃ (earlier : Nat) (other : Located), earlier < index ∧
        root.located[earlier]? = some other ∧ other.description.capture = some name ∧
          ¬ root.Alternative other.place one.place := by
    intro index one here name referred
    obtain ⟨inside, rfl⟩ := List.getElem?_eq_some_iff.1 here
    have split : root.located =
        root.located.take index ++ root.located[index] :: root.located.drop (index + 1) := by
      rw [List.getElem_cons_drop, List.take_append_drop]
    rcases named.resolved _ _ _ split name referred with known | ⟨other, member, captures, near⟩
    · cases known
    · obtain ⟨earlier, before, rfl⟩ := List.mem_iff_getElem.1 member
      rw [List.getElem_take] at captures near
      simp only [List.length_take] at before
      refine ⟨earlier, root.located[earlier], by omega, List.getElem?_eq_getElem _, ?_, ?_⟩
      · simpa [Description.captures] using captures
      · exact fun apart => near ((alternative_iff_apart (List.getElem_mem _) _).1 apart)
  refine ⟨captured, ?_⟩
  intro name absent description inside
  rw [← located_descriptions] at inside
  obtain ⟨one, member, rfl⟩ := List.mem_map.1 inside
  obtain ⟨index, within, rfl⟩ := List.mem_iff_getElem.1 member
  have unreferred : name ∉ root.located[index].description.references := by
    intro referred
    obtain ⟨earlier, other, -, found, captures, -⟩ :=
      captured index _ (List.getElem?_eq_getElem within) name referred
    refine absent other.description ?_ captures
    rw [← located_descriptions]
    exact List.mem_map_of_mem (List.mem_of_getElem? found)
  simp only [Description.references, List.mem_append, Option.mem_toList, not_or] at unreferred
  exact unreferred

namespace Grammar

variable {resolver : Resolver} {tokens : List Token} {parsed : Parsed}

/-- In an accepted pattern a name is bound twice only in two branches of one disjunction. -/
theorem parse_tokens_names_unique (accepted : parseTokens resolver tokens = .ok parsed) :
    NamesUnique parsed.root := by
  obtain ⟨names, behind, -⟩ := parse_tokens_scope accepted
  exact Node.names_unique (Node.well_named parsed.root behind)

theorem parse_tokens_names_unique_branches :
    ∃ (tokens : List Token) (parsed : Parsed),
      tokenize "S [< NP=x | < VP=x];".toList = .ok tokens ∧
        parseTokens .standard tokens = .ok parsed ∧
          parsed.root.sites.map Site.name = [['x'], ['x']] ∧ NamesUnique parsed.root := by
  have accepted : (parseText .standard "S [< NP=x | < VP=x];".toList).toOption.map
      (·.root.sites.map Site.name) = some [['x'], ['x']] := by decide +kernel
  obtain ⟨parsed, found, names⟩ := Option.map_eq_some_iff.1 accepted
  obtain ⟨tokens, lexed, parses⟩ := parse_text_eq_ok.1 (to_option_eq_some.1 found)
  exact ⟨tokens, parsed, lexed, parses, names, parse_tokens_names_unique parses⟩

/-- In an accepted pattern a link or a reference back is to a node that is captured earlier,
and not in another branch of a disjunction. -/
theorem parse_tokens_references_resolved (accepted : parseTokens resolver tokens = .ok parsed) :
    ReferencesResolved parsed.root := by
  obtain ⟨names, behind, -⟩ := parse_tokens_scope accepted
  exact Node.references_resolved (Node.well_named parsed.root behind)

theorem parse_tokens_references_resolved_link :
    ∃ (tokens : List Token) (parsed : Parsed),
      tokenize "S < NP=x < ~x;".toList = .ok tokens ∧ parseTokens .standard tokens = .ok parsed ∧
        parsed.root.descriptions.map Description.references = [[], [], [['x']]] ∧
          ReferencesResolved parsed.root := by
  have accepted : (parseText .standard "S < NP=x < ~x;".toList).toOption.map
      (·.root.descriptions.map Description.references) = some [[], [], [['x']]] := by decide +kernel
  obtain ⟨parsed, found, names⟩ := Option.map_eq_some_iff.1 accepted
  obtain ⟨tokens, lexed, parses⟩ := parse_text_eq_ok.1 (to_option_eq_some.1 found)
  exact ⟨tokens, parsed, lexed, parses, names, parse_tokens_references_resolved parses⟩

end Grammar

end TreeQuery
