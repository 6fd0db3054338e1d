import TreeQuery.Proofs.Scope.Declared
import TreeQuery.Proofs.Grammar.Derivation

/- The list of the names that a pattern declares: in order, each name once, and just
   the names that the descriptions of the tree bind, in every branch of every
   disjunction. -/
set_option autoImplicit false

namespace TreeQuery

theorem mem_insert_name {name other : Text} {names : List Text} :
    other ∈ insertName name names ↔ other = name ∨ other ∈ names := by
  induction names with
  | nil => simp [insertName]
  | cons first names ih =>
      by_cases same : name = first
      · simp [insertName, same]
      · by_cases less : name < first
        · simp [insertName, same, less]
        · simp only [insertName, if_neg same, if_neg less, List.mem_cons, ih, or_left_comm]

theorem insert_name_increasing {name : Text} {names : List Text}
    (increasing : names.Pairwise (· < ·)) : (insertName name names).Pairwise (· < ·) := by
  induction names with
  | nil => exact List.pairwise_singleton _ _
  | cons first names ih =>
      obtain ⟨least, later⟩ := List.pairwise_cons.1 increasing
      by_cases same : name = first
      · simpa [insertName, same] using increasing
      · by_cases less : name < first
        · rw [insertName, if_neg same, if_pos less]
          apply List.pairwise_cons.2
          refine ⟨?_, increasing⟩
          intro other inside
          rcases List.mem_cons.1 inside with equal | behind
          · exact equal ▸ less
          · exact List.lt_trans less (least other behind)
        · rw [insertName, if_neg same, if_neg less]
          apply List.pairwise_cons.2
          refine ⟨?_, ih later⟩
          have more : first < name := by
            by_cases below : first < name
            · exact below
            · exact absurd (List.le_antisymm (List.not_lt.1 below) (List.not_lt.1 less)) same
          intro other inside
          rcases mem_insert_name.1 inside with equal | behind
          · exact equal ▸ more
          · exact least other behind

namespace Scope

theorem names_increasing (scope : Scope) : scope.names.Pairwise (· < ·) := by
  unfold names
  induction scope.nodes ++ scope.groups with
  | nil => exact List.Pairwise.nil
  | cons name known ih => exact insert_name_increasing ih

theorem names_nodup (scope : Scope) : scope.names.Nodup := by
  apply scope.names_increasing.imp
  rintro name other less rfl
  exact List.lt_irrefl name less

theorem mem_names {scope : Scope} {name : Text} :
    name ∈ scope.names ↔ name ∈ scope.nodes ∨ name ∈ scope.groups := by
  rw [← List.mem_append]
  unfold names
  induction scope.nodes ++ scope.groups with
  | nil => exact Iff.rfl
  | cons first known ih => rw [List.foldr_cons, mem_insert_name, ih, List.mem_cons]

end Scope

theorem Node.mem_names_behind {root : Node} {after : Scope} {name : Text}
    (behind : root.scopeBehind true false Scope.empty = some after) :
    name ∈ after.names ↔ ∃ description ∈ root.descriptions, name ∈ description.bindings := by
  have nodes := adds tracks_nodes root behind name
  have groups := adds tracks_groups root behind name
  rw [Scope.mem_names, nodes, groups]
  simp only [Scope.empty, List.not_mem_nil, false_or, Description.mem_bindings, and_or_left,
    exists_or, or_comm]

theorem Description.mem_bindings_iff {description : Description} {name : Text} :
    name ∈ description.bindings ↔
      description.capture = some name ∨ ∃ group ∈ description.groups, group.name = name := by
  rw [mem_bindings, or_comm, captures, groupNames, Option.mem_toList, List.mem_map]

namespace Grammar

variable {resolver : Resolver} {tokens : List Token} {parsed : Parsed}

/-- The declared names of an accepted pattern are listed in order and each once. They are the
names of its nodes and the variables of its groups, in whichever branch these stand, and no
others. -/
theorem parse_tokens_names_listed (accepted : parseTokens resolver tokens = .ok parsed) :
    parsed.names.Pairwise (· < ·) ∧
      ∀ name, name ∈ parsed.names ↔ ∃ description ∈ parsed.root.descriptions,
        description.capture = some name ∨ ∃ group ∈ description.groups, group.name = name := by
  obtain ⟨scope, behind, listed⟩ := parse_tokens_scope accepted
  rw [listed]
  refine ⟨scope.names_increasing, ?_⟩
  intro name
  rw [Node.mem_names_behind behind]
  simp only [Description.mem_bindings_iff]

theorem parse_tokens_names_listed_branches :
    ∃ (tokens : List Token) (parsed : Parsed),
      tokenize "S=s [< /(a)(b)/#2=v=n | < (NP=m [< DT=d | < QP=n])] $ VP=e;".toList = .ok tokens ∧
        parseTokens .standard tokens = .ok parsed ∧
          parsed.names = [['d'], ['e'], ['m'], ['n'], ['s'], ['v']] ∧
            parsed.names.Pairwise (· < ·) ∧
              ∀ name, name ∈ parsed.names ↔ ∃ description ∈ parsed.root.descriptions,
                description.capture = some name ∨
                  ∃ group ∈ description.groups, group.name = name := by
  have accepted : (parseText .standard
      "S=s [< /(a)(b)/#2=v=n | < (NP=m [< DT=d | < QP=n])] $ VP=e;".toList).toOption.map
      (·.names) = some [['d'], ['e'], ['m'], ['n'], ['s'], ['v']] := by decide +kernel
  obtain ⟨parsed, found, names⟩ := Option.map_eq_some_iff.1 accepted
  obtain ⟨tokens, lexed, parses⟩ := parse_text_eq_ok.1 (to_option_eq_some.1 found)
  exact ⟨tokens, parsed, lexed, parses, names, parse_tokens_names_listed parses⟩

end Grammar

end TreeQuery
