import TreeQuery.Proofs.Scope.Behind

/- The names known behind a tree are those known before it and those that its
   descriptions declare, in whichever branch of a disjunction they stand. -/
set_option autoImplicit false

namespace TreeQuery

namespace Description

def groupNames (description : Description) : List Text := description.groups.map GroupCapture.name

def captures (description : Description) : List Text := description.capture.toList

def bindings (description : Description) : List Text :=
  description.groupNames ++ description.captures

def references (description : Description) : List Text :=
  description.link.toList ++ description.backreference.toList

theorem mem_bindings {description : Description} {name : Text} :
    name ∈ description.bindings ↔ name ∈ description.groupNames ∨ name ∈ description.captures :=
  List.mem_append

end Description

namespace Scope

variable {scope after : Scope} {name : Text}

theorem knows_eq_false_iff :
    scope.knows name = false ↔ name ∉ scope.nodes ∧ name ∉ scope.groups := by
  simp [knows]

theorem behind_group_eq_some : scope.behindGroup true name = some after ↔
    scope.knows name = false ∧ { scope with groups := name :: scope.groups } = after := by
  unfold behindGroup declareGroup
  cases scope.knows name <;> simp [Except.toOption]

theorem behind_reference_eq_some {target : Option Text} :
    scope.behindReference true target = some after ↔
      (∀ name, target = some name → name ∈ scope.nodes) ∧ scope = after := by
  cases target with
  | none => simp
  | some name =>
      unfold behindReference reference contains
      by_cases known : name ∈ scope.nodes <;> simp [known, Except.toOption]

theorem behind_capture_eq_some {underNegation : Bool} {capture : Option Text} :
    scope.behindCapture true underNegation capture = some after ↔
      (∀ name, capture = some name → scope.knows name = false ∧ underNegation = false) ∧
        { scope with nodes := capture.toList ++ scope.nodes } = after := by
  cases capture with
  | none => simp
  | some name =>
      unfold behindCapture declare
      cases known : scope.knows name <;> cases underNegation <;> simp [Except.toOption, known]

theorem behind_groups_eq_some {groups : List GroupCapture} :
    scope.behindGroups true groups = some after ↔
      (∀ group ∈ groups, scope.knows group.name = false) ∧ (groups.map GroupCapture.name).Nodup ∧
        { scope with groups := (groups.map GroupCapture.name).reverse ++ scope.groups } = after := by
  induction groups generalizing scope with
  | nil => simp
  | cons group groups ih =>
      simp only [behindGroups, Option.bind_eq_some_iff, behind_group_eq_some, ih]
      constructor
      · rintro ⟨_, ⟨fresh, rfl⟩, others, distinct, rfl⟩
        have apart : ∀ other ∈ groups, other.name ≠ group.name ∧ scope.knows other.name = false := by
          intro other inside
          have unknown := others other inside
          simp only [knows_eq_false_iff, List.mem_cons, not_or] at unknown ⊢
          exact ⟨unknown.2.1, unknown.1, unknown.2.2⟩
        refine ⟨?_, ?_, by simp⟩
        · simpa [fresh] using fun other inside => (apart other inside).2
        · simpa [distinct] using fun other inside => (apart other inside).1
      · rintro ⟨fresh, distinct, rfl⟩
        simp only [List.mem_cons, forall_eq_or_imp] at fresh
        simp only [List.map_cons, List.nodup_cons, List.mem_map, not_exists, not_and] at distinct
        refine ⟨_, ⟨fresh.1, rfl⟩, ?_, distinct.2, by simp⟩
        intro other inside
        have unknown := fresh.2 other inside
        simp only [knows_eq_false_iff, List.mem_cons, not_or] at unknown ⊢
        exact ⟨unknown.1, distinct.1 other inside, unknown.2⟩

theorem mem_union {known added : List Text} : name ∈ union known added ↔ name ∈ known ∨ name ∈ added := by
  induction added generalizing known with
  | nil => simp [union]
  | cons other others ih =>
      have step : union known (other :: others) = union (known.insert other) others := rfl
      rw [step, ih, List.mem_insert_iff, List.mem_cons]
      constructor
      · rintro ((same | inside) | inside)
        · exact .inr (.inl same)
        · exact .inl inside
        · exact .inr (.inr inside)
      · rintro (inside | same | inside)
        · exact .inl (.inr inside)
        · exact .inl (.inl same)
        · exact .inr inside

theorem mem_merge_all {part : Scope → List Text} {scopes : List Scope}
    (merges : ∀ one other, part (merge one other) = union (part one) (part other)) :
    name ∈ part (scope.mergeAll scopes) ↔
      name ∈ part scope ∨ ∃ other ∈ scopes, name ∈ part other := by
  induction scopes generalizing scope with
  | nil => simp [mergeAll]
  | cons other others ih =>
      have step : scope.mergeAll (other :: others) = (scope.merge other).mergeAll others := rfl
      rw [step, ih, merges, mem_union]
      simp [or_assoc]

-- No branch forgets a name, so that the last one adds nothing that is not in view.
theorem mem_joined {part : Scope → List Text} {scopes : List Scope}
    (merges : ∀ one other, part (merge one other) = union (part one) (part other))
    (grows : ∀ other ∈ scopes, name ∈ part scope → name ∈ part other) :
    name ∈ part (scope.joined scopes) ↔ name ∈ part scope ∨ ∃ other ∈ scopes, name ∈ part other := by
  rw [joined, mem_merge_all merges]
  cases scopes with
  | nil => simp
  | cons first others =>
      have last : (first :: others).getLastD scope ∈ first :: others := by
        rw [List.getLastD_cons]
        exact List.getLastD_mem_cons
      constructor
      · rintro (inside | inside)
        · exact .inr ⟨_, last, inside⟩
        · exact .inr inside
      · rintro (inside | inside)
        · exact .inl (grows _ last inside)
        · exact .inr inside

end Scope

def Adds (part : Scope → List Text) (names : Description → List Text)
    (descriptions : List Description) (before after : Scope) : Prop :=
  ∀ name, name ∈ part after ↔ name ∈ part before ∨ ∃ description ∈ descriptions, name ∈ names description

namespace Adds

variable {part : Scope → List Text} {names : Description → List Text}
  {descriptions others : List Description} {before middle after : Scope} {scopes : List Scope}

theorem nil : Adds part names [] before before := by simp [Adds]

theorem append (first : Adds part names descriptions before middle)
    (second : Adds part names others middle after) :
    Adds part names (descriptions ++ others) before after := by
  intro name
  rw [second name, first name]
  simp [or_and_right, exists_or, or_assoc]

end Adds

-- A part of the scope, with the names of a description that belong to it.
structure Tracks (part : Scope → List Text) (names : Description → List Text) : Prop where
  merges : ∀ one other, part (Scope.merge one other) = Scope.union (part one) (part other)
  single : ∀ description underNegation before after,
    Description.scopeBehind true underNegation description before = some after →
      Adds part names [description] before after

namespace Node

variable {part : Scope → List Text} {names : Description → List Text}

mutual

theorem adds (tracks : Tracks part names) : (node : Node) → ∀ {underNegation : Bool} {before after : Scope},
    node.scopeBehind true underNegation before = some after →
      Adds part names node.descriptions before after
  | .described description child, underNegation, before, after, found => by
      simp only [scopeBehind, Option.bind_eq_some_iff] at found
      obtain ⟨middle, here, below⟩ := found
      exact (tracks.single description _ before middle here).append (child_adds tracks child below)
  | .coordination c members, underNegation, before, after, found => by
      simp only [scopeBehind] at found
      split at found
      · exact conjuncts_add tracks members found
      · obtain ⟨scopes, behind, rfl⟩ := Option.map_eq_some_iff.1 found
        obtain ⟨grows, union⟩ := disjuncts_add tracks members behind
        intro name
        rw [Scope.mem_joined tracks.merges fun other inside => grows other inside name]
        exact union name

theorem child_adds (tracks : Tracks part names) : (child : Option Node) → ∀ {underNegation : Bool} {before after : Scope},
    childBehind true underNegation child before = some after →
      Adds part names ((describedNodesOfChild child).map Described.description) before after
  | none, underNegation, before, after, found => by
      cases found
      exact Adds.nil
  | some node, underNegation, before, after, found => adds tracks node found

theorem conjuncts_add (tracks : Tracks part names) : (nodes : List Node) → ∀ {underNegation : Bool} {before after : Scope},
    conjunctsBehind true underNegation nodes before = some after →
      Adds part names ((describedNodesOfMembers nodes).map Described.description) before after
  | [], underNegation, before, after, found => by
      cases found
      exact Adds.nil
  | node :: nodes, underNegation, before, after, found => by
      simp only [conjunctsBehind, Option.bind_eq_some_iff] at found
      obtain ⟨middle, first, others⟩ := found
      rw [describedNodesOfMembers, List.map_append]
      exact (adds tracks node first).append (conjuncts_add tracks nodes others)

theorem disjuncts_add (tracks : Tracks part names) : (nodes : List Node) → ∀ {underNegation : Bool} {before : Scope}
    {scopes : List Scope}, disjunctsBehind true underNegation nodes before = some scopes →
      (∀ other ∈ scopes, ∀ name ∈ part before, name ∈ part other) ∧
        ∀ name, (name ∈ part before ∨ ∃ other ∈ scopes, name ∈ part other) ↔
          name ∈ part before ∨ ∃ description ∈
            (describedNodesOfMembers nodes).map Described.description, name ∈ names description
  | [], underNegation, before, scopes, found => by
      cases found
      simp [describedNodesOfMembers]
  | node :: nodes, underNegation, before, scopes, found => by
      simp only [disjunctsBehind, Option.bind_eq_some_iff, Option.map_eq_some_iff] at found
      obtain ⟨first, here, others, behind, rfl⟩ := found
      have added := adds tracks node here
      obtain ⟨grows, union⟩ := disjuncts_add tracks nodes behind
      constructor
      · intro other inside name known
        rcases List.mem_cons.1 inside with rfl | inside
        · exact (added name).2 (.inl known)
        · exact grows other inside name known
      · intro name
        have first := added name
        have rest := union name
        simp only [describedNodesOfMembers, List.map_append, List.mem_append, List.mem_cons,
          or_and_right, exists_or]
        change _ ↔ _ ∨ (∃ description ∈ node.descriptions, _) ∨ _
        grind

end

end Node

namespace Description

structure Admitted (description : Description) (underNegation : Bool) (before : Scope) : Prop where
  fresh : ∀ name ∈ description.bindings, before.knows name = false
  distinct : description.bindings.Nodup
  known : ∀ name ∈ description.references, name ∈ before.nodes
  positive : ∀ name ∈ description.captures, underNegation = false

variable {description : Description} {underNegation : Bool} {before after : Scope}

theorem scope_behind_eq_some :
    description.scopeBehind true underNegation before = some after ↔
      description.Admitted underNegation before ∧
        ⟨description.captures ++ before.nodes, description.groupNames.reverse ++ before.groups⟩ =
          after := by
  simp only [scopeBehind, Option.bind_eq_some_iff, Scope.behind_groups_eq_some,
    Scope.behind_reference_eq_some, Scope.behind_capture_eq_some]
  constructor
  · rintro ⟨_, ⟨groups, distinct, rfl⟩, _, ⟨link, rfl⟩, _, ⟨backreference, rfl⟩, capture, rfl⟩
    refine ⟨⟨?_, ?_, ?_, ?_⟩, rfl⟩
    · intro name inside
      rcases mem_bindings.1 inside with inside | inside
      · obtain ⟨group, member, rfl⟩ := List.mem_map.1 inside
        exact groups group member
      · have unknown := (capture name (by simpa [captures] using inside)).1
        simp only [Scope.knows_eq_false_iff, List.mem_append, not_or] at unknown ⊢
        exact ⟨unknown.1, unknown.2.2⟩
    · refine List.nodup_append.2 ⟨distinct, ?_, ?_⟩
      · unfold captures
        cases description.capture <;> simp
      · rintro name grouped _ captured rfl
        have unknown := (capture name (by simpa [captures] using captured)).1
        simp only [Scope.knows_eq_false_iff, List.mem_append, not_or] at unknown
        exact unknown.2.1 (List.mem_reverse.2 grouped)
    · intro name inside
      rcases List.mem_append.1 inside with inside | inside
      · exact link name (by simpa using inside)
      · exact backreference name (by simpa using inside)
    · intro name inside
      exact (capture name (by simpa [captures] using inside)).2
  · rintro ⟨admitted, rfl⟩
    have apart := List.nodup_append.1 admitted.distinct
    refine ⟨_, ⟨?_, apart.1, rfl⟩, _, ⟨?_, rfl⟩, _, ⟨?_, rfl⟩, ?_, rfl⟩
    · intro group member
      exact admitted.fresh _ (mem_bindings.2 (.inl (List.mem_map_of_mem member)))
    · intro name target
      exact admitted.known name (List.mem_append_left _ (by simp [target]))
    · intro name target
      exact admitted.known name (List.mem_append_right _ (by simp [target]))
    · intro name capture
      have captured : name ∈ description.captures := by simp [captures, capture]
      have unknown := admitted.fresh name (mem_bindings.2 (.inr captured))
      simp only [Scope.knows_eq_false_iff, List.mem_append, not_or] at unknown ⊢
      refine ⟨⟨unknown.1, ?_, unknown.2⟩, admitted.positive name captured⟩
      exact fun grouped => apart.2.2 name (List.mem_reverse.1 grouped) name captured rfl

end Description

theorem tracks_nodes : Tracks Scope.nodes Description.captures where
  merges _ _ := rfl
  single description underNegation before after found := by
    obtain ⟨-, rfl⟩ := Description.scope_behind_eq_some.1 found
    simp [Adds, or_comm]

theorem tracks_groups : Tracks Scope.groups Description.groupNames where
  merges _ _ := rfl
  single description underNegation before after found := by
    obtain ⟨-, rfl⟩ := Description.scope_behind_eq_some.1 found
    simp [Adds, or_comm]

end TreeQuery
