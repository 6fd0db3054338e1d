import TreeQuery.Pattern.Node

/- Where descriptions stand in a tree: the steps that lead to them from the root. Two
   places are alternatives of one another if they lie in different branches of one
   disjunction, so that a match needs only one of them. -/
set_option autoImplicit false

namespace TreeQuery

inductive Step where
  | child
  | conjunct (index : Nat)
  | disjunct (index : Nat)
deriving DecidableEq

abbrev Place := List Step

structure Located where
  place : Place
  description : Description

def Located.under (step : Step) (located : Located) : Located :=
  { located with place := step :: located.place }

def Coordination.step (coordination : Coordination) (index : Nat) : Step :=
  if coordination.conjunctive then .conjunct index else .disjunct index

theorem Coordination.step_conjunct {c : Coordination} (conjunctive : c.conjunctive = true) :
    c.step = .conjunct := by
  funext index
  rw [step, if_pos conjunctive]

theorem Coordination.step_disjunct {c : Coordination} (disjunctive : ¬ c.conjunctive = true) :
    c.step = .disjunct := by
  funext index
  rw [step, if_neg disjunctive]

namespace Node

def below? : Step → Node → Option Node
  | .child, described _ child => child
  | .conjunct index, coordination c members => if c.conjunctive then members[index]? else none
  | .disjunct index, coordination c members => if c.conjunctive then none else members[index]?
  | _, _ => none

def at? : Place → Node → Option Node
  | [], node => some node
  | step :: place, node => (node.below? step).bind (at? place)

mutual

def located : Node → List Located
  | described description child => ⟨[], description⟩ :: locatedInChild child
  | coordination c members => locatedInMembers c.step 0 members

def locatedInChild : Option Node → List Located
  | none => []
  | some node => (located node).map (Located.under .child)

def locatedInMembers (step : Nat → Step) (index : Nat) : List Node → List Located
  | [] => []
  | node :: nodes =>
      (located node).map (Located.under (step index)) ++ locatedInMembers step (index + 1) nodes

end

mutual

theorem located_descriptions : (node : Node) →
    node.located.map Located.description = node.descriptions
  | described description child => by
      change description :: _ = description :: _
      rw [located_descriptions_child child]
  | coordination c members => located_descriptions_members c.step 0 members

theorem located_descriptions_child : (child : Option Node) →
    (locatedInChild child).map Located.description =
      (describedNodesOfChild child).map Described.description
  | none => rfl
  | some node => by
      rw [locatedInChild, List.map_map]
      exact located_descriptions node

theorem located_descriptions_members (step : Nat → Step) (index : Nat) : (nodes : List Node) →
    (locatedInMembers step index nodes).map Located.description =
      (describedNodesOfMembers nodes).map Described.description
  | [] => rfl
  | node :: nodes => by
      rw [locatedInMembers, describedNodesOfMembers, List.map_append, List.map_append, List.map_map]
      exact congr (congrArg _ (located_descriptions node))
        (located_descriptions_members step (index + 1) nodes)

end

theorem located_under_descriptions (step : Step) (node : Node) :
    (node.located.map (Located.under step)).map Located.description = node.descriptions := by
  rw [List.map_map]
  exact located_descriptions node

theorem at_append (front back : Place) (node : Node) :
    node.at? (front ++ back) = (node.at? front).bind (at? back) := by
  induction front generalizing node with
  | nil => rfl
  | cons step front ih =>
      simp only [List.cons_append, at?]
      cases node.below? step with
      | none => rfl
      | some below => exact ih below

theorem below_member (c : Coordination) (members : List Node) (index : Nat) :
    (coordination c members).below? (c.step index) = members[index]? := by
  cases conjunctive : c.conjunctive <;> simp [Coordination.step, below?, conjunctive]

mutual

theorem located_at : (node : Node) → ∀ found ∈ node.located,
    ∃ child, node.at? found.place = some (.described found.description child)
  | described description child => by
      intro found inside
      rcases List.mem_cons.1 inside with rfl | inside
      · exact ⟨child, rfl⟩
      · cases child with
        | none => cases inside
        | some node =>
            obtain ⟨other, member, rfl⟩ := List.mem_map.1 inside
            exact located_at node other member
  | coordination c members => by
      intro found inside
      obtain ⟨index, node, place, member, rest, there⟩ :=
        located_at_members c.step 0 members found inside
      obtain ⟨child, reached⟩ := there
      refine ⟨child, ?_⟩
      rw [rest, Nat.zero_add, at?, below_member, member]
      exact reached

theorem located_at_members (step : Nat → Step) (index : Nat) : (nodes : List Node) →
    ∀ found ∈ locatedInMembers step index nodes, ∃ offset node place, nodes[offset]? = some node ∧
      found.place = step (index + offset) :: place ∧
        ∃ child, node.at? place = some (.described found.description child)
  | [] => by
      intro found inside
      cases inside
  | node :: nodes => by
      intro found inside
      rcases List.mem_append.1 inside with inside | inside
      · obtain ⟨other, member, rfl⟩ := List.mem_map.1 inside
        exact ⟨0, node, other.place, rfl, rfl, located_at node other member⟩
      · obtain ⟨offset, other, place, member, rest, there⟩ :=
          located_at_members step (index + 1) nodes found inside
        exact ⟨offset + 1, other, place, member, by rw [rest, Nat.add_right_comm, Nat.add_assoc], there⟩

end

def isNegated : Node → Bool
  | described description _ => description.negated
  | coordination c _ => c.negated

def isOptional : Node → Bool
  | described description _ => description.optional
  | coordination c _ => c.optional

def Everywhere (holds : Node → Prop) (root : Node) : Prop :=
  ∀ place node, root.at? place = some node → holds node

theorem everywhere_described {holds : Node → Prop} {description : Description} {child : Option Node} :
    (described description child).Everywhere holds ↔
      holds (.described description child) ∧ ∀ node, child = some node → node.Everywhere holds := by
  constructor
  · intro all
    refine ⟨all [] _ rfl, ?_⟩
    rintro node rfl place other there
    exact all (.child :: place) other there
  · rintro ⟨here, below⟩ place other there
    cases place with
    | nil =>
        cases there
        exact here
    | cons step place =>
        obtain ⟨node, found, further⟩ := Option.bind_eq_some_iff.1 there
        cases step with
        | child => exact below node found place other further
        | conjunct index => cases found
        | disjunct index => cases found

theorem below_mem {step : Step} {c : Coordination} {members : List Node} {node : Node}
    (found : (coordination c members).below? step = some node) : node ∈ members := by
  cases step with
  | child => cases found
  | conjunct index =>
      simp only [below?] at found
      split at found
      · exact List.mem_of_getElem? found
      · cases found
  | disjunct index =>
      simp only [below?] at found
      split at found
      · cases found
      · exact List.mem_of_getElem? found

theorem everywhere_coordination {holds : Node → Prop} {c : Coordination} {members : List Node} :
    (coordination c members).Everywhere holds ↔
      holds (.coordination c members) ∧ ∀ node ∈ members, node.Everywhere holds := by
  constructor
  · intro all
    refine ⟨all [] _ rfl, ?_⟩
    intro node inside place other there
    obtain ⟨index, found⟩ := List.getElem?_of_mem inside
    refine all (c.step index :: place) other ?_
    rw [at?, below_member, found]
    exact there
  · rintro ⟨here, below⟩ place other there
    cases place with
    | nil =>
        cases there
        exact here
    | cons step place =>
        obtain ⟨node, found, further⟩ := Option.bind_eq_some_iff.1 there
        exact below node (below_mem found) place other further

section Decide

variable {holds : Node → Prop} [DecidablePred holds]

mutual

-- A tree has infinitely many places, but a property is decided by a walk over it.
def decideEverywhere : (node : Node) → Decidable (node.Everywhere holds)
  | described _ child =>
      have := decideEverywhereInChild child
      decidable_of_iff _ everywhere_described.symm
  | coordination _ members =>
      have := decideEverywhereInMembers members
      decidable_of_iff _ everywhere_coordination.symm

def decideEverywhereInChild : (child : Option Node) →
    Decidable (∀ node, child = some node → node.Everywhere holds)
  | none => .isTrue fun _ same => by cases same
  | some node =>
      have := decideEverywhere node
      decidable_of_iff (node.Everywhere holds) (by simp)

def decideEverywhereInMembers : (nodes : List Node) →
    Decidable (∀ node ∈ nodes, node.Everywhere holds)
  | [] => .isTrue (by simp)
  | node :: nodes =>
      have := decideEverywhere node
      have := decideEverywhereInMembers nodes
      decidable_of_iff _ List.forall_mem_cons.symm

end

instance (node : Node) : Decidable (node.Everywhere holds) := decideEverywhere node

end Decide

end Node

def Apart (one other : Place) : Prop :=
  ∃ above i j back back', i ≠ j ∧ one = above ++ .disjunct i :: back ∧
    other = above ++ .disjunct j :: back'

theorem apart_cons {step step' : Step} {one other : Place} :
    Apart (step :: one) (step' :: other) ↔
      (step = step' ∧ Apart one other) ∨ ∃ i j, i ≠ j ∧ step = .disjunct i ∧ step' = .disjunct j := by
  constructor
  · rintro ⟨above, i, j, back, back', different, first, second⟩
    cases above with
    | nil =>
        cases first
        cases second
        exact .inr ⟨i, j, different, rfl, rfl⟩
    | cons shared above =>
        cases first
        cases second
        exact .inl ⟨rfl, above, i, j, back, back', different, rfl, rfl⟩
  · rintro (⟨rfl, above, i, j, back, back', different, rfl, rfl⟩ | ⟨i, j, different, rfl, rfl⟩)
    · exact ⟨step :: above, i, j, back, back', different, rfl, rfl⟩
    · exact ⟨[], i, j, one, other, different, rfl, rfl⟩

theorem not_apart_nil (other : Place) : ¬ Apart [] other := by
  rintro ⟨above, i, j, back, back', -, first, -⟩
  simp at first

theorem apart_same {step : Step} {one other : Place} :
    Apart (step :: one) (step :: other) ↔ Apart one other := by
  rw [apart_cons]
  constructor
  · rintro (⟨-, apart⟩ | ⟨i, j, different, rfl, same⟩)
    · exact apart
    · exact absurd (Step.disjunct.inj same) different
  · exact fun apart => .inl ⟨rfl, apart⟩

theorem apart_append (above one other : Place) :
    Apart (above ++ one) (above ++ other) ↔ Apart one other := by
  induction above with
  | nil => exact Iff.rfl
  | cons step above ih => exact apart_same.trans ih

theorem Apart.symm {one other : Place} (apart : Apart one other) : Apart other one := by
  obtain ⟨above, i, j, back, back', different, first, second⟩ := apart
  exact ⟨above, j, i, back', back, different.symm, second, first⟩

theorem Apart.not_above {one other : Place} (apart : Apart one other) : ¬ one <+: other := by
  rintro ⟨rest, rfl⟩
  rw [← List.append_nil one, List.append_assoc, apart_append] at apart
  exact not_apart_nil _ apart

theorem Apart.not_conjuncts {one other above : Place} {i j : Nat} (apart : Apart one other)
    (different : i ≠ j) (first : above ++ [.conjunct i] <+: one) :
    ¬ above ++ [.conjunct j] <+: other := by
  obtain ⟨rest, rfl⟩ := first
  rintro ⟨rest', rfl⟩
  rw [List.append_assoc, List.append_assoc, apart_append] at apart
  rcases apart_cons.1 apart with ⟨same, -⟩ | ⟨_, _, -, disjunct, -⟩
  · exact different (Step.conjunct.inj same)
  · cases disjunct

def Node.Alternative (root : Node) (one other : Place) : Prop :=
  ∃ above c members i j, root.at? above = some (.coordination c members) ∧ c.conjunctive = false ∧
    i ≠ j ∧ above ++ [.disjunct i] <+: one ∧ above ++ [.disjunct j] <+: other

theorem Node.below_disjunct {node below : Node} {index : Nat}
    (found : node.below? (.disjunct index) = some below) :
    ∃ c members, node = .coordination c members ∧ c.conjunctive = false := by
  cases node with
  | described description child => cases found
  | coordination c members =>
      refine ⟨c, members, rfl, ?_⟩
      cases conjunctive : c.conjunctive with
      | false => rfl
      | true => simp [below?, conjunctive] at found

theorem Node.alternative_iff_apart {root : Node} {one : Located} (inside : one ∈ root.located)
    (other : Place) : root.Alternative one.place other ↔ Apart one.place other := by
  constructor
  · rintro ⟨above, c, members, i, j, -, -, different, ⟨back, first⟩, ⟨back', second⟩⟩
    exact ⟨above, i, j, back, back', different, by simp [← first], by simp [← second]⟩
  · rintro ⟨above, i, j, back, back', different, first, second⟩
    obtain ⟨child, there⟩ := located_at root one inside
    rw [first, at_append] at there
    obtain ⟨node, reached, further⟩ := Option.bind_eq_some_iff.1 there
    obtain ⟨below, found, -⟩ := Option.bind_eq_some_iff.1 further
    obtain ⟨c, members, rfl, conjunctive⟩ := below_disjunct found
    exact ⟨above, c, members, i, j, reached, conjunctive, different, ⟨back, by simp [first]⟩,
      ⟨back', by simp [second]⟩⟩

end TreeQuery
