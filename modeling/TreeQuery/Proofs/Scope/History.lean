import TreeQuery.Proofs.Scope.Listing
import Mathlib.Data.List.Induction
import Mathlib.Data.List.Nodup

/- Histories of the known names. A scope is worked on by one operation after the other,
   and a state that was saved may come back at any later time, alone or joined with
   others. Declarations never make one name that of a node and of a group as well. Only
   joining states does that, for they may have been reached without sight of one another,
   as those behind the branches of a disjunction are. -/
set_option autoImplicit false

namespace TreeQuery

-- Saved states are counted from zero, in the order in which they were saved.
inductive ScopeOperation where
  | declare (name : Text)
  | declareGroup (name : Text)
  | reference (name : Text)
  | contains (name : Text)
  | snapshot
  | restore (index : Nat)
  | mergeUnion (indices : List Nat)

structure ScopeTracker where
  known : Scope
  saved : List Scope

namespace ScopeTracker

def fresh : ScopeTracker := ⟨Scope.empty, []⟩

def states (tracker : ScopeTracker) : List Scope := tracker.known :: tracker.saved

def chosen (tracker : ScopeTracker) (indices : List Nat) : List Scope :=
  indices.filterMap (tracker.saved[·]?)

def apply (tracker : ScopeTracker) : ScopeOperation → ScopeTracker
  | .declare name =>
      { tracker with known := (tracker.known.declare name).toOption.getD tracker.known }
  | .declareGroup name =>
      { tracker with known := (tracker.known.declareGroup name).toOption.getD tracker.known }
  | .reference _ | .contains _ => tracker
  | .snapshot => { tracker with saved := tracker.saved ++ [tracker.known] }
  | .restore index => { tracker with known := tracker.saved[index]?.getD tracker.known }
  | .mergeUnion indices =>
      { tracker with known := tracker.known.mergeAll (tracker.chosen indices) }

def run (operations : List ScopeOperation) : ScopeTracker := operations.foldl apply fresh

def joined (tracker : ScopeTracker) : ScopeOperation → List Scope
  | .mergeUnion indices => tracker.known :: tracker.chosen indices
  | _ => []

-- One of the joined states knows the name as that of a node alone, another one as that
-- of a group alone.
def Mixes (tracker : ScopeTracker) (name : Text) (operation : ScopeOperation) : Prop :=
  (∃ one ∈ tracker.joined operation, name ∈ one.nodes ∧ name ∉ one.groups) ∧
    ∃ other ∈ tracker.joined operation, name ∈ other.groups ∧ name ∉ other.nodes

end ScopeTracker

namespace Scope

variable {scope after : Scope} {name other : Text} {scopes : List Scope}

def twofold (scope : Scope) : List Text := scope.groups.filter scope.nodes.contains

theorem mem_twofold : name ∈ scope.twofold ↔ name ∈ scope.nodes ∧ name ∈ scope.groups := by
  simp [twofold, and_comm]

theorem declare_eq_ok : scope.declare name = .ok after ↔
    (name ∉ scope.nodes ∧ name ∉ scope.groups) ∧
      { scope with nodes := name :: scope.nodes } = after := by
  rw [← knows_eq_false_iff]
  unfold declare
  cases scope.knows name <;> simp

theorem declare_group_eq_ok : scope.declareGroup name = .ok after ↔
    (name ∉ scope.nodes ∧ name ∉ scope.groups) ∧
      { scope with groups := name :: scope.groups } = after := by
  rw [← knows_eq_false_iff]
  unfold declareGroup
  cases scope.knows name <;> simp

-- A name that is declared is new, so that no name becomes twofold.

theorem declare_twofold (declared : scope.declare other = .ok after) :
    name ∈ after.twofold ↔ name ∈ scope.twofold := by
  obtain ⟨unknown, rfl⟩ := declare_eq_ok.1 declared
  rw [mem_twofold, mem_twofold, List.mem_cons]
  constructor
  · rintro ⟨rfl | ofNode, ofGroup⟩
    · exact absurd ofGroup unknown.2
    · exact ⟨ofNode, ofGroup⟩
  · rintro ⟨ofNode, ofGroup⟩
    exact ⟨.inr ofNode, ofGroup⟩

theorem declare_group_twofold (declared : scope.declareGroup other = .ok after) :
    name ∈ after.twofold ↔ name ∈ scope.twofold := by
  obtain ⟨unknown, rfl⟩ := declare_group_eq_ok.1 declared
  rw [mem_twofold, mem_twofold, List.mem_cons]
  constructor
  · rintro ⟨ofNode, rfl | ofGroup⟩
    · exact absurd ofNode unknown.1
    · exact ⟨ofNode, ofGroup⟩
  · rintro ⟨ofNode, ofGroup⟩
    exact ⟨ofNode, .inr ofGroup⟩

theorem mem_merge_all_nodes : name ∈ (scope.mergeAll scopes).nodes ↔
    ∃ one ∈ scope :: scopes, name ∈ one.nodes := by
  rw [mem_merge_all (fun _ _ => rfl)]
  simp

theorem mem_merge_all_groups : name ∈ (scope.mergeAll scopes).groups ↔
    ∃ one ∈ scope :: scopes, name ∈ one.groups := by
  rw [mem_merge_all (fun _ _ => rfl)]
  simp

structure Once (scope : Scope) : Prop where
  nodes : scope.nodes.Nodup
  groups : scope.groups.Nodup

theorem union_nodup {known added : List Text} (once : known.Nodup) : (union known added).Nodup := by
  induction added generalizing known with
  | nil => exact once
  | cons name added ih => exact ih (List.Nodup.insert once)

theorem Once.merge_all (once : scope.Once) (scopes : List Scope) : (scope.mergeAll scopes).Once := by
  induction scopes generalizing scope with
  | nil => exact once
  | cons other scopes ih => exact ih ⟨union_nodup once.nodes, union_nodup once.groups⟩

theorem Once.size_eq (once : scope.Once) :
    scope.size = scope.names.length + scope.twofold.length := by
  let others := scope.groups.filter fun name => !scope.nodes.contains name
  have parted : scope.groups.length = scope.twofold.length + others.length :=
    List.length_eq_length_filter_add _
  have disjoint : (scope.nodes ++ others).Nodup := by
    apply List.Nodup.append once.nodes (once.groups.filter _)
    intro name ofNode ofGroup
    simp [ofNode] at ofGroup
  have listed : scope.names.Perm (scope.nodes ++ others) := by
    apply (List.perm_ext_iff_of_nodup scope.names_nodup disjoint).2
    intro name
    by_cases ofNode : name ∈ scope.nodes <;> simp [mem_names, others, ofNode]
  have length := listed.length_eq
  rw [List.length_append] at length
  unfold size
  omega

end Scope

namespace ScopeTracker

variable {tracker : ScopeTracker} {operation : ScopeOperation} {operations : List ScopeOperation}
  {name : Text}

theorem kept_behind {kept : Scope → Prop} {declared : Except ScopeError Scope} {known : Scope}
    (succeeds : ∀ after, declared = .ok after → kept after) (fails : kept known) :
    kept (declared.toOption.getD known) := by
  cases declared with
  | ok after => exact succeeds after rfl
  | error error => exact fails

theorem apply_keeps {kept : Scope → Prop}
    (node : ∀ scope after name, scope.declare name = .ok after → kept scope → kept after)
    (group : ∀ scope after name, scope.declareGroup name = .ok after → kept scope → kept after)
    (merged : ∀ indices, operation = .mergeUnion indices →
      kept (tracker.known.mergeAll (tracker.chosen indices)))
    (each : ∀ state ∈ tracker.states, kept state) :
    ∀ state ∈ (tracker.apply operation).states, kept state := by
  obtain ⟨known, saved⟩ := List.forall_mem_cons.1 each
  cases operation with
  | declare name =>
      refine List.forall_mem_cons.2 ⟨?_, saved⟩
      exact kept_behind (fun after declared => node _ after name declared known) known
  | declareGroup name =>
      refine List.forall_mem_cons.2 ⟨?_, saved⟩
      exact kept_behind (fun after declared => group _ after name declared known) known
  | reference name => exact each
  | contains name => exact each
  | snapshot =>
      refine List.forall_mem_cons.2 ⟨known, ?_⟩
      exact List.forall_mem_append.2 ⟨saved, List.forall_mem_singleton.2 known⟩
  | restore index =>
      refine List.forall_mem_cons.2 ⟨?_, saved⟩
      cases found : tracker.saved[index]? with
      | none => simpa [apply, found] using known
      | some state => simpa [apply, found] using saved state (List.mem_of_getElem? found)
  | mergeUnion indices => exact List.forall_mem_cons.2 ⟨merged indices rfl, saved⟩

theorem run_concat : run (operations ++ [operation]) = (run operations).apply operation := by
  simp [run]

theorem run_once (operations : List ScopeOperation) :
    ∀ state ∈ (run operations).states, state.Once := by
  induction operations using List.reverseRecOn with
  | nil => exact List.forall_mem_singleton.2 ⟨.nil, .nil⟩
  | append_singleton operations operation ih =>
      rw [run_concat]
      apply apply_keeps _ _ _ ih
      · intro scope after name declared once
        obtain ⟨unknown, rfl⟩ := Scope.declare_eq_ok.1 declared
        exact ⟨once.nodes.cons unknown.1, once.groups⟩
      · intro scope after name declared once
        obtain ⟨unknown, rfl⟩ := Scope.declare_group_eq_ok.1 declared
        exact ⟨once.nodes, once.groups.cons unknown.2⟩
      · intro indices _
        exact (ih _ List.mem_cons_self).merge_all _

theorem Mixes.twofold (mixes : tracker.Mixes name operation) :
    name ∈ (tracker.apply operation).known.twofold := by
  cases operation with
  | mergeUnion indices =>
      obtain ⟨⟨one, inside, ofNode, -⟩, other, insideToo, ofGroup, -⟩ := mixes
      apply Scope.mem_twofold.2
      exact ⟨Scope.mem_merge_all_nodes.2 ⟨one, inside, ofNode⟩,
        Scope.mem_merge_all_groups.2 ⟨other, insideToo, ofGroup⟩⟩
  | _ =>
      obtain ⟨⟨one, inside, -⟩, -⟩ := mixes
      cases inside

theorem mixes_of_twofold {indices : List Nat}
    (each : ∀ state ∈ tracker.states, name ∉ state.twofold)
    (twofold : name ∈ (tracker.known.mergeAll (tracker.chosen indices)).twofold) :
    tracker.Mixes name (.mergeUnion indices) := by
  have apart : ∀ state ∈ tracker.known :: tracker.chosen indices, name ∉ state.twofold := by
    intro state inside
    apply each state
    rcases List.mem_cons.1 inside with rfl | inside
    · exact List.mem_cons_self
    · obtain ⟨index, -, found⟩ := List.mem_filterMap.1 inside
      exact List.mem_cons_of_mem _ (List.mem_of_getElem? found)
  obtain ⟨ofNodes, ofGroups⟩ := Scope.mem_twofold.1 twofold
  obtain ⟨one, inside, ofNode⟩ := Scope.mem_merge_all_nodes.1 ofNodes
  obtain ⟨other, insideToo, ofGroup⟩ := Scope.mem_merge_all_groups.1 ofGroups
  constructor
  · exact ⟨one, inside, ofNode, fun both => apart one inside (Scope.mem_twofold.2 ⟨ofNode, both⟩)⟩
  · exact ⟨other, insideToo, ofGroup, fun both =>
      apart other insideToo (Scope.mem_twofold.2 ⟨both, ofGroup⟩)⟩

theorem run_unmixed (unmixed : ∀ before operation later,
      operations = before ++ operation :: later → ¬ (run before).Mixes name operation) :
    ∀ state ∈ (run operations).states, name ∉ state.twofold := by
  induction operations using List.reverseRecOn with
  | nil => exact List.forall_mem_singleton.2 List.not_mem_nil
  | append_singleton operations operation ih =>
      have earlier : ∀ state ∈ (run operations).states, name ∉ state.twofold := by
        apply ih
        intro before step later split
        exact unmixed before step (later ++ [operation]) (by simp [split])
      rw [run_concat]
      apply apply_keeps _ _ _ earlier
      · intro scope after other declared apart twofold
        exact apart ((Scope.declare_twofold declared).1 twofold)
      · intro scope after other declared apart twofold
        exact apart ((Scope.declare_group_twofold declared).1 twofold)
      · rintro indices rfl twofold
        exact unmixed operations _ [] rfl (mixes_of_twofold earlier twofold)

/-- A name becomes known both as that of a node and as that of a group just when states are joined
of which one knows it as the first alone and another as the second alone. Such a name counts twice,
so that the size is the number of names as long as there is none. -/
theorem run_knows_twofold (operations : List ScopeOperation) :
    (∀ name, (∃ before later, operations = before ++ later ∧
        name ∈ (run before).known.nodes ∧ name ∈ (run before).known.groups) ↔
      ∃ before operation later, operations = before ++ operation :: later ∧
        (run before).Mixes name operation) ∧
    (run operations).known.size =
      (run operations).known.names.length + (run operations).known.twofold.length ∧
    ((run operations).known.size = (run operations).known.names.length ↔
      ∀ name, ¬ (name ∈ (run operations).known.nodes ∧ name ∈ (run operations).known.groups)) := by
  have size := (run_once operations _ List.mem_cons_self).size_eq
  simp only [← Scope.mem_twofold]
  refine ⟨?_, size, ?_⟩
  · intro name
    constructor
    · rintro ⟨before, later, rfl, twofold⟩
      by_contra none
      have unmixed : ∀ front operation behind, before = front ++ operation :: behind →
          ¬ (run front).Mixes name operation := by
        intro front operation behind split mixes
        exact none ⟨front, operation, behind ++ later, by simp [split], mixes⟩
      exact run_unmixed unmixed _ List.mem_cons_self twofold
    · rintro ⟨before, operation, later, rfl, mixes⟩
      refine ⟨before ++ [operation], later, by simp, ?_⟩
      rw [run_concat]
      exact mixes.twofold
  · rw [size, ← List.eq_nil_iff_forall_not_mem, ← List.length_eq_zero_iff]
    omega

-- Two branches that are read without sight of each other, as those of
-- `S [< A=x | < /(a)/#1=x]`, both bind one name.
theorem branches_know_twofold :
    let known := (run [.snapshot, .declare ['x'], .snapshot, .restore 0, .declareGroup ['x'],
      .mergeUnion [1]]).known
    ['x'] ∈ known.nodes ∧ ['x'] ∈ known.groups ∧ known.size = 2 ∧ known.names.length = 1 := by
  decide

end ScopeTracker

end TreeQuery
