import TreeQuery.Proofs.Scope.History
import Mathlib.Data.Char
import Mathlib.Data.Finset.Sort
import Mathlib.Data.Finset.Union
import Mathlib.Data.List.Lex

/- Known names as two plain sets, one of the nodes and one of the group variables. A scope keeps
   its names in lists, but every answer that it gives, now and after any operations, is that of
   the two sets. -/
set_option autoImplicit false

namespace TreeQuery

def listNames (names : Finset Text) : List Text := names.sort

inductive NameRole where
  | node
  | group

-- What is known, either the names themselves or keys in their stead.
@[ext]
structure KnownSets (Name : Type) where
  nodes : Finset Name
  groups : Finset Name
deriving DecidableEq

structure StateQueries (State : Type) where
  size : State → Nat
  isEmpty : State → Bool
  same : State → State → Bool

inductive ScopeAnswer where
  | done
  | declared (result : Except ScopeError Unit)
  | referenced (result : Except ScopeError Unit)
  | found (known : Bool)

-- What is told of the state now, which comes first, and of the saved ones: what the next
-- operation would answer, and all that can be asked of the states.
structure ScopeView where
  answer : ScopeOperation → ScopeAnswer
  names : List Text
  sizes : List Nat
  empty : List Bool
  same : List (List Bool)

namespace StateQueries

variable {State Plain : Type}

def view (queries : StateQueries State) (answer : ScopeOperation → ScopeAnswer)
    (names : List Text) (states : List State) : ScopeView where
  answer := answer
  names := names
  sizes := states.map queries.size
  empty := states.map queries.isEmpty
  same := states.map fun one => states.map (queries.same one)

theorem view_map {queries : StateQueries State} {plain : StateQueries Plain}
    {meaning : State → Plain} {states : List State} (answer : ScopeOperation → ScopeAnswer)
    (names : List Text)
    (size : ∀ one ∈ states, queries.size one = plain.size (meaning one))
    (isEmpty : ∀ one ∈ states, queries.isEmpty one = plain.isEmpty (meaning one))
    (same : ∀ one ∈ states, ∀ other ∈ states,
      queries.same one other = plain.same (meaning one) (meaning other)) :
    queries.view answer names states = plain.view answer names (states.map meaning) := by
  simp only [view, ScopeView.mk.injEq, List.map_map, true_and]
  refine ⟨List.map_congr_left size, List.map_congr_left isEmpty, ?_⟩
  exact List.map_congr_left fun one inside => List.map_congr_left (same one inside)

end StateQueries

namespace KnownSets

variable {Name Other : Type} [DecidableEq Name] [DecidableEq Other]

def empty : KnownSets Name := ⟨∅, ∅⟩

def all (sets : KnownSets Name) : Finset Name := sets.nodes ∪ sets.groups

def add (sets : KnownSets Name) (role : NameRole) (name : Name) : KnownSets Name :=
  match role with
  | .node => { sets with nodes := insert name sets.nodes }
  | .group => { sets with groups := insert name sets.groups }

def merge (sets other : KnownSets Name) : KnownSets Name :=
  ⟨sets.nodes ∪ other.nodes, sets.groups ∪ other.groups⟩

def mergeAll (sets : KnownSets Name) (others : List (KnownSets Name)) : KnownSets Name :=
  others.foldl merge sets

def queries : StateQueries (KnownSets Name) where
  size sets := sets.nodes.card + sets.groups.card
  isEmpty sets := sets.nodes = ∅ ∧ sets.groups = ∅
  same one other := one = other

def map (meaning : Name → Other) (sets : KnownSets Name) : KnownSets Other :=
  ⟨sets.nodes.image meaning, sets.groups.image meaning⟩

def names (sets : KnownSets Text) : List Text := listNames sets.all

def declare (sets : KnownSets Text) (role : NameRole) (name : Text) :
    Except ScopeError (KnownSets Text) :=
  if name ∈ sets.all then .error (.duplicate name) else .ok (sets.add role name)

def reference (sets : KnownSets Text) (name : Text) : Except ScopeError Unit :=
  if name ∈ sets.nodes then .ok () else .error (.unknown name)

end KnownSets

structure SetTracker where
  known : KnownSets Text
  saved : List (KnownSets Text)

namespace SetTracker

def fresh : SetTracker := ⟨.empty, []⟩

def states (tracker : SetTracker) : List (KnownSets Text) := tracker.known :: tracker.saved

def answer (tracker : SetTracker) : ScopeOperation → ScopeAnswer
  | .declare name => .declared ((tracker.known.declare .node name).map fun _ => ())
  | .declareGroup name => .declared ((tracker.known.declare .group name).map fun _ => ())
  | .reference name => .referenced (tracker.known.reference name)
  | .contains name => .found (name ∈ tracker.known.nodes)
  | .snapshot | .restore _ | .mergeUnion _ => .done

def apply (tracker : SetTracker) : ScopeOperation → SetTracker
  | .declare name =>
      { tracker with known := (tracker.known.declare .node name).toOption.getD tracker.known }
  | .declareGroup name =>
      { tracker with known := (tracker.known.declare .group name).toOption.getD tracker.known }
  | .reference _ | .contains _ => tracker
  | .snapshot => { tracker with saved := tracker.saved ++ [tracker.known] }
  | .restore index => { tracker with known := tracker.saved[index]?.getD tracker.known }
  | .mergeUnion indices =>
      { tracker with known := tracker.known.mergeAll (indices.filterMap (tracker.saved[·]?)) }

def run (operations : List ScopeOperation) : SetTracker := operations.foldl apply fresh

theorem run_concat (operations : List ScopeOperation) (operation : ScopeOperation) :
    run (operations ++ [operation]) = (run operations).apply operation := by
  simp [run]

def view (tracker : SetTracker) : ScopeView :=
  KnownSets.queries.view tracker.answer tracker.known.names tracker.states

theorem apply_refused {tracker : SetTracker} {operation : ScopeOperation} {error : ScopeError}
    (refused : tracker.answer operation = .declared (.error error)) :
    tracker.apply operation = tracker := by
  have kept : ∀ declared : Except ScopeError (KnownSets Text),
      (declared.map fun _ => ()) = .error error →
        declared.toOption.getD tracker.known = tracker.known := by
    rintro (_ | after) fails
    · rfl
    · cases fails
  cases operation with
  | declare name => simp only [apply, kept _ (ScopeAnswer.declared.inj refused)]
  | declareGroup name => simp only [apply, kept _ (ScopeAnswer.declared.inj refused)]
  | _ => cases refused

end SetTracker

namespace Scope

variable {scope : Scope}

def sets (scope : Scope) : KnownSets Text := ⟨scope.nodes.toFinset, scope.groups.toFinset⟩

def queries : StateQueries Scope := ⟨size, isEmpty, same⟩

theorem knows_iff {name : Text} : name ∈ scope.sets.all ↔ scope.knows name := by
  simp [sets, KnownSets.all, knows]

theorem admit_sets {added : Scope} {role : NameRole} {name : Text}
    (same : added.sets = scope.sets.add role name) :
    (if scope.knows name then Except.error (ScopeError.duplicate name) else .ok added).map sets =
      scope.sets.declare role name := by
  unfold KnownSets.declare
  by_cases known : scope.knows name
  · rw [if_pos known, if_pos (knows_iff.2 known)]
    rfl
  · rw [if_neg known, if_neg (mt knows_iff.1 known), ← same]
    rfl

theorem declare_sets (scope : Scope) (name : Text) :
    (scope.declare name).map sets = scope.sets.declare .node name :=
  admit_sets (by simp [sets, KnownSets.add])

theorem declare_group_sets (scope : Scope) (name : Text) :
    (scope.declareGroup name).map sets = scope.sets.declare .group name :=
  admit_sets (by simp [sets, KnownSets.add])

theorem merge_sets (scope other : Scope) :
    (scope.merge other).sets = scope.sets.merge other.sets := by
  have union : ∀ known added : List Text,
      (union known added).toFinset = known.toFinset ∪ added.toFinset := by
    intro known added
    ext name
    simp [mem_union]
  simp [merge, sets, KnownSets.merge, union]

theorem merge_all_sets (scope : Scope) (scopes : List Scope) :
    (scope.mergeAll scopes).sets = scope.sets.mergeAll (scopes.map sets) := by
  rw [mergeAll, KnownSets.mergeAll, List.foldl_map]
  exact (List.foldl_hom sets fun one other => (merge_sets one other).symm).symm

theorem Once.size_sets (once : scope.Once) :
    queries.size scope = KnownSets.queries.size scope.sets :=
  congrArg₂ (· + ·) (List.toFinset_card_of_nodup once.nodes).symm
    (List.toFinset_card_of_nodup once.groups).symm

theorem is_empty_sets (scope : Scope) :
    queries.isEmpty scope = KnownSets.queries.isEmpty scope.sets := by
  cases nodes : scope.nodes <;> cases groups : scope.groups <;>
    simp [queries, isEmpty, KnownSets.queries, sets, nodes, groups]

theorem same_sets (scope other : Scope) :
    queries.same scope other = KnownSets.queries.same scope.sets other.sets := by
  have names : ∀ known others : List Text,
      sameNames known others = decide (known.toFinset = others.toFinset) := by
    intro known others
    rw [Bool.eq_iff_iff, decide_eq_true_iff, Finset.ext_iff]
    simp [sameNames, iff_def, forall_and]
  simp [queries, same, KnownSets.queries, sets, names]

theorem names_sets (scope : Scope) : scope.names = scope.sets.names := by
  have listed : scope.names.toFinset = scope.sets.all := by
    ext name
    simp [mem_names, sets, KnownSets.all]
  rw [KnownSets.names, listNames, ← listed]
  exact ((List.toFinset_sort _ scope.names_nodup).2 (scope.names_increasing.imp le_of_lt)).symm

end Scope

namespace ScopeTracker

variable {tracker : ScopeTracker}

def answer (tracker : ScopeTracker) : ScopeOperation → ScopeAnswer
  | .declare name => .declared ((tracker.known.declare name).map fun _ => ())
  | .declareGroup name => .declared ((tracker.known.declareGroup name).map fun _ => ())
  | .reference name => .referenced (tracker.known.reference name)
  | .contains name => .found (tracker.known.contains name)
  | .snapshot | .restore _ | .mergeUnion _ => .done

def view (tracker : ScopeTracker) : ScopeView :=
  Scope.queries.view tracker.answer tracker.known.names tracker.states

def sets (tracker : ScopeTracker) : SetTracker :=
  ⟨tracker.known.sets, tracker.saved.map Scope.sets⟩

theorem answer_sets (tracker : ScopeTracker) (operation : ScopeOperation) :
    tracker.answer operation = tracker.sets.answer operation := by
  have told : ∀ declared : Except ScopeError Scope,
      (declared.map fun _ => ()) = (declared.map Scope.sets).map fun _ => () := by
    rintro (_ | _) <;> rfl
  cases operation with
  | declare name => simp only [answer, SetTracker.answer, told, Scope.declare_sets, sets]
  | declareGroup name => simp only [answer, SetTracker.answer, told, Scope.declare_group_sets, sets]
  | reference name =>
      simp [answer, SetTracker.answer, sets, Scope.sets, Scope.reference, Scope.contains,
        KnownSets.reference]
  | contains name => simp [answer, SetTracker.answer, sets, Scope.sets, Scope.contains]
  | snapshot => rfl
  | restore index => rfl
  | mergeUnion indices => rfl

theorem apply_sets (tracker : ScopeTracker) (operation : ScopeOperation) :
    (tracker.apply operation).sets = tracker.sets.apply operation := by
  have behind : ∀ declared : Except ScopeError Scope, (declared.toOption.getD tracker.known).sets =
      (declared.map Scope.sets).toOption.getD tracker.known.sets := by
    rintro (_ | _) <;> rfl
  cases operation with
  | declare name => simp only [apply, SetTracker.apply, sets, behind, Scope.declare_sets]
  | declareGroup name => simp only [apply, SetTracker.apply, sets, behind, Scope.declare_group_sets]
  | reference name => rfl
  | contains name => rfl
  | snapshot => simp [apply, SetTracker.apply, sets]
  | restore index => simp [apply, SetTracker.apply, sets, Option.getD_map]
  | mergeUnion indices =>
      simp [apply, SetTracker.apply, sets, chosen, Scope.merge_all_sets, List.map_filterMap]

theorem run_sets (operations : List ScopeOperation) :
    (run operations).sets = SetTracker.run operations := by
  induction operations using List.reverseRecOn with
  | nil => rfl
  | append_singleton operations operation ih =>
      rw [run_concat, SetTracker.run_concat, apply_sets, ih]

theorem view_sets (once : ∀ state ∈ tracker.states, state.Once) :
    tracker.view = tracker.sets.view := by
  unfold view SetTracker.view
  rw [funext tracker.answer_sets, Scope.names_sets]
  exact StateQueries.view_map _ _ (fun state inside => (once state inside).size_sets)
    (fun state _ => state.is_empty_sets) (fun state _ other _ => state.same_sets other)

theorem run_view_sets (operations : List ScopeOperation) :
    (run operations).view = (SetTracker.run operations).view := by
  rw [view_sets (run_once operations), run_sets]

end ScopeTracker

end TreeQuery
