import TreeQuery.Proofs.Scope.Sets

/- Known names as keys. Every name that is declared gets a key from an interner, also where the
   declaration fails, and keeps it where a saved state comes back. Since no name has two keys and
   no key loses its name, sets of keys tell the same as the sets of the names themselves. -/
set_option autoImplicit false

namespace TreeQuery

-- What is relied on of an interner: a name that was interned is found under its key, and a key
-- goes on to stand for its name whatever is interned later.
structure Interner (Table Key : Type) where
  fresh : Table
  intern : Table → Text → Key × Table
  find : Table → Text → Option Key
  resolve : Table → Key → Option Text
  find_eq_some_iff {table : Table} {name : Text} {key : Key} :
    find table name = some key ↔ resolve table key = some name
  resolve_intern (table : Table) (name : Text) :
    resolve (intern table name).2 (intern table name).1 = some name
  resolve_kept {table : Table} {key : Key} {other : Text} (name : Text) :
    resolve table key = some other → resolve (intern table name).2 key = some other

namespace Interner

section Laws

variable {Table Key : Type} (interner : Interner Table Key) {table : Table} {key : Key}
  {name : Text}

def keys (table : Table) : Set Key := {key | ∃ name, interner.resolve table key = some name}

def nameOf (table : Table) (key : Key) : Text := (interner.resolve table key).getD []

variable {interner}

theorem name_of_eq (found : interner.resolve table key = some name) :
    interner.nameOf table key = name := by
  rw [nameOf, found]
  rfl

theorem name_of_kept (inside : key ∈ interner.keys table) (other : Text) :
    interner.nameOf (interner.intern table other).2 key = interner.nameOf table key := by
  obtain ⟨name, found⟩ := inside
  rw [name_of_eq found, name_of_eq (interner.resolve_kept other found)]

-- A name is found under one key only, so no two keys have one name.
theorem name_of_injective (table : Table) :
    Set.InjOn (interner.nameOf table) (interner.keys table) := by
  rintro key ⟨name, found⟩ other ⟨another, foundToo⟩ same
  rw [name_of_eq found, name_of_eq foundToo] at same
  subst another
  have isKey := interner.find_eq_some_iff.2 found
  rw [interner.find_eq_some_iff.2 foundToo] at isKey
  exact (Option.some.inj isKey).symm

end Laws

theorem idx_of_eq_some_iff {names : List Text} (once : names.Nodup) {name : Text} {place : Nat} :
    names.idxOf? name = some place ↔ names[place]? = some name := by
  rw [List.idxOf?_eq_some_iff, List.getElem?_eq_some_iff]
  constructor
  · rintro ⟨inside, same, -⟩
    exact ⟨inside, by simpa using same⟩
  · rintro ⟨inside, rfl⟩
    refine ⟨inside, by simp, ?_⟩
    intro earlier before
    simp [once.getElem_inj_iff, before.ne]

-- The names in the order in which they came. The key of a name is its place.
def listed : Interner { names : List Text // names.Nodup } Nat where
  fresh := ⟨[], List.nodup_nil⟩
  intern table name :=
    match found : table.val.idxOf? name with
    | some place => (place, table)
    | none =>
        have absent : name ∉ table.val := List.idxOf?_eq_none_iff.1 found
        have once : (table.val ++ [name]).Nodup :=
          table.property.append (List.nodup_singleton name) (by simpa using absent)
        (table.val.length, ⟨table.val ++ [name], once⟩)
  find table name := table.val.idxOf? name
  resolve table key := table.val[key]?
  find_eq_some_iff {table name key} := idx_of_eq_some_iff table.property
  resolve_intern table name := by
    split
    next place found => exact (idx_of_eq_some_iff table.property).1 found
    next => exact List.getElem?_concat_length
  resolve_kept {table key other} name found := by
    split
    · exact found
    · obtain ⟨inside, -⟩ := List.getElem?_eq_some_iff.1 found
      exact (List.getElem?_append_left inside).trans found

end Interner

namespace KnownSets

section Map

variable {Name Other : Type} [DecidableEq Name] [DecidableEq Other] (meaning : Name → Other)
  (sets : KnownSets Name)

theorem map_all : (sets.map meaning).all = sets.all.image meaning :=
  (Finset.image_union _ _).symm

theorem map_add (role : NameRole) (name : Name) :
    (sets.add role name).map meaning = (sets.map meaning).add role (meaning name) := by
  cases role <;> simp [add, map, Finset.image_insert]

theorem map_merge_all (others : List (KnownSets Name)) : (sets.mergeAll others).map meaning =
    (sets.map meaning).mergeAll (others.map (KnownSets.map meaning)) := by
  rw [mergeAll, mergeAll, List.foldl_map]
  refine (List.foldl_hom (KnownSets.map meaning) ?_).symm
  intro one other
  simp [merge, map, Finset.image_union]

end Map

section Members

variable {Name : Type} [DecidableEq Name] {sets : KnownSets Name} {name : Name}

theorem mem_add_all {role : NameRole} {other : Name} :
    other ∈ (sets.add role name).all ↔ other = name ∨ other ∈ sets.all := by
  cases role <;> simp [add, all]

theorem mem_merge_all_all {others : List (KnownSets Name)} :
    name ∈ (sets.mergeAll others).all ↔ ∃ one ∈ sets :: others, name ∈ one.all := by
  induction others generalizing sets with
  | nil => simp [mergeAll]
  | cons other others ih =>
      change name ∈ ((sets.merge other).mergeAll others).all ↔ _
      rw [ih]
      simp [merge, all, or_assoc, or_left_comm]

end Members

theorem view_map {Name Other : Type} [DecidableEq Name] [DecidableEq Other]
    {meaning : Name → Other} {keys : Set Name} {states : List (KnownSets Name)}
    (answer : ScopeOperation → ScopeAnswer) (names : List Text) (injective : keys.InjOn meaning)
    (inside : ∀ state ∈ states, ∀ key ∈ state.all, key ∈ keys) :
    queries.view answer names states = queries.view answer names (states.map (map meaning)) := by
  have nodes : ∀ state ∈ states, ↑state.nodes ⊆ keys := by
    intro state member key known
    exact inside state member key (Finset.mem_union_left _ known)
  have groups : ∀ state ∈ states, ↑state.groups ⊆ keys := by
    intro state member key known
    exact inside state member key (Finset.mem_union_right _ known)
  have apart : ∀ one other : Finset Name, ↑one ⊆ keys → ↑other ⊆ keys →
      (one.image meaning = other.image meaning ↔ one = other) := by
    intro one other inside insideToo
    rw [← Finset.coe_inj, Finset.coe_image, Finset.coe_image,
      injective.image_eq_image_iff inside insideToo, Finset.coe_inj]
  apply StateQueries.view_map
  · intro state member
    exact congrArg₂ (· + ·)
      (Finset.card_image_of_injOn (injective.mono (nodes state member))).symm
      (Finset.card_image_of_injOn (injective.mono (groups state member))).symm
  · intro state _
    simp [queries, map]
  · intro one member other memberToo
    apply decide_eq_decide.2
    rw [KnownSets.ext_iff, KnownSets.ext_iff]
    exact and_congr (apart _ _ (nodes one member) (nodes other memberToo)).symm
      (apart _ _ (groups one member) (groups other memberToo)).symm

end KnownSets

structure KeyedTracker (Table Key : Type) where
  table : Table
  known : KnownSets Key
  saved : List (KnownSets Key)

namespace KeyedTracker

variable {Table Key : Type} [DecidableEq Key] (interner : Interner Table Key)

def fresh : KeyedTracker Table Key := ⟨interner.fresh, .empty, []⟩

def states (tracker : KeyedTracker Table Key) : List (KnownSets Key) :=
  tracker.known :: tracker.saved

def declare (tracker : KeyedTracker Table Key) (role : NameRole) (name : Text) :
    Except ScopeError Unit × KeyedTracker Table Key :=
  let (key, table) := interner.intern tracker.table name
  if key ∈ tracker.known.nodes ∨ key ∈ tracker.known.groups then
    (.error (.duplicate name), { tracker with table })
  else (.ok (), { tracker with table, known := tracker.known.add role key })

-- A name that has no key is not known. It gets none by the question.
def contains (tracker : KeyedTracker Table Key) (name : Text) : Bool :=
  (interner.find tracker.table name).any fun key => key ∈ tracker.known.nodes

def reference (tracker : KeyedTracker Table Key) (name : Text) : Except ScopeError Unit :=
  if tracker.contains interner name then .ok () else .error (.unknown name)

def respond (tracker : KeyedTracker Table Key) :
    ScopeOperation → ScopeAnswer × KeyedTracker Table Key
  | .declare name => (tracker.declare interner .node name).map .declared id
  | .declareGroup name => (tracker.declare interner .group name).map .declared id
  | .reference name => (.referenced (tracker.reference interner name), tracker)
  | .contains name => (.found (tracker.contains interner name), tracker)
  | .snapshot => (.done, { tracker with saved := tracker.saved ++ [tracker.known] })
  | .restore index =>
      (.done, { tracker with known := tracker.saved[index]?.getD tracker.known })
  | .mergeUnion indices =>
      (.done, { tracker with
        known := tracker.known.mergeAll (indices.filterMap (tracker.saved[·]?)) })

def run (operations : List ScopeOperation) : KeyedTracker Table Key :=
  operations.foldl (fun tracker operation => (tracker.respond interner operation).2)
    (fresh interner)

theorem run_concat (operations : List ScopeOperation) (operation : ScopeOperation) :
    run interner (operations ++ [operation]) =
      ((run interner operations).respond interner operation).2 := by
  simp [run]

def names (tracker : KeyedTracker Table Key) : List Text :=
  listNames (tracker.known.all.image (interner.nameOf tracker.table))

def view (tracker : KeyedTracker Table Key) : ScopeView :=
  KnownSets.queries.view (fun operation => (tracker.respond interner operation).1)
    (tracker.names interner) tracker.states

def sets (tracker : KeyedTracker Table Key) : SetTracker :=
  ⟨tracker.known.map (interner.nameOf tracker.table),
    tracker.saved.map (KnownSets.map (interner.nameOf tracker.table))⟩

def Named (tracker : KeyedTracker Table Key) : Prop :=
  ∀ state ∈ tracker.states, ∀ key ∈ state.all, key ∈ interner.keys tracker.table

namespace Named

variable {interner} {tracker : KeyedTracker Table Key}

theorem intern (named : tracker.Named interner) (name : Text) :
    let table := (interner.intern tracker.table name).2
    let after : KeyedTracker Table Key := { tracker with table }
    after.Named interner ∧ after.sets interner = tracker.sets interner := by
  intro table after
  have kept : ∀ state ∈ tracker.states,
      state.map (interner.nameOf table) = state.map (interner.nameOf tracker.table) := by
    intro state member
    have names : ∀ part ⊆ state.all,
        part.image (interner.nameOf table) = part.image (interner.nameOf tracker.table) := by
      intro part within
      apply Finset.image_congr
      intro key known
      exact Interner.name_of_kept (named state member key (within known)) name
    rw [KnownSets.map, names _ Finset.subset_union_left, names _ Finset.subset_union_right]
    rfl
  obtain ⟨known, saved⟩ := List.forall_mem_cons.1 kept
  constructor
  · intro state member key known
    obtain ⟨other, found⟩ := named state member key known
    exact ⟨other, interner.resolve_kept name found⟩
  · exact congrArg₂ SetTracker.mk known (List.map_congr_left saved)

theorem mem_image (named : tracker.Named interner) {part : Finset Key} {key : Key} {name : Text}
    (within : part ⊆ tracker.known.all) (found : interner.resolve tracker.table key = some name) :
    name ∈ part.image (interner.nameOf tracker.table) ↔ key ∈ part := by
  have valid : ↑part ⊆ interner.keys tracker.table := by
    intro other known
    exact named _ List.mem_cons_self other (within known)
  rw [← Interner.name_of_eq found, ← Finset.mem_coe, Finset.coe_image,
    (Interner.name_of_injective tracker.table).mem_image_iff valid ⟨name, found⟩, Finset.mem_coe]

theorem contains_sets (named : tracker.Named interner) (name : Text) :
    tracker.contains interner name = decide (name ∈ (tracker.sets interner).known.nodes) := by
  unfold contains
  cases found : interner.find tracker.table name with
  | some key =>
      have resolved := interner.find_eq_some_iff.1 found
      exact decide_eq_decide.2 (named.mem_image Finset.subset_union_left resolved).symm
  | none =>
      refine (decide_eq_false ?_).symm
      intro known
      obtain ⟨key, isKey, same⟩ := Finset.mem_image.1 known
      obtain ⟨other, resolved⟩ :=
        named _ List.mem_cons_self key (Finset.mem_union_left _ isKey)
      rw [Interner.name_of_eq resolved] at same
      subst other
      rw [interner.find_eq_some_iff.2 resolved] at found
      cases found

theorem knows_iff (named : tracker.Named interner) {key : Key} {name : Text}
    (found : interner.resolve tracker.table key = some name) :
    name ∈ (tracker.sets interner).known.all ↔
      key ∈ tracker.known.nodes ∨ key ∈ tracker.known.groups := by
  rw [sets, KnownSets.map_all, ← Finset.mem_union]
  exact named.mem_image subset_rfl found

theorem replace (named : tracker.Named interner) {known : KnownSets Key}
    (used : ∀ key ∈ known.all, key ∈ interner.keys tracker.table) :
    ({ tracker with known } : KeyedTracker Table Key).Named interner :=
  List.forall_mem_cons.2 ⟨used, (List.forall_mem_cons.1 named).2⟩

theorem add (named : tracker.Named interner) (role : NameRole) {key : Key} {name : Text}
    (found : interner.resolve tracker.table key = some name) :
    let after : KeyedTracker Table Key := { tracker with known := tracker.known.add role key }
    after.Named interner ∧ after.sets interner =
      { tracker.sets interner with known := (tracker.sets interner).known.add role name } := by
  intro after
  constructor
  · apply named.replace
    intro other isKnown
    rcases KnownSets.mem_add_all.1 isKnown with rfl | isKnown
    · exact ⟨name, found⟩
    · exact named _ List.mem_cons_self other isKnown
  · simp only [after, sets, KnownSets.map_add, Interner.name_of_eq found]

theorem declare_sets (named : tracker.Named interner) (role : NameRole) (name : Text) :
    (tracker.declare interner role name).1 =
        ((tracker.sets interner).known.declare role name).map (fun _ => ()) ∧
      (tracker.declare interner role name).2.sets interner = { tracker.sets interner with
        known := ((tracker.sets interner).known.declare role name).toOption.getD
          (tracker.sets interner).known } ∧
      (tracker.declare interner role name).2.Named interner := by
  have found := interner.resolve_intern tracker.table name
  obtain ⟨valid, same⟩ := named.intern name
  have known := valid.knows_iff found
  obtain ⟨added, addedSame⟩ := valid.add role found
  rw [same] at known addedSame
  unfold KeyedTracker.declare KnownSets.declare
  by_cases isKnown : (interner.intern tracker.table name).1 ∈ tracker.known.nodes ∨
      (interner.intern tracker.table name).1 ∈ tracker.known.groups
  · simp only [if_pos isKnown, if_pos (known.2 isKnown)]
    exact ⟨rfl, same, valid⟩
  · simp only [if_neg isKnown, if_neg (mt known.1 isKnown)]
    exact ⟨rfl, addedSame, added⟩

theorem respond_sets (named : tracker.Named interner) (operation : ScopeOperation) :
    (tracker.respond interner operation).1 = (tracker.sets interner).answer operation ∧
      (tracker.respond interner operation).2.sets interner =
          (tracker.sets interner).apply operation ∧
        (tracker.respond interner operation).2.Named interner := by
  cases operation with
  | declare name =>
      obtain ⟨answer, after, valid⟩ := named.declare_sets .node name
      exact ⟨congrArg ScopeAnswer.declared answer, after, valid⟩
  | declareGroup name =>
      obtain ⟨answer, after, valid⟩ := named.declare_sets .group name
      exact ⟨congrArg ScopeAnswer.declared answer, after, valid⟩
  | reference name =>
      refine ⟨congrArg ScopeAnswer.referenced ?_, rfl, named⟩
      simp [reference, KnownSets.reference, named.contains_sets]
  | contains name =>
      exact ⟨congrArg ScopeAnswer.found (named.contains_sets name), rfl, named⟩
  | snapshot =>
      refine ⟨rfl, by simp [respond, SetTracker.apply, sets], ?_⟩
      obtain ⟨known, saved⟩ := List.forall_mem_cons.1 named
      refine List.forall_mem_cons.2 ⟨known, ?_⟩
      exact List.forall_mem_append.2 ⟨saved, List.forall_mem_singleton.2 known⟩
  | restore index =>
      refine ⟨rfl, by simp [respond, SetTracker.apply, sets, Option.getD_map], ?_⟩
      apply named.replace
      cases found : tracker.saved[index]? with
      | none => exact named _ List.mem_cons_self
      | some state =>
          exact named state (List.mem_cons_of_mem _ (List.mem_of_getElem? found))
  | mergeUnion indices =>
      refine ⟨rfl, ?_, ?_⟩
      · simp [respond, SetTracker.apply, sets, KnownSets.map_merge_all, List.map_filterMap]
      · apply named.replace
        intro key isKnown
        obtain ⟨state, member, inState⟩ := KnownSets.mem_merge_all_all.1 isKnown
        refine named state ?_ key inState
        rcases List.mem_cons.1 member with rfl | member
        · exact List.mem_cons_self
        · obtain ⟨index, -, found⟩ := List.mem_filterMap.1 member
          exact List.mem_cons_of_mem _ (List.mem_of_getElem? found)

theorem view_sets (named : tracker.Named interner) :
    tracker.view interner = (tracker.sets interner).view := by
  have answer :
      (fun operation => (tracker.respond interner operation).1) = (tracker.sets interner).answer :=
    funext fun operation => (named.respond_sets operation).1
  have names : tracker.names interner = (tracker.sets interner).known.names := by
    rw [KnownSets.names, sets, KnownSets.map_all]
    rfl
  unfold view SetTracker.view
  rw [answer, names]
  exact KnownSets.view_map _ _ (Interner.name_of_injective tracker.table) named

end Named

theorem run_named (operations : List ScopeOperation) :
    (run interner operations).Named interner ∧
      (run interner operations).sets interner = SetTracker.run operations := by
  induction operations using List.reverseRecOn with
  | nil =>
      refine ⟨?_, rfl⟩
      simp [Named, run, fresh, states, KnownSets.empty, KnownSets.all]
  | append_singleton operations operation ih =>
      obtain ⟨named, same⟩ := ih
      obtain ⟨-, after, valid⟩ := named.respond_sets operation
      rw [run_concat, SetTracker.run_concat, ← same]
      exact ⟨valid, after⟩

theorem run_view_sets (operations : List ScopeOperation) :
    (run interner operations).view interner = (SetTracker.run operations).view := by
  obtain ⟨named, same⟩ := run_named interner operations
  rw [named.view_sets, same]

end KeyedTracker

/-- Known names are two sets of names. Whatever is done with a scope, and with the states of it
that were saved, everything that it answers and that can be asked of it is the same as for the two
sets, both where names are kept in lists and where they are kept as keys of an interner, whichever
it is. Each key in use has a name there. A declaration that fails changes nothing of all this. -/
theorem ScopeTracker.run_refines_sets {Table Key : Type} [DecidableEq Key]
    (interner : Interner Table Key) (operations : List ScopeOperation) :
    (run operations).view = (SetTracker.run operations).view ∧
      (KeyedTracker.run interner operations).view interner = (SetTracker.run operations).view ∧
      (∀ state ∈ (KeyedTracker.run interner operations).states, ∀ key ∈ state.all,
        ∃ name, interner.resolve (KeyedTracker.run interner operations).table key = some name) ∧
      ∀ operation error,
        (SetTracker.run operations).view.answer operation = .declared (.error error) →
          (run (operations ++ [operation])).view = (run operations).view ∧
            (KeyedTracker.run interner (operations ++ [operation])).view interner =
              (KeyedTracker.run interner operations).view interner := by
  refine ⟨run_view_sets operations, KeyedTracker.run_view_sets interner operations,
    (KeyedTracker.run_named interner operations).1, ?_⟩
  intro operation error refused
  have kept : SetTracker.run (operations ++ [operation]) = SetTracker.run operations := by
    rw [SetTracker.run_concat]
    exact SetTracker.apply_refused refused
  simp only [run_view_sets, KeyedTracker.run_view_sets, kept, and_self]

-- A name keeps its key where a saved state comes back that does not know it, and a group variable
-- of that state stands in the way of a node.
theorem ScopeTracker.run_refines_sets_restored :
    let operations := [.declareGroup ['v'], .snapshot, .declare ['n'], .restore 0]
    (KeyedTracker.run .listed operations).table.val = [['v'], ['n']] ∧
      (KeyedTracker.run .listed operations).contains .listed ['n'] = false ∧
      (SetTracker.run operations).view.answer (.declare ['v']) =
        .declared (.error (.duplicate ['v'])) ∧
      (KeyedTracker.run .listed (operations ++ [.declare ['v']])).view .listed =
        (KeyedTracker.run .listed operations).view .listed := by
  intro operations
  have refused : (SetTracker.run operations).view.answer (.declare ['v']) =
      .declared (.error (.duplicate ['v'])) := rfl
  exact ⟨rfl, rfl, refused, ((run_refines_sets .listed operations).2.2.2 _ _ refused).2⟩

end TreeQuery
