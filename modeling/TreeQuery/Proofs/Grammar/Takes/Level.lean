import TreeQuery.Proofs.Grammar.Reads.Level
import TreeQuery.Proofs.Grammar.Takes.Word

/- The phrases that nest, found again level by level in what a production has
   taken. -/
set_option autoImplicit false

namespace TreeQuery.Grammar

-- The tokens form a phrase with the given outcome, not nested deeper than allowed.

def NodeTaken (settings : Settings) (depth : Nat) (underNegation : Bool) (relation : Relation)
    (scope : Scope) (taken : List Token) (top : Described) (names : Scope) : Prop :=
  ∃ phrase : NodePhrase, phrase.tokens = taken ∧ phrase.nesting ≤ depth ∧
    nodeOutcome settings underNegation (phrase.denote settings.resolver relation) scope =
      some (top, names)

def SubNodeTaken (settings : Settings) (depth : Nat) (underNegation : Bool) (relation : Relation)
    (scope : Scope) (taken : List Token) (top : Described) (names : Scope) : Prop :=
  ∃ phrase : SubNodePhrase, phrase.tokens = taken ∧ phrase.nesting ≤ depth ∧
    nodeOutcome settings underNegation (phrase.denote settings.resolver relation) scope =
      some (top, names)

def DisjunctionTaken (settings : Settings) (depth : Nat) (underNegation : Bool) (scope : Scope)
    (taken : List Token) (node : Node) (names : Scope) : Prop :=
  ∃ phrase : DisjunctionPhrase, phrase.tokens = taken ∧ phrase.nesting ≤ depth ∧
    constraintOutcome settings underNegation (phrase.denote settings.resolver) scope =
      some (node, names)

def PlainTaken (settings : Settings) (depth : Nat) (underNegation : Bool) (scope : Scope)
    (taken : List Token) (node : Node) (names : Scope) : Prop :=
  ∃ phrase : PlainPhrase, phrase.tokens = taken ∧ phrase.nesting ≤ depth ∧
    constraintOutcome settings underNegation (phrase.denote settings.resolver) scope =
      some (node, names)

def ConstraintTaken (settings : Settings) (depth : Nat) (underNegation : Bool) (scope : Scope)
    (taken : List Token) (node : Node) (names : Scope) : Prop :=
  ∃ phrase : ConstraintPhrase, phrase.tokens = taken ∧ phrase.nesting ≤ depth ∧
    constraintOutcome settings underNegation (phrase.denote settings.resolver) scope =
      some (node, names)

def ConjunctsTaken (settings : Settings) (depth : Nat) (underNegation : Bool) (scope : Scope)
    (taken : List Token) (nodes : List Node) (names : Scope) : Prop :=
  ∃ phrase : ConjunctsPhrase, phrase.tokens = taken ∧ phrase.nesting ≤ depth ∧
    outcomeOf (phrase.denote settings.resolver)
      (Node.conjunctsBehind settings.checkNames underNegation) scope = some (nodes, names)

def ConjunctionTaken (settings : Settings) (depth : Nat) (underNegation : Bool) (scope : Scope)
    (taken : List Token) (node : Node) (names : Scope) : Prop :=
  ∃ phrase : ConjunctionPhrase, phrase.tokens = taken ∧ phrase.nesting ≤ depth ∧
    constraintOutcome settings underNegation (phrase.denote settings.resolver) scope =
      some (node, names)

def DisjunctsTaken (settings : Settings) (depth : Nat) (underNegation : Bool)
    (before scope : Scope) (taken : List Token) (found : List (Node × Scope)) (names : Scope) :
    Prop :=
  ∃ phrase : DisjunctsPhrase, phrase.tokens = taken ∧ phrase.nesting ≤ depth ∧
    branchesOutcome settings underNegation (phrase.denote settings.resolver) before scope =
      some (found, names)

structure LevelTakes (settings : Settings) (depth : Nat) : Prop where
  node : ∀ (underNegation : Bool) (relation : Relation) (scope : Scope),
    Takes ((level settings depth).node underNegation relation) scope
      (NodeTaken settings depth underNegation relation scope)
  subNode : ∀ (underNegation : Bool) (relation : Relation) (scope : Scope),
    Takes ((level settings depth).subNode underNegation relation) scope
      (SubNodeTaken settings depth underNegation relation scope)
  disjunction : ∀ (underNegation : Bool) (scope : Scope),
    Takes ((level settings depth).disjunction underNegation) scope
      (DisjunctionTaken settings depth underNegation scope)

namespace Takes

open Production

variable {β : Type} {scope : Scope} {meaning : List Token → β → Scope → Prop} {kind : TokenKind}
  {settings : Settings} {depth : Nat}

theorem enter {next : Level → Production β} {position : Position}
    (others : ∀ lower, depth = lower + 1 → Takes (next (level settings lower)) scope meaning) :
    Takes (enter (levelBelow settings depth) position >>= next) scope meaning := by
  cases depth with
  | zero => exact fun _ _ _ _ _ => trivial
  | succ lower => exact others lower rfl

variable (underNegation : Bool) (below : ∀ lower, depth = lower + 1 → LevelTakes settings lower)

include below

theorem node (relation : Relation) :
    Takes (node settings (levelBelow settings depth) underNegation relation) scope
      (NodeTaken settings depth underNegation relation scope) := by
  unfold Production.node
  refine accept_any (by decide) (fun opener => ?_) ?_
  · refine enter ?_
    rintro lower rfl
    refine bind ((below lower rfl).subNode underNegation relation scope) ?_
    rintro taken top names ⟨inner, rfl, fits, found⟩
    refine consume (by decide) fun closer => ?_
    refine pure ⟨.enclosed opener inner closer, by rw [NodePhrase.tokens], ?_, ?_⟩
    · rw [NodePhrase.nesting]
      omega
    · rw [NodePhrase.denote]
      exact found
  · refine bind (description settings underNegation relation) ?_
    rintro taken label names ⟨phrase, rfl, denoted, declared⟩
    refine pure ⟨.label phrase, by rw [NodePhrase.tokens, List.append_nil], ?_, ?_⟩
    · rw [NodePhrase.nesting]
      omega
    · rw [NodePhrase.denote, nodeOutcome, outcome_of_eq_some,
        Described.scope_behind_label _ _ _ _ (DescriptionPhrase.denote_plain denoted).2.1]
      exact ⟨by rw [denoted]; rfl, declared⟩

theorem plain : Takes (plainConstraint settings (levelBelow settings depth) underNegation) scope
    (PlainTaken settings depth underNegation scope) := by
  unfold plainConstraint
  refine accept_any (by decide) (fun opener => ?_) ?_
  · refine enter ?_
    rintro lower rfl
    refine bind ((below lower rfl).disjunction underNegation scope) ?_
    rintro taken node names ⟨members, rfl, fits, found⟩
    refine consume (by decide) fun closer => ?_
    refine pure ⟨.group opener members closer, by rw [PlainPhrase.tokens], ?_, ?_⟩
    · rw [PlainPhrase.nesting]
      omega
    · rw [PlainPhrase.denote]
      exact found
  · unfold related
    refine bind operation ?_
    rintro _ _ _ ⟨phrase, rfl, rfl, rfl⟩
    cases resolved : settings.resolver.resolve phrase.operation.symbol phrase.operation.argument with
    | error cause => exact throw _
    | ok relation =>
        refine enter ?_
        rintro lower rfl
        refine bind ((below lower rfl).node underNegation relation _) ?_
        rintro taken top names ⟨target, rfl, fits, found⟩
        rw [nodeOutcome, outcome_of_eq_some] at found
        refine pure ⟨.related phrase target, by rw [PlainPhrase.tokens, List.append_nil], ?_, ?_⟩
        · rw [PlainPhrase.nesting]
          omega
        · rw [constraintOutcome, outcome_of_eq_some, PlainPhrase.denote]
          refine ⟨?_, found.2⟩
          simp [OperationPhrase.denote, resolved, Except.toOption, found.1]

theorem constraint : Takes (constraint settings (levelBelow settings depth) underNegation) scope
    (ConstraintTaken settings depth underNegation scope) := by
  unfold Production.constraint
  refine accepts (by decide) (fun bang => ?_) ?_
  · rw [if_pos rfl]
    refine bind (plain true below) ?_
    rintro _ node names ⟨phrase, rfl, fits, found⟩
    rw [constraintOutcome, outcome_of_eq_some] at found
    refine pure ⟨.negated bang phrase, by rw [ConstraintPhrase.tokens, List.append_nil], fits, ?_⟩
    rw [constraintOutcome, outcome_of_eq_some, ConstraintPhrase.denote_negated_eq, found.1,
      Node.scope_behind_negate]
    exact ⟨rfl, found.2⟩
  rw [if_neg Bool.false_ne_true]
  refine accepts (by decide) (fun question => ?_) ?_
  · rw [if_pos rfl]
    refine bind (plain underNegation below) ?_
    rintro _ node names ⟨phrase, rfl, fits, found⟩
    rw [constraintOutcome, outcome_of_eq_some] at found
    refine pure
      ⟨.optional question phrase, by rw [ConstraintPhrase.tokens, List.append_nil], fits, ?_⟩
    rw [constraintOutcome, outcome_of_eq_some, ConstraintPhrase.denote_optional_eq, found.1,
      Node.scope_behind_make_optional]
    exact ⟨rfl, found.2⟩
  rw [if_neg Bool.false_ne_true]
  refine (plain underNegation below).mono ?_
  rintro _ node names ⟨phrase, rfl, fits, found⟩
  exact ⟨.plain phrase, by rw [ConstraintPhrase.tokens], fits, found⟩

theorem conjuncts :
    Takes
      (Production.many (checkAny conjunctStart)
        (accept .ampersand >>= fun _ =>
          Production.constraint settings (levelBelow settings depth) underNegation))
      scope (ConjunctsTaken settings depth underNegation scope) := by
  refine Takes.many (ConjunctsTaken settings depth underNegation) (Asks.check (by decide)) ?_ ?_ scope
  · exact fun scope => ⟨.nil, rfl, Nat.zero_le depth, rfl⟩
  rintro scope taken rfl
  refine accept_optional (by decide) fun joint => ?_
  refine (constraint underNegation below).mono ?_
  rintro _ node names ⟨next, rfl, fits, found⟩
  have nonempty := Opens.length_pos (constraint_opens next) (by decide)
  refine ⟨?_, ?_⟩
  · rw [← List.length_pos_iff]
    simp only [List.nil_append, List.length_append]
    omega
  · rintro others nodes final ⟨phrase, rfl, fitsOthers, foundOthers⟩
    rw [constraintOutcome, outcome_of_eq_some] at found
    rw [outcome_of_eq_some] at foundOthers
    refine ⟨.cons joint next phrase, by simp [ConjunctsPhrase.tokens], ?_, ?_⟩
    · exact Nat.max_le.2 ⟨fits, fitsOthers⟩
    · rw [outcome_of_eq_some]
      exact ⟨by simp [ConjunctsPhrase.denote, found.1, foundOthers.1],
        by simp [Node.conjunctsBehind, found.2, foundOthers.2]⟩

theorem conjunction : Takes (conjunction settings (levelBelow settings depth) underNegation) scope
    (ConjunctionTaken settings depth underNegation scope) := by
  unfold Production.conjunction
  refine bind (constraint underNegation below) ?_
  rintro _ node names ⟨first, rfl, fits, found⟩
  refine bind (conjuncts underNegation below) ?_
  rintro _ nodes final ⟨others, rfl, fitsOthers, foundOthers⟩
  rw [constraintOutcome, outcome_of_eq_some] at found
  rw [outcome_of_eq_some] at foundOthers
  refine pure ⟨.of first others, by simp [ConjunctionPhrase.tokens], ?_, ?_⟩
  · exact Nat.max_le.2 ⟨fits, fitsOthers⟩
  · rw [constraintOutcome, outcome_of_eq_some, Node.scope_behind_coordinate_conj]
    exact ⟨by simp [ConjunctionPhrase.denote, found.1, foundOthers.1, gathered_eq_coordinate],
      by simp [Node.conjunctsBehind, found.2, foundOthers.2]⟩

theorem branch : Takes (branch settings (levelBelow settings depth) underNegation) scope
    fun taken found names => ConjunctionTaken settings depth underNegation scope taken found.1 names ∧
      found.2 = names := by
  unfold Production.branch
  refine bind (conjunction underNegation below) ?_
  rintro _ node names ⟨phrase, rfl, fits, found⟩
  exact get_scope (pure ⟨⟨phrase, by simp, fits, found⟩, rfl⟩)

theorem disjuncts (before : Scope) :
    Takes
      (Production.many (Production.accepts .pipe)
        (setScope before >>= fun _ =>
          Production.branch settings (levelBelow settings depth) underNegation))
      scope (DisjunctsTaken settings depth underNegation before scope) := by
  refine Takes.many (DisjunctsTaken settings depth underNegation before)
    (Asks.accepts (by decide)) ?_ ?_ scope
  · exact fun scope => ⟨.nil, rfl, Nat.zero_le depth, rfl⟩
  rintro scope taken ⟨bar, rfl⟩
  refine set_scope ((branch underNegation below).mono ?_)
  rintro _ ⟨node, _⟩ names ⟨⟨next, rfl, fits, found⟩, rfl⟩
  refine ⟨by simp, ?_⟩
  rintro others results final ⟨phrase, rfl, fitsOthers, foundOthers⟩
  refine ⟨.cons bar next phrase, by simp [DisjunctsPhrase.tokens], ?_, ?_⟩
  · exact Nat.max_le.2 ⟨fits, fitsOthers⟩
  · simp only [DisjunctsPhrase.denote, Option.bind_eq_bind, Option.pure_def]
    rw [branches_outcome_cons, found]
    simp [foundOthers]

theorem disjunction : Takes (disjunction settings (levelBelow settings depth) underNegation) scope
    (DisjunctionTaken settings depth underNegation scope) := by
  rw [disjunction_eq]
  unfold branches
  refine get_scope ?_
  rw [bind_assoc]
  refine bind (branch underNegation below) ?_
  rintro _ ⟨node, _⟩ names ⟨⟨first, rfl, fits, found⟩, rfl⟩
  rw [bind_assoc]
  refine bind (disjuncts underNegation below scope) ?_
  rintro _ results final ⟨others, rfl, fitsOthers, foundOthers⟩
  rw [pure_bind]
  refine get_scope (set_scope (pure ⟨.of first others, ?_, ?_, ?_⟩))
  · simp [DisjunctionPhrase.tokens]
  · exact Nat.max_le.2 ⟨fits, fitsOthers⟩
  · simp only [DisjunctionPhrase.denote, Option.bind_eq_bind, Option.pure_def,
      gathered_eq_coordinate]
    rw [disjunction_outcome, branches_outcome_cons, found]
    simp [foundOthers]

theorem subNode (relation : Relation) :
    Takes (subNode settings (levelBelow settings depth) underNegation relation) scope
      (SubNodeTaken settings depth underNegation relation scope) := by
  unfold Production.subNode
  refine bind (node underNegation below relation) ?_
  rintro _ top names ⟨inner, rfl, fits, found⟩
  refine check fun more => ?_
  cases more with
  | false => exact pure ⟨.alone inner, by simp [SubNodePhrase.tokens], fits, found⟩
  | true =>
      rw [if_pos rfl]
      refine bind (disjunction underNegation below) ?_
      rintro _ child final ⟨children, rfl, fitsChildren, foundChildren⟩
      rw [nodeOutcome, outcome_of_eq_some] at found
      rw [constraintOutcome, outcome_of_eq_some] at foundChildren
      refine pure ⟨.above inner children, by simp [SubNodePhrase.tokens], ?_, ?_⟩
      · exact Nat.max_le.2 ⟨fits, fitsChildren⟩
      · rw [nodeOutcome, outcome_of_eq_some,
          Described.scope_behind_attach _ _ _ _ _ (inner.denote_plain found.1).2.1]
        exact ⟨by simp [SubNodePhrase.denote, found.1, foundChildren.1, beneath_eq_attach],
          by simp [found.2, foundChildren.2]⟩

end Takes

theorem level_takes (settings : Settings) (depth : Nat) : LevelTakes settings depth := by
  apply level_induction ?_ depth
  intro depth below
  constructor
  · intro underNegation relation scope
    rw [level_eq]
    exact Takes.node underNegation below relation
  · intro underNegation relation scope
    rw [level_eq]
    exact Takes.subNode underNegation below relation
  · intro underNegation scope
    rw [level_eq]
    exact Takes.disjunction underNegation below

end TreeQuery.Grammar
