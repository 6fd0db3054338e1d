import TreeQuery.Proofs.Grammar.Reads.Word

/- Reading of the phrases that nest, level by level: what is enclosed is read by the
   level below, if there is one. -/
set_option autoImplicit false

namespace TreeQuery.Grammar

def closers : List TokenKind := [.rightParen, .rightBracket, .semicolon]

def behindConjunction : List TokenKind := .pipe :: closers

def behindNode : List TokenKind := conjunctStart ++ behindConjunction

def nodeStart : List TokenKind :=
  [.leftParen, .bang, .atSign, .identifier, .regex, .blank, .tilde, .equals]

def levelBelow (settings : Settings) : Nat → Option Level
  | 0 => none
  | depth + 1 => some (level settings depth)

theorem level_eq (settings : Settings) (depth : Nat) :
    level settings depth = levelAbove settings (levelBelow settings depth) := by
  cases depth <;> rfl

theorem level_induction {holds : Nat → Prop}
    (step : ∀ depth, (∀ lower, depth = lower + 1 → holds lower) → holds depth) (depth : Nat) :
    holds depth := by
  induction depth with
  | zero => exact step 0 (by omega)
  | succ depth ih =>
      apply step (depth + 1)
      intro lower same
      cases same
      exact ih

def nodeOutcome (settings : Settings) (underNegation : Bool) (value : Option Described)
    (scope : Scope) : Option (Described × Scope) :=
  outcomeOf value (fun top => top.toNode.scopeBehind settings.checkNames underNegation) scope

def constraintOutcome (settings : Settings) (underNegation : Bool) (value : Option Node)
    (scope : Scope) : Option (Node × Scope) :=
  outcomeOf value (Node.scopeBehind settings.checkNames underNegation) scope

-- Branches, each with the names known behind it. All of them are read with the
-- names in `before`; `scope` holds the names behind the branch in front of them.
def branchesOutcome (settings : Settings) (underNegation : Bool) (value : Option (List Node))
    (before scope : Scope) : Option (List (Node × Scope) × Scope) :=
  value.bind fun nodes =>
    (Node.disjunctsBehind settings.checkNames underNegation nodes before).map fun scopes =>
      (nodes.zip scopes, scopes.getLastD scope)

theorem branches_outcome_cons (settings : Settings) (underNegation : Bool) (first : Option Node)
    (others : Option (List Node)) (before scope : Scope) :
    branchesOutcome settings underNegation
        (first.bind fun node => others.bind fun nodes => some (node :: nodes)) before scope =
      ((constraintOutcome settings underNegation first before).map
          fun found => (found, found.2)).bind fun found =>
        (branchesOutcome settings underNegation others before found.2).map fun next =>
          (found.1 :: next.1, next.2) := by
  unfold branchesOutcome constraintOutcome outcomeOf
  cases first with
  | none => rfl
  | some node =>
      simp only [Option.bind_some]
      cases behind : node.scopeBehind settings.checkNames underNegation before with
      | none => cases others <;> simp [Node.disjunctsBehind, behind]
      | some names =>
          cases others with
          | none => simp
          | some nodes =>
              simp only [Option.bind_some, Node.disjunctsBehind, behind, Option.map_some,
                Option.map_map, Function.comp_def, List.zip_cons_cons, List.getLastD_cons]

theorem disjunction_outcome (settings : Settings) (underNegation : Bool) (first : Option Node)
    (others : Option (List Node)) (scope : Scope) :
    constraintOutcome settings underNegation
        (first.bind fun node => others.bind fun nodes =>
          some (Node.coordinate false (node :: nodes))) scope =
      (branchesOutcome settings underNegation
          (first.bind fun node => others.bind fun nodes => some (node :: nodes)) scope scope).map
        fun found => (Node.coordinate false (found.1.map Prod.fst),
          found.2.mergeAll (found.1.map Prod.snd)) := by
  unfold branchesOutcome constraintOutcome outcomeOf
  cases first with
  | none => rfl
  | some node =>
      cases others with
      | none => rfl
      | some nodes =>
          simp only [Option.bind_some, Node.scope_behind_coordinate_disj]
          cases behind : Node.disjunctsBehind settings.checkNames underNegation (node :: nodes) scope with
          | none => rfl
          | some scopes =>
              have sameLength := Node.disjuncts_behind_length _ _ _ _ behind
              simp only [Option.map_some, Scope.joined]
              rw [List.map_fst_zip (by omega), List.map_snd_zip (by omega)]

-- A level reads every phrase that is not nested deeper than there are levels
-- below.
structure LevelReads (settings : Settings) (depth : Nat) : Prop where
  node : ∀ (phrase : NodePhrase) (underNegation : Bool) (relation : Relation) (scope : Scope),
    Reads ((level settings depth).node underNegation relation) scope phrase.tokens behindNode
      (phrase.nesting ≤ depth)
      (nodeOutcome settings underNegation (phrase.denote settings.resolver relation) scope)
  subNode : ∀ (phrase : SubNodePhrase) (underNegation : Bool) (relation : Relation) (scope : Scope),
    Reads ((level settings depth).subNode underNegation relation) scope phrase.tokens closers
      (phrase.nesting ≤ depth)
      (nodeOutcome settings underNegation (phrase.denote settings.resolver relation) scope)
  disjunction : ∀ (phrase : DisjunctionPhrase) (underNegation : Bool) (scope : Scope),
    Reads ((level settings depth).disjunction underNegation) scope phrase.tokens closers
      (phrase.nesting ≤ depth)
      (constraintOutcome settings underNegation (phrase.denote settings.resolver) scope)

theorem description_opens (phrase : DescriptionPhrase) (follow : List TokenKind) :
    Opens phrase.tokens follow
      [.bang, .atSign, .identifier, .regex, .blank, .tilde, .equals] :=
  Opens.optional phrase.negation (Opens.optional phrase.category
    (Reads.bare_opens phrase.bare follow))

theorem node_opens (phrase : NodePhrase) (follow : List TokenKind) :
    Opens phrase.tokens follow nodeStart := by
  cases phrase with
  | enclosed opener inner closer =>
      rw [NodePhrase.tokens]
      exact (Opens.cons opener.kind_mem).mono (List.Subset.refl _) (by decide)
  | label description =>
      rw [NodePhrase.tokens]
      exact (description_opens description follow).mono (List.Subset.refl _) (by decide)

theorem Opens.append {tokens others : List Token} {follow kinds : List TokenKind}
    (opens : ∀ follow, Opens tokens follow kinds) : Opens (tokens ++ others) follow kinds := by
  intro rest last next
  rw [List.append_assoc]
  exact opens [nextKind (others ++ rest) last] (others ++ rest) last (by simp)

theorem operation_opens (phrase : OperationPhrase) (follow : List TokenKind) :
    Opens phrase.tokens follow [.operator, .chainOperator] := by
  cases phrase with
  | plain operator number =>
      exact (Opens.cons operator.kind_mem).mono (List.Subset.refl _) (by decide)
  | chain operator argument =>
      exact (Opens.cons operator.kind_mem).mono (List.Subset.refl _) (by decide)

theorem plain_opens (phrase : PlainPhrase) (follow : List TokenKind) :
    Opens phrase.tokens follow [.operator, .chainOperator, .leftBracket] := by
  cases phrase with
  | group opener members closer =>
      rw [PlainPhrase.tokens]
      exact (Opens.cons opener.kind_mem).mono (List.Subset.refl _) (by decide)
  | related operation node =>
      rw [PlainPhrase.tokens]
      exact (Opens.append (operation_opens operation)).mono (List.Subset.refl _) (by decide)

theorem constraint_opens (phrase : ConstraintPhrase) (follow : List TokenKind) :
    Opens phrase.tokens follow constraintStart := by
  cases phrase with
  | plain constraint =>
      rw [ConstraintPhrase.tokens]
      exact (plain_opens constraint follow).mono (List.Subset.refl _) (by decide)
  | negated bang constraint =>
      rw [ConstraintPhrase.tokens]
      exact (Opens.cons bang.kind_mem).mono (List.Subset.refl _) (by decide)
  | optional question constraint =>
      rw [ConstraintPhrase.tokens]
      exact (Opens.cons question.kind_mem).mono (List.Subset.refl _) (by decide)

theorem conjuncts_open (phrase : ConjunctsPhrase) :
    Opens phrase.tokens behindConjunction behindNode := by
  cases phrase with
  | nil =>
      rw [ConjunctsPhrase.tokens]
      exact Opens.nil (by decide)
  | cons joint next others =>
      rw [ConjunctsPhrase.tokens]
      exact (Opens.optional joint (Opens.append (constraint_opens next))).mono
        (List.Subset.refl _) (by decide)

theorem conjunction_opens (phrase : ConjunctionPhrase) (follow : List TokenKind) :
    Opens phrase.tokens follow constraintStart := by
  cases phrase with
  | of first others =>
      rw [ConjunctionPhrase.tokens]
      exact Opens.append (constraint_opens first)

theorem disjuncts_open (phrase : DisjunctsPhrase) :
    Opens phrase.tokens closers behindConjunction := by
  cases phrase with
  | nil =>
      rw [DisjunctsPhrase.tokens]
      exact Opens.nil (by decide)
  | cons bar next others =>
      rw [DisjunctsPhrase.tokens]
      exact (Opens.cons bar.kind_mem).mono (List.Subset.refl _) (by decide)

theorem disjunction_opens (phrase : DisjunctionPhrase) (follow : List TokenKind) :
    Opens phrase.tokens follow constraintStart := by
  cases phrase with
  | of first others =>
      rw [DisjunctionPhrase.tokens]
      exact Opens.append (conjunction_opens first)

namespace Reads

open Production

variable {α β : Type} {scope : Scope} {tokens : List Token} {follow : List TokenKind}
  {fits : Prop} {outcome : Option (β × Scope)} {settings : Settings} {depth : Nat}

theorem enter {next : Level → Production β} {position : Position} (deep : fits → 0 < depth)
    (others : ∀ lower, depth = lower + 1 →
      Reads (next (level settings lower)) scope tokens follow fits outcome) :
    Reads (enter (levelBelow settings depth) position >>= next) scope tokens follow fits
      outcome := by
  cases depth with
  | zero => exact fun _ _ _ _ _ holds => absurd (deep holds) (by decide)
  | succ lower => exact others lower rfl

variable (underNegation : Bool) (below : ∀ lower, depth = lower + 1 → LevelReads settings lower)

include below

theorem node (relation : Relation) (phrase : NodePhrase) :
    Reads (node settings (levelBelow settings depth) underNegation relation) scope phrase.tokens
      behindNode (phrase.nesting ≤ depth)
      (nodeOutcome settings underNegation (phrase.denote settings.resolver relation) scope) := by
  unfold Production.node
  cases phrase with
  | enclosed opener inner closer =>
      simp only [NodePhrase.tokens, NodePhrase.nesting, NodePhrase.denote]
      refine accept_leaf opener ?_
      refine enter (fun fits => by omega) ?_
      rintro lower rfl
      have closes : Opens [closer.token] behindNode closers :=
        (Opens.cons closer.kind_mem).mono (List.Subset.refl _) (by decide)
      refine bind ((below lower rfl).subNode inner underNegation relation scope) closes
        (fun fits => by omega) id ?_
      intro top names fits found
      refine consume_leaf closer ?_
      exact Reads.pure (by omega) found
  | label description =>
      simp only [NodePhrase.tokens, NodePhrase.nesting, NodePhrase.denote]
      refine accept_other (description_opens description behindNode) (by decide) ?_
      unfold nodeOutcome
      rw [outcome_of_map _ (Described.mk · none) scope fun label denoted =>
        Described.scope_behind_label _ _ _ label (DescriptionPhrase.denote_plain denoted).2.1]
      exact map _ (Reads.description settings underNegation relation description (by decide)
        (by decide)) (by simp)

theorem related (phrase : OperationPhrase) (target : NodePhrase) :
    Reads (related settings (levelBelow settings depth) underNegation) scope
      (PlainPhrase.related phrase target).tokens behindNode
      ((PlainPhrase.related phrase target).nesting ≤ depth)
      (constraintOutcome settings underNegation
        ((PlainPhrase.related phrase target).denote settings.resolver) scope) := by
  unfold Production.related
  simp only [PlainPhrase.tokens, PlainPhrase.nesting, PlainPhrase.denote]
  have apart : .number ∉ nodeStart := by decide
  refine bind (operation phrase apart) (node_opens target behindNode) (fun _ => trivial)
    (by simp) ?_
  rintro written names _ ⟨⟩
  unfold OperationPhrase.denote
  cases settings.resolver.resolve phrase.operation.symbol phrase.operation.argument with
  | error cause => exact fun _ _ _ _ _ => rfl
  | ok relation =>
      simp only [Except.toOption, Option.bind_some]
      refine enter (fun fits => by omega) ?_
      rintro lower rfl
      unfold constraintOutcome
      rw [outcome_of_map _ Described.toNode scope fun _ _ => rfl]
      exact map _ ((below lower rfl).node target underNegation relation _) (by omega)

theorem plain (phrase : PlainPhrase) :
    Reads (plainConstraint settings (levelBelow settings depth) underNegation) scope phrase.tokens
      behindNode (phrase.nesting ≤ depth)
      (constraintOutcome settings underNegation (phrase.denote settings.resolver) scope) := by
  unfold plainConstraint
  cases phrase with
  | group opener members closer =>
      simp only [PlainPhrase.tokens, PlainPhrase.nesting, PlainPhrase.denote]
      refine accept_leaf opener ?_
      refine enter (fun fits => by omega) ?_
      rintro lower rfl
      have closes : Opens [closer.token] behindNode closers :=
        (Opens.cons closer.kind_mem).mono (List.Subset.refl _) (by decide)
      refine bind ((below lower rfl).disjunction members underNegation scope) closes
        (fun fits => by omega) id ?_
      intro node names fits found
      refine consume_leaf closer ?_
      exact Reads.pure (by omega) found
  | related operation target =>
      have opens : Opens (PlainPhrase.related operation target).tokens behindNode
          [.operator, .chainOperator] := by
        rw [PlainPhrase.tokens]
        exact Opens.append (operation_opens operation)
      refine accept_other opens (by decide) ?_
      exact related underNegation below operation target

theorem constraint (phrase : ConstraintPhrase) :
    Reads (constraint settings (levelBelow settings depth) underNegation) scope phrase.tokens
      behindNode (phrase.nesting ≤ depth)
      (constraintOutcome settings underNegation (phrase.denote settings.resolver) scope) := by
  unfold Production.constraint
  cases phrase with
  | plain constraint =>
      simp only [ConstraintPhrase.tokens, ConstraintPhrase.nesting, ConstraintPhrase.denote]
      have opens := plain_opens constraint behindNode
      refine accepts_other opens (by decide) ?_
      rw [if_neg Bool.false_ne_true]
      refine accepts_other opens (by decide) ?_
      rw [if_neg Bool.false_ne_true]
      exact plain underNegation below constraint
  | negated bang constraint =>
      simp only [ConstraintPhrase.tokens, ConstraintPhrase.nesting,
        ConstraintPhrase.denote_negated_eq]
      refine accepts_leaf bang ?_
      rw [if_pos rfl]
      unfold constraintOutcome
      rw [outcome_of_map _ Node.negate scope fun node _ => Node.scope_behind_negate _ _ _ node]
      exact map _ (plain true below constraint) Iff.rfl
  | optional question constraint =>
      simp only [ConstraintPhrase.tokens, ConstraintPhrase.nesting,
        ConstraintPhrase.denote_optional_eq]
      have opens : Opens (question.token :: constraint.tokens) behindNode [.question] :=
        Opens.cons question.kind_mem
      refine accepts_other opens (by decide) ?_
      rw [if_neg Bool.false_ne_true]
      refine accepts_leaf question ?_
      rw [if_pos rfl]
      unfold constraintOutcome
      rw [outcome_of_map _ Node.makeOptional scope fun node _ =>
        Node.scope_behind_make_optional _ _ _ node]
      exact map _ (plain underNegation below constraint) Iff.rfl

theorem conjuncts : (phrase : ConjunctsPhrase) → ∀ (scope : Scope) (bound : Nat),
    phrase.tokens.length ≤ bound →
    Reads
      (manyUpTo (checkAny conjunctStart)
        (accept .ampersand >>= fun _ =>
          Production.constraint settings (levelBelow settings depth) underNegation) bound)
      scope phrase.tokens behindConjunction (phrase.nesting ≤ depth)
      (outcomeOf (phrase.denote settings.resolver)
        (Node.conjunctsBehind settings.checkNames underNegation) scope)
  | .nil => by
      intro scope bound _
      simp only [ConjunctsPhrase.tokens, ConjunctsPhrase.nesting, ConjunctsPhrase.denote]
      exact many_stop (fun _ => check_false (Opens.stay behindConjunction) (by decide))
        (Nat.zero_le depth) rfl
  | .cons joint next others => by
      intro scope bound enough
      simp only [ConjunctsPhrase.tokens, ConjunctsPhrase.nesting, ConjunctsPhrase.denote] at enough ⊢
      have nextOpens : Opens (next.tokens ++ others.tokens) behindConjunction constraintStart :=
        Opens.append (constraint_opens next)
      have nonempty := Opens.length_pos (constraint_opens next) (by decide)
      simp only [List.length_append] at enough
      cases bound with
      | zero => omega
      | succ bound =>
          -- Without the ampersand the test sees the constraint itself.
          refine check_true (Opens.optional joint nextOpens) (by decide) ?_
          rw [if_pos rfl, bind_assoc]
          refine accept_optional joint nextOpens (by decide) ?_
          simp only [Option.bind_eq_bind, Option.pure_def]
          rw [outcome_of_bind _ _ List.cons scope fun _ _ _ => rfl]
          exact join List.cons (constraint underNegation below next) (conjuncts_open others)
            (fun names => conjuncts others names bound (by omega)) Nat.max_le

theorem conjunction (phrase : ConjunctionPhrase) :
    Reads (conjunction settings (levelBelow settings depth) underNegation) scope phrase.tokens
      behindConjunction (phrase.nesting ≤ depth)
      (constraintOutcome settings underNegation (phrase.denote settings.resolver) scope) := by
  cases phrase with
  | of first others =>
      unfold Production.conjunction constraintOutcome
      simp only [ConjunctionPhrase.tokens, ConjunctionPhrase.nesting, ConjunctionPhrase.denote,
        Option.bind_eq_bind, Option.pure_def, gathered_eq_coordinate]
      rw [outcome_of_bind _ _ _ scope fun value other _ =>
        Node.scope_behind_coordinate_conj settings.checkNames underNegation scope value other]
      exact join _ (constraint underNegation below first) (conjuncts_open others)
        (fun names => many fun bound enough => conjuncts underNegation below others names bound enough)
        Nat.max_le

theorem branch (phrase : ConjunctionPhrase) :
    Reads (branch settings (levelBelow settings depth) underNegation) scope phrase.tokens
      behindConjunction (phrase.nesting ≤ depth)
      ((constraintOutcome settings underNegation (phrase.denote settings.resolver) scope).map
        fun found => (found, found.2)) := by
  unfold Production.branch
  refine bind_last (conjunction underNegation below phrase) id (fun missing => by rw [missing]; rfl) ?_
  intro node names fits found
  exact get_scope (Reads.pure fits (by rw [found]; rfl))

theorem disjuncts (before : Scope) : (phrase : DisjunctsPhrase) → ∀ (scope : Scope) (bound : Nat),
    phrase.tokens.length ≤ bound →
    Reads
      (manyUpTo (accepts .pipe)
        (setScope before >>= fun _ =>
          Production.branch settings (levelBelow settings depth) underNegation) bound)
      scope phrase.tokens closers (phrase.nesting ≤ depth)
      (branchesOutcome settings underNegation (phrase.denote settings.resolver) before scope)
  | .nil => by
      intro scope bound _
      simp only [DisjunctsPhrase.tokens, DisjunctsPhrase.nesting, DisjunctsPhrase.denote]
      exact many_stop (fun _ => accepts_other (Opens.stay closers) (by decide))
        (Nat.zero_le depth) rfl
  | .cons bar next others => by
      intro scope bound enough
      simp only [DisjunctsPhrase.tokens, DisjunctsPhrase.nesting, DisjunctsPhrase.denote,
        List.length_cons, List.length_append] at enough ⊢
      cases bound with
      | zero => omega
      | succ bound =>
          refine accepts_leaf bar ?_
          rw [if_pos rfl, bind_assoc]
          refine set_scope ?_
          simp only [Option.bind_eq_bind, Option.pure_def]
          rw [branches_outcome_cons]
          exact join List.cons (branch underNegation below next) (disjuncts_open others)
            (fun names => disjuncts before others names bound (by omega)) Nat.max_le

theorem branches (first : ConjunctionPhrase) (others : DisjunctsPhrase) :
    Reads (branches settings (levelBelow settings depth) underNegation scope) scope
      (first.tokens ++ others.tokens) closers (max first.nesting others.nesting ≤ depth)
      (branchesOutcome settings underNegation
        ((first.denote settings.resolver).bind fun node =>
          (others.denote settings.resolver).bind fun nodes => some (node :: nodes)) scope scope) := by
  unfold Production.branches
  rw [branches_outcome_cons]
  exact join List.cons (branch underNegation below first) (disjuncts_open others)
    (fun names => many fun bound enough =>
      disjuncts underNegation below scope others names bound enough) Nat.max_le

theorem disjunction (phrase : DisjunctionPhrase) :
    Reads (disjunction settings (levelBelow settings depth) underNegation) scope phrase.tokens
      closers (phrase.nesting ≤ depth)
      (constraintOutcome settings underNegation (phrase.denote settings.resolver) scope) := by
  cases phrase with
  | of first others =>
      simp only [DisjunctionPhrase.tokens, DisjunctionPhrase.nesting, DisjunctionPhrase.denote,
        Option.bind_eq_bind, Option.pure_def, gathered_eq_coordinate]
      rw [disjunction_eq, disjunction_outcome]
      refine get_scope ?_
      refine bind_last (branches underNegation below first others) id
        (fun missing => by rw [missing]; rfl) ?_
      intro found names fits result
      exact get_scope (set_scope (Reads.pure fits (by rw [result]; rfl)))

theorem subNode (relation : Relation) (phrase : SubNodePhrase) :
    Reads (subNode settings (levelBelow settings depth) underNegation relation) scope phrase.tokens
      closers (phrase.nesting ≤ depth)
      (nodeOutcome settings underNegation (phrase.denote settings.resolver relation) scope) := by
  unfold Production.subNode
  cases phrase with
  | alone inner =>
      simp only [SubNodePhrase.tokens, SubNodePhrase.nesting, SubNodePhrase.denote]
      have reads := (node underNegation below relation inner : Reads _ scope _ _ _ _)
      refine bind_last (reads.weaken (by decide)) id id ?_
      intro top names fits found
      refine check_false (Opens.stay closers) (by decide) ?_
      rw [if_neg Bool.false_ne_true]
      exact Reads.pure fits found
  | above inner children =>
      simp only [SubNodePhrase.tokens, SubNodePhrase.nesting, SubNodePhrase.denote,
        Option.bind_eq_bind, Option.pure_def, beneath_eq_attach, nodeOutcome]
      rw [outcome_of_bind _ _ Described.attach scope fun top child denoted =>
        Described.scope_behind_attach settings.checkNames underNegation scope top child
          (inner.denote_plain denoted).2.1]
      have opens := disjunction_opens children closers
      refine bind (node underNegation below relation inner)
        (opens.mono (List.Subset.refl closers) (by decide)) (fun fits => (Nat.max_le.1 fits).1)
        (fun missing => by rw [nodeOutcome] at missing; rw [missing]; rfl) ?_
      intro top names fits found
      rw [nodeOutcome] at found
      rw [found]
      refine check_true opens (List.Subset.refl constraintStart) ?_
      rw [if_pos rfl]
      exact map top.attach (disjunction underNegation below children)
        ⟨fun deep => Nat.max_le.2 ⟨fits, deep⟩, fun deep => (Nat.max_le.1 deep).2⟩

end Reads

theorem level_reads (settings : Settings) (depth : Nat) : LevelReads settings depth := by
  -- The lowest level differs in nothing but that it has no level below.
  apply level_induction ?_ depth
  intro depth below
  constructor
  · intro phrase underNegation relation scope
    rw [level_eq]
    exact Reads.node underNegation below relation phrase
  · intro phrase underNegation relation scope
    rw [level_eq]
    exact Reads.subNode underNegation below relation phrase
  · intro phrase underNegation scope
    rw [level_eq]
    exact Reads.disjunction underNegation below phrase

end TreeQuery.Grammar
