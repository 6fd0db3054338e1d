import TreeQuery.Proofs.Depth.Runs

/- The productions with the counter run like those by levels. With so many levels below,
   a node, a node with its constraints and a disjunction each need a limited number of
   calls inside one another. -/
set_option autoImplicit false

namespace TreeQuery.Grammar

-- A call with so many levels below it runs like the production.
def Seen {α : Type} (counting : Counting α) (production : Production α) (level : Nat)
    (callee : Callee) : Prop :=
  ∀ depth calls, depth + level = maxNesting → (openers calls).length = depth →
    Runs counting production depth calls depth (resumed callee calls)

def Callee.deaf : Callee → Bool
  | .node | .subNode | .plainConstraint | .related => false
  | _ => true

theorem openers_open (callee : Callee) (opener : Token) (calls : List Call) :
    openers (⟨callee, some opener, true⟩ :: calls) = opener :: openers calls := rfl

theorem Call.resumes_unrelated {call : Call} {ended : Callee}
    (unrelated : call.callee ≠ .related) : call.resumes ended = call := by
  obtain ⟨callee, opener, isOpen⟩ := call
  cases callee <;> first | rfl | cases unrelated rfl

structure Inside (callee : Callee) (level depth : Nat) (calls : List Call) : Prop where
  innermost : ∃ around, calls = Call.fresh callee :: around
  count : depth + level = maxNesting
  balanced : (openers calls).length = depth

namespace Inside

variable {α : Type} {callee made : Callee} {level depth : Nat} {calls : List Call}
  {counting : Counting α} {production : Production α}

theorem few (here : Inside callee level depth calls) : (openers calls).length ≤ maxNesting := by
  rw [here.balanced]
  have count := here.count
  omega

theorem settled (here : Inside callee level depth calls) {event : Event} : event.Settled calls :=
  fun _ => here.few

theorem observe_deaf (here : Inside callee level depth calls) (deaf : callee.deaf = true)
    (token : Token) : (Event.reads token).observe calls = calls := by
  obtain ⟨around, rfl⟩ := here.innermost
  cases callee <;> first | rfl | cases deaf

theorem lift (here : Inside callee level depth calls) (deaf : callee.deaf = true)
    (flat : Flat production) : Runs (Counting.lift production) production depth calls depth calls :=
  Runs.lift flat (here.observe_deaf deaf)

theorem makes (here : Inside callee level depth calls) (unrelated : callee ≠ .related)
    (seen : Seen counting production level made) :
    Runs counting production depth calls depth calls := by
  have run := seen depth calls here.count here.balanced
  obtain ⟨around, rfl⟩ := here.innermost
  rw [resumed, Call.resumes_unrelated unrelated] at run
  exact run

end Inside

theorem Seen.call {α : Type} {callee : Callee} {level : Nat} {counting : Counting α}
    {production : Production α}
    (body : ∀ depth calls, Inside callee level depth calls →
      Runs counting production depth calls depth calls) :
    Seen (Counting.call callee counting) production level callee := by
  intro depth calls count balanced
  apply Runs.call balanced (by omega)
  exact body depth (Call.fresh callee :: calls) ⟨⟨calls, rfl⟩, count, balanced⟩

section Seen

variable (settings : Settings) {level limit : Nat} (underNegation : Bool) (relation : Relation)

theorem chain_argument_seen (enough : 1 ≤ limit) :
    Seen (Calls.upTo settings limit).chainArgument Production.chainArgument level
      .chainArgument := by
  obtain ⟨inner, rfl⟩ := Nat.exists_eq_add_one_of_ne_zero (Nat.ne_zero_of_lt enough)
  apply Seen.call
  intro depth calls here
  exact here.lift rfl Flat.chain_argument

theorem bare_description_seen (enough : 1 ≤ limit) :
    Seen ((Calls.upTo settings limit).bareDescription underNegation relation)
      (Production.bareDescription settings underNegation relation) level .bareDescription := by
  obtain ⟨inner, rfl⟩ := Nat.exists_eq_add_one_of_ne_zero (Nat.ne_zero_of_lt enough)
  apply Seen.call
  intro depth calls here
  exact here.lift rfl (Flat.bare underNegation relation)

theorem description_seen (enough : 2 ≤ limit) :
    Seen ((Calls.upTo settings limit).description underNegation relation)
      (Production.description settings underNegation relation) level .description := by
  obtain ⟨inner, rfl⟩ := Nat.exists_eq_add_one_of_ne_zero (Nat.ne_zero_of_lt enough)
  apply Seen.call
  intro depth calls here
  apply (here.lift rfl Flat.accepts).bind
  intro negation
  apply (here.lift rfl Flat.accepts).bind
  intro category
  have bare := here.makes (by decide)
    (bare_description_seen settings underNegation relation (by omega : 1 ≤ inner))
  exact bare.bind fun bare => Runs.pure _

-- What the calls one level down come to, where there is such a level. So many calls are
-- enough for those from a node with its constraints.
structure LevelSeen (settings : Settings) (level : Nat) : Prop where
  node : ∀ limit, 4 * level + 4 ≤ limit → ∀ underNegation relation,
    Seen ((Calls.upTo settings limit).node underNegation relation)
      ((TreeQuery.Grammar.level settings level).node underNegation relation) level .node
  subNode : ∀ limit, 4 * level + 7 ≤ limit → ∀ underNegation relation,
    Seen ((Calls.upTo settings limit).subNode underNegation relation)
      ((TreeQuery.Grammar.level settings level).subNode underNegation relation) level .subNode
  disjunction : ∀ limit, 4 * level + 6 ≤ limit → ∀ underNegation,
    Seen ((Calls.upTo settings limit).disjunction underNegation)
      ((TreeQuery.Grammar.level settings level).disjunction underNegation) level .disjunction

structure Encloses (callee : Callee) (opening closing : TokenKind) : Prop where
  opens : ∀ token : Token, token.kind = opening →
    (Call.fresh callee).reads token = ⟨callee, some token, true⟩
  closes : ∀ opener token : Token, token.kind = closing →
    Call.reads token ⟨callee, some opener, true⟩ = Call.fresh callee
  within : .endOfInput ≠ closing
  unrelated : callee ≠ .related

def Callee.brackets : Callee → Option (TokenKind × TokenKind)
  | .node | .subNode => some (.leftParen, .rightParen)
  | .plainConstraint => some (.leftBracket, .rightBracket)
  | _ => none

theorem Callee.encloses {callee : Callee} {opening closing : TokenKind}
    (brackets : callee.brackets = some (opening, closing)) : Encloses callee opening closing := by
  cases callee <;> cases brackets
  all_goals exact
    { opens := fun token same => by simp [Call.reads, Call.fresh, same]
      closes := fun opener token same => by simp [Call.reads, same]
      within := by decide
      unrelated := by decide }

theorem Encloses.body {α : Type} {callee made : Callee} {opening closing : TokenKind}
    (encloses : Encloses callee opening closing)
    {counting : Counting α} {production : Level → Production α}
    (seen : ∀ lower, level = lower + 1 →
      Seen counting (production (TreeQuery.Grammar.level settings lower)) lower made)
    {depth : Nat} {around : List Call}
    (here : Inside callee level depth (Call.fresh callee :: around)) {opener : Token}
    (isOpener : opener.kind = opening) :
    Runs
      (do
        Counting.enter opener.position
        let inner ← counting
        let _ ← Counting.lift (Production.consume closing)
        Counting.leave
        return inner)
      (do
        let level ← Production.enter (levelBelow settings level) opener.position
        let inner ← production level
        let _ ← Production.consume closing
        return inner)
      depth ((Event.reads opener).observe (Call.fresh callee :: around)) depth
      (Call.fresh callee :: around) := by
  have balanced : (openers around).length = depth := here.balanced
  have count := here.count
  have opens : (Event.reads opener).observe (Call.fresh callee :: around) =
      ⟨callee, some opener, true⟩ :: around :=
    congrArg (· :: around) (encloses.opens opener isOpener)
  rw [opens]
  apply Runs.enter count rfl balanced rfl
  intro lower same
  have inner := seen lower same (depth + 1) (⟨callee, some opener, true⟩ :: around) (by omega)
    (congrArg Nat.succ balanced)
  have unchanged : Call.resumes made ⟨callee, some opener, true⟩ =
      ⟨callee, some opener, true⟩ := Call.resumes_unrelated encloses.unrelated
  rw [resumed, unchanged] at inner
  apply inner.bind
  intro inner
  apply Runs.consume encloses.within
  · intro closer isCloser _
    rw [openers_open, List.length_cons, balanced]
    omega
  · intro closer isCloser
    have closes : (Event.reads closer).observe (⟨callee, some opener, true⟩ :: around) =
        Call.fresh callee :: around :=
      congrArg (· :: around) (encloses.closes opener closer isCloser)
    rw [closes]
    exact Runs.leave (Runs.pure inner)

section Operators

variable {operator : Token} {around : List Call}

theorem observe_operator (isOperator : operator.kind = .operator) :
    (Event.reads operator).observe (Call.fresh .related :: around) =
      ⟨.related, some operator, true⟩ :: around := by
  simp [Event.observe, Call.reads, Call.fresh, isOperator]

theorem observe_number {number : Token} (isNumber : number.kind = .number) :
    (Event.reads number).observe (⟨.related, some operator, true⟩ :: around) =
      ⟨.related, some operator, true⟩ :: around := by
  simp [Event.observe, Call.reads, isNumber]

theorem observe_chain_operator (isOperator : operator.kind = .chainOperator) :
    (Event.reads operator).observe (Call.fresh .related :: around) =
      ⟨.related, some operator, false⟩ :: around := by
  simp [Event.observe, Call.reads, Call.fresh, isOperator]

end Operators

section Nesting

variable (below : ∀ lower, level = lower + 1 → LevelSeen settings lower)

include below

theorem node_body {callee : Callee} (brackets : callee.brackets = some (.leftParen, .rightParen))
    (enough : 4 * level + 3 ≤ limit) {depth : Nat} {calls : List Call}
    (here : Inside callee level depth calls) :
    Runs (Counting.node (Calls.upTo settings limit) underNegation relation)
      (Production.node settings (levelBelow settings level) underNegation relation)
      depth calls depth calls := by
  have encloses := Callee.encloses brackets
  apply Runs.accept (by decide) fun _ _ => here.settled
  · intro opener isOpener
    obtain ⟨around, rfl⟩ := here.innermost
    have seen := fun lower same =>
      (below lower same).subNode limit (by omega) underNegation relation
    exact encloses.body settings seen here isOpener
  · have label : 2 ≤ limit := by omega
    exact (here.makes encloses.unrelated
      (description_seen settings underNegation relation label)).bind fun label => Runs.pure _

theorem node_seen (enough : 4 * level + 4 ≤ limit) :
    Seen ((Calls.upTo settings limit).node underNegation relation)
      ((TreeQuery.Grammar.level settings level).node underNegation relation) level .node := by
  obtain ⟨inner, rfl⟩ := Nat.exists_eq_add_one_of_ne_zero (Nat.ne_zero_of_lt enough)
  rw [level_eq]
  apply Seen.call
  intro depth calls here
  exact node_body settings underNegation relation below rfl (by omega) here

theorem target_body {depth : Nat} {operator : Token} {written : Operation} {around : List Call}
    (place : operator.position = written.position) (enough : 4 * level + 1 ≤ limit)
    (count : depth + level = maxNesting) (balanced : (openers around).length = depth) :
    Runs (Counting.target settings (Calls.upTo settings limit) underNegation written)
      (match settings.resolver.resolve written.symbol written.argument with
        | .error cause => throw (.invalidRelation cause written.position)
        | .ok relation => do
            let level ← Production.enter (levelBelow settings level) written.position
            let target ← level.node underNegation relation
            return target.toNode)
      depth (⟨.related, some operator, true⟩ :: around) depth
      (Call.fresh .related :: around) := by
  unfold Counting.target
  cases settings.resolver.resolve written.symbol written.argument with
  | error cause =>
      apply Runs.stop
      intro state
      exact ⟨_, rfl, fun limit position same => nomatch same⟩
  | ok relation =>
      apply Runs.enter count rfl balanced place
      intro lower same
      have node := (below lower same).node limit (by omega) underNegation relation (depth + 1)
        (⟨.related, some operator, true⟩ :: around) (by omega) (congrArg Nat.succ balanced)
      apply Runs.bind node
      intro node
      exact Runs.leave (Runs.pure node.toNode)

theorem related_seen (enough : 4 * level + 2 ≤ limit) :
    Seen ((Calls.upTo settings limit).related underNegation)
      (Production.related settings (levelBelow settings level) underNegation) level .related := by
  obtain ⟨inner, rfl⟩ := Nat.exists_eq_add_one_of_ne_zero (Nat.ne_zero_of_lt enough)
  apply Seen.call
  intro depth calls here
  obtain ⟨around, rfl⟩ := here.innermost
  have balanced : (openers around).length = depth := here.balanced
  unfold Counting.related Production.related Production.operation
  rw [bind_assoc]
  apply Runs.accept (by decide) fun _ _ => here.settled
  · intro operator isOperator
    rw [observe_operator isOperator]
    dsimp only
    rw [bind_assoc]
    -- Without a level below, too much is open by now.
    apply Runs.accept (by decide)
    · intro number isNumber few
      rw [observe_number isNumber] at few
      exact few
    · intro number isNumber
      rw [observe_number isNumber]
      exact target_body settings underNegation below rfl (by omega) here.count balanced
    · exact target_body settings underNegation below rfl (by omega) here.count balanced
  · dsimp only
    rw [bind_assoc]
    apply Runs.accept (by decide) fun _ _ => here.settled
    · intro operator isOperator
      rw [observe_chain_operator isOperator]
      dsimp only
      rw [bind_assoc]
      have seen := chain_argument_seen settings (by omega : 1 ≤ inner) depth
        (⟨.related, some operator, false⟩ :: around) here.count balanced
      apply seen.bind
      intro argument
      exact target_body settings underNegation below rfl (by omega) here.count balanced
    · apply Runs.stop
      intro state
      exact ⟨_, rfl, fun limit position same => nomatch same⟩

theorem plain_constraint_seen (enough : 4 * level + 3 ≤ limit) :
    Seen ((Calls.upTo settings limit).plainConstraint underNegation)
      (Production.plainConstraint settings (levelBelow settings level) underNegation) level
      .plainConstraint := by
  obtain ⟨inner, rfl⟩ := Nat.exists_eq_add_one_of_ne_zero (Nat.ne_zero_of_lt enough)
  apply Seen.call
  intro depth calls here
  apply Runs.accept (by decide) fun _ _ => here.settled
  · intro opener isOpener
    obtain ⟨around, rfl⟩ := here.innermost
    have seen := fun lower same => (below lower same).disjunction inner (by omega) underNegation
    have encloses : Encloses .plainConstraint .leftBracket .rightBracket := Callee.encloses rfl
    exact encloses.body settings seen here isOpener
  · exact here.makes (by decide) (related_seen settings underNegation below (by omega))

theorem constraint_seen (enough : 4 * level + 4 ≤ limit) :
    Seen ((Calls.upTo settings limit).constraint underNegation)
      (Production.constraint settings (levelBelow settings level) underNegation) level
      .constraint := by
  obtain ⟨inner, rfl⟩ := Nat.exists_eq_add_one_of_ne_zero (Nat.ne_zero_of_lt enough)
  apply Seen.call
  intro depth calls here
  have plain : ∀ underNegation, Runs ((Calls.upTo settings inner).plainConstraint underNegation)
      (Production.plainConstraint settings (levelBelow settings level) underNegation)
      depth calls depth calls := fun underNegation =>
    here.makes (by decide) (plain_constraint_seen settings underNegation below (by omega))
  apply (here.lift rfl Flat.accepts).bind
  intro bang
  cases bang with
  | true => exact (plain true).bind fun negated => Runs.pure _
  | false =>
      apply (here.lift rfl Flat.accepts).bind
      intro question
      cases question with
      | true => exact (plain underNegation).bind fun optional => Runs.pure _
      | false => exact plain underNegation

theorem conjunction_seen (enough : 4 * level + 5 ≤ limit) :
    Seen ((Calls.upTo settings limit).conjunction underNegation)
      (Production.conjunction settings (levelBelow settings level) underNegation) level
      .conjunction := by
  obtain ⟨inner, rfl⟩ := Nat.exists_eq_add_one_of_ne_zero (Nat.ne_zero_of_lt enough)
  apply Seen.call
  intro depth calls here
  have conjunct := here.makes (by decide)
    (constraint_seen settings underNegation below (by omega : 4 * level + 4 ≤ inner))
  apply conjunct.bind
  intro first
  have ampersand : Flat (Production.accept .ampersand) := Flat.accept
  have later := (here.lift rfl ampersand).bind fun _ => conjunct
  exact (Runs.many (here.observe_deaf rfl) (Runs.check_any conjunctStart) later).bind
    fun others => Runs.pure _

theorem disjunction_seen (enough : 4 * level + 6 ≤ limit) :
    Seen ((Calls.upTo settings limit).disjunction underNegation)
      ((TreeQuery.Grammar.level settings level).disjunction underNegation) level
      .disjunction := by
  obtain ⟨inner, rfl⟩ := Nat.exists_eq_add_one_of_ne_zero (Nat.ne_zero_of_lt enough)
  rw [level_eq]
  apply Seen.call
  intro depth calls here
  have getScope := here.lift rfl (Flat.act Acts.get_scope)
  have setScope := fun names =>
    here.lift rfl (Flat.act fun scope => Acts.set_scope scope names)
  have branch : Runs (Counting.branch (Calls.upTo settings inner) underNegation)
      (Production.branch settings (levelBelow settings level) underNegation)
      depth calls depth calls := by
    apply (here.makes (by decide) (conjunction_seen settings underNegation below (by omega))).bind
    intro node
    exact getScope.bind fun names => Runs.pure _
  apply getScope.bind
  intro before
  apply branch.bind
  intro first
  have later := (setScope before).bind fun _ => branch
  apply (Runs.many (here.observe_deaf rfl) (here.lift rfl Flat.accepts) later).bind
  intro others
  apply getScope.bind
  intro names
  exact (setScope _).bind fun _ => Runs.pure _

theorem sub_node_seen (enough : 4 * level + 7 ≤ limit) :
    Seen ((Calls.upTo settings limit).subNode underNegation relation)
      ((TreeQuery.Grammar.level settings level).subNode underNegation relation) level .subNode := by
  obtain ⟨inner, rfl⟩ := Nat.exists_eq_add_one_of_ne_zero (Nat.ne_zero_of_lt enough)
  have constraints :=
    disjunction_seen settings underNegation below (by omega : 4 * level + 6 ≤ inner)
  rw [level_eq] at constraints ⊢
  apply Seen.call
  intro depth calls here
  apply (node_body settings underNegation relation below rfl (by omega) here).bind
  intro top
  apply (Runs.check_any constraintStart).bind
  intro more
  cases more with
  | true => exact (here.makes (by decide) constraints).bind fun constraint => Runs.pure _
  | false => exact Runs.pure top

end Nesting

end Seen

theorem level_seen (settings : Settings) (level : Nat) : LevelSeen settings level := by
  apply level_induction _ level
  intro level below
  constructor
  · intro limit enough underNegation relation
    exact node_seen settings underNegation relation below enough
  · intro limit enough underNegation relation
    exact sub_node_seen settings underNegation relation below enough
  · intro limit enough underNegation
    exact disjunction_seen settings underNegation below enough

end TreeQuery.Grammar
