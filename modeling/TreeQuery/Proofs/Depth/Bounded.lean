import TreeQuery.Proofs.Depth.Exact

/- The number of calls that run inside one another is bounded, whatever the tokens. A run
   with a limit to it is followed beside one with a higher limit: as long as the lower one
   is not reached, both do the same, and no more calls run at once than the lower limit
   allows. -/
set_option autoImplicit false

namespace TreeQuery.Grammar

def Event.Shallow (bound : Nat) (event : Event) (before : List Event) : Prop :=
  (running (event :: before)).length ≤ bound

theorem observe_reads_length (token : Token) (calls : List Call) :
    ((Event.reads token).observe calls).length = calls.length := by
  cases calls <;> rfl

theorem observe_ends_length (callee : Callee) (depth : Nat) (last : Call) (calls : List Call) :
    ((Event.ends callee depth).observe (last :: calls)).length = calls.length := by
  rw [observe_ends]
  cases calls <;> rfl

-- Where a run stands with so many calls around it, and never more than the bound so far.
structure Counted.Around (counted : Counted) (bound outer : Nat) : Prop where
  running_length : (running counted.events).length = outer
  shallow : Always (Event.Shallow bound) counted.events

section Around

variable {counted : Counted} {bound outer : Nat}

theorem Counted.Around.restate (here : counted.Around bound outer) (state : State) (depth : Nat) :
    Counted.Around { counted with state, depth } bound outer :=
  ⟨here.running_length, here.shallow⟩

theorem Counted.Around.observe (here : counted.Around bound outer) {event : Event} {inner : Nat}
    (length : (running (event :: counted.events)).length = inner) (few : inner ≤ bound) :
    Counted.Around { counted with events := event :: counted.events } bound inner :=
  ⟨length, always_cons.2 ⟨Nat.le_trans (Nat.le_of_eq length) few, here.shallow⟩⟩

theorem Counted.Around.take (here : counted.Around bound outer) (few : outer ≤ bound)
    (read : List Token) :
    Counted.Around { counted with events := read.map Event.reads ++ counted.events } bound
      outer := by
  induction read with
  | nil => exact here
  | cons token read ih =>
      have length : (running (.reads token :: (read.map Event.reads ++ counted.events))).length =
          outer := (observe_reads_length token _).trans ih.running_length
      exact ih.observe length few

end Around

-- With so many calls around them, both run alike, unless the first runs out of calls.
def Widens {α : Type} (bound outer : Nat) (narrow wide : Counting α) : Prop :=
  ∀ counted : Counted, counted.Around bound outer →
    match narrow counted with
    | .ok value after => wide counted = .ok value after ∧ after.Around bound outer
    | .error fault after => fault = .overflow ∨
        wide counted = .error fault after ∧ Always (Event.Shallow bound) after.events

namespace Widens

variable {α β : Type} {bound outer : Nat} {narrow wide : Counting α}

theorem bind {next next' : α → Counting β} (first : Widens bound outer narrow wide)
    (others : ∀ value, Widens bound outer (next value) (next' value)) :
    Widens bound outer (narrow >>= next) (wide >>= next') := by
  intro counted here
  have run := first counted here
  cases ran : narrow counted with
  | ok value middle =>
      rw [ran] at run
      rw [Counting.bind_ok ran, Counting.bind_ok run.1]
      exact others value middle run.2
  | error fault after =>
      rw [ran] at run
      rw [Counting.bind_error ran]
      cases run with
      | inl overflow => exact .inl overflow
      | inr failed => exact .inr ⟨Counting.bind_error failed.1, failed.2⟩

theorem pure (value : α) : Widens bound outer (pure value) (pure value) :=
  fun _ here => ⟨rfl, here⟩

theorem overflow : Widens bound outer (throw .overflow) wide := fun _ _ => .inl rfl

theorem lift (few : outer ≤ bound) (production : Production α) :
    Widens bound outer (Counting.lift production) (Counting.lift production) := by
  intro counted here
  have moved : ∀ state, (Counting.moveTo counted state).Around bound outer := fun state =>
    (here.take few (Counting.readUpTo counted state)).restate state counted.depth
  cases run : production counted.state with
  | ok value state =>
      rw [Counting.lift_ok run]
      exact ⟨rfl, moved state⟩
  | error error state =>
      rw [Counting.lift_error run]
      exact .inr ⟨rfl, (moved state).shallow⟩

theorem enter (position : Position) :
    Widens bound outer (Counting.enter position) (Counting.enter position) := by
  intro counted here
  unfold Counting.enter
  by_cases full : maxNesting < counted.depth + 1
  · simp only [if_pos full]
    exact .inr ⟨trivial, here.shallow⟩
  · simp only [if_neg full]
    exact ⟨trivial, here.restate counted.state (counted.depth + 1)⟩

theorem leave : Widens bound outer Counting.leave Counting.leave := by
  intro counted here
  unfold Counting.leave
  cases counted.depth with
  | zero => exact .inr ⟨rfl, here.shallow⟩
  | succ depth => exact ⟨rfl, here.restate counted.state depth⟩

theorem call {callee : Callee} (few : outer + 1 ≤ bound)
    (body : Widens bound (outer + 1) narrow wide) :
    Widens bound outer (Counting.call callee narrow) (Counting.call callee wide) := by
  intro counted here
  have started : Counted.Around
      { counted with events := .starts callee counted.depth :: counted.events } bound
      (outer + 1) :=
    here.observe (congrArg Nat.succ here.running_length) few
  have run := body _ started
  cases ran : narrow { counted with events := .starts callee counted.depth :: counted.events } with
  | ok value after =>
      rw [ran] at run
      rw [Counting.call_ok ran, Counting.call_ok run.1]
      refine ⟨rfl, run.2.observe ?_ (Nat.le_of_succ_le few)⟩
      have length := run.2.running_length
      change ((Event.ends callee after.depth).observe (running after.events)).length = outer
      cases calls : running after.events with
      | nil =>
          rw [calls] at length
          cases length
      | cons last around =>
          rw [calls] at length
          rw [observe_ends_length]
          exact Nat.succ.inj length
  | error fault after =>
      rw [ran] at run
      rw [Counting.call_error ran]
      cases run with
      | inl overflow => exact .inl overflow
      | inr failed => exact .inr ⟨Counting.call_error failed.1, failed.2⟩

theorem many_up_to {more more' : Counting Bool} (asks : Widens bound outer more more')
    (items : Widens bound outer narrow wide) (limit : Nat) :
    Widens bound outer (Counting.manyUpTo more narrow limit)
      (Counting.manyUpTo more' wide limit) := by
  induction limit with
  | zero => exact asks.bind fun _ => pure []
  | succ limit ih =>
      apply asks.bind
      intro found
      cases found with
      | false => exact pure []
      | true => exact items.bind fun first => ih.bind fun others => pure (first :: others)

theorem many (few : outer ≤ bound) {more more' : Counting Bool}
    (asks : Widens bound outer more more') (items : Widens bound outer narrow wide) :
    Widens bound outer (Counting.many more narrow) (Counting.many more' wide) :=
  (lift few Production.remaining).bind fun limit => many_up_to asks items limit

end Widens

structure Calls.Widen (bound outer : Nat) (narrow wide : Calls) : Prop where
  pattern : Widens bound outer narrow.pattern wide.pattern
  root : Widens bound outer narrow.root wide.root
  node : ∀ underNegation relation,
    Widens bound outer (narrow.node underNegation relation) (wide.node underNegation relation)
  subNode : ∀ underNegation relation,
    Widens bound outer (narrow.subNode underNegation relation)
      (wide.subNode underNegation relation)
  description : ∀ underNegation relation,
    Widens bound outer (narrow.description underNegation relation)
      (wide.description underNegation relation)
  bareDescription : ∀ underNegation relation,
    Widens bound outer (narrow.bareDescription underNegation relation)
      (wide.bareDescription underNegation relation)
  disjunction : ∀ underNegation,
    Widens bound outer (narrow.disjunction underNegation) (wide.disjunction underNegation)
  conjunction : ∀ underNegation,
    Widens bound outer (narrow.conjunction underNegation) (wide.conjunction underNegation)
  constraint : ∀ underNegation,
    Widens bound outer (narrow.constraint underNegation) (wide.constraint underNegation)
  plainConstraint : ∀ underNegation,
    Widens bound outer (narrow.plainConstraint underNegation)
      (wide.plainConstraint underNegation)
  related : ∀ underNegation,
    Widens bound outer (narrow.related underNegation) (wide.related underNegation)
  chainArgument : Widens bound outer narrow.chainArgument wide.chainArgument

namespace Calls.Widen

variable {bound outer : Nat} {narrow wide : Calls} (few : outer ≤ bound)
  (calls : Calls.Widen bound outer narrow wide) (settings : Settings) (underNegation : Bool)
  (relation : Relation)

theorem refused (wide : Calls) : Calls.Widen bound outer Calls.refused wide where
  pattern := .overflow
  root := .overflow
  node _ _ := .overflow
  subNode _ _ := .overflow
  description _ _ := .overflow
  bareDescription _ _ := .overflow
  disjunction _ := .overflow
  conjunction _ := .overflow
  constraint _ := .overflow
  plainConstraint _ := .overflow
  related _ := .overflow
  chainArgument := .overflow

include few calls

theorem pattern_body :
    Widens bound outer (Counting.pattern narrow) (Counting.pattern wide) :=
  calls.root.bind fun top => (Widens.lift few _).bind fun _ => .pure top

theorem root_body : Widens bound outer (Counting.root narrow) (Counting.root wide) :=
  (calls.subNode false Relation.root).bind fun top =>
    (Widens.lift few _).bind fun _ => .pure top

theorem node_body : Widens bound outer (Counting.node narrow underNegation relation)
    (Counting.node wide underNegation relation) := by
  apply (Widens.lift few (Production.accept .leftParen)).bind
  intro opener
  cases opener with
  | some opener =>
      apply (Widens.enter opener.position).bind
      intro _
      apply (calls.subNode underNegation relation).bind
      intro inner
      apply (Widens.lift few (Production.consume .rightParen)).bind
      intro closer
      exact Widens.leave.bind fun _ => .pure inner
  | none => exact (calls.description underNegation relation).bind fun label => .pure _

theorem sub_node_body : Widens bound outer (Counting.subNode narrow underNegation relation)
    (Counting.subNode wide underNegation relation) := by
  apply (calls.node_body few underNegation relation).bind
  intro inner
  apply (Widens.lift few (Production.checkAny constraintStart)).bind
  intro more
  cases more with
  | true => exact (calls.disjunction underNegation).bind fun child => .pure (inner.attach child)
  | false => exact .pure inner

theorem description_body :
    Widens bound outer (Counting.description narrow underNegation relation)
      (Counting.description wide underNegation relation) := by
  apply (Widens.lift few (Production.accepts .bang)).bind
  intro negation
  apply (Widens.lift few (Production.accepts .atSign)).bind
  intro category
  exact (calls.bareDescription underNegation relation).bind fun bare => .pure _

theorem branch_body : Widens bound outer (Counting.branch narrow underNegation)
    (Counting.branch wide underNegation) :=
  (calls.conjunction underNegation).bind fun node =>
    (Widens.lift few Production.getScope).bind fun names => .pure (node, names)

theorem disjunction_body : Widens bound outer (Counting.disjunction narrow underNegation)
    (Counting.disjunction wide underNegation) := by
  apply (Widens.lift few Production.getScope).bind
  intro before
  apply (calls.branch_body few underNegation).bind
  intro first
  have later := (Widens.lift few (Production.setScope before)).bind fun _ =>
    calls.branch_body few underNegation
  apply (Widens.many few (Widens.lift few (Production.accepts .pipe)) later).bind
  intro others
  apply (Widens.lift few Production.getScope).bind
  intro names
  exact (Widens.lift few (Production.setScope _)).bind fun _ => .pure _

theorem conjunction_body : Widens bound outer (Counting.conjunction narrow underNegation)
    (Counting.conjunction wide underNegation) := by
  apply (calls.constraint underNegation).bind
  intro first
  have later := (Widens.lift few (Production.accept .ampersand)).bind fun _ =>
    calls.constraint underNegation
  apply (Widens.many few (Widens.lift few (Production.checkAny conjunctStart)) later).bind
  intro others
  exact .pure _

theorem constraint_body : Widens bound outer (Counting.constraint narrow underNegation)
    (Counting.constraint wide underNegation) := by
  apply (Widens.lift few (Production.accepts .bang)).bind
  intro bang
  cases bang with
  | true => exact (calls.plainConstraint true).bind fun negated => .pure negated.negate
  | false =>
      apply (Widens.lift few (Production.accepts .question)).bind
      intro question
      cases question with
      | true =>
          exact (calls.plainConstraint underNegation).bind fun optional =>
            .pure optional.makeOptional
      | false => exact calls.plainConstraint underNegation

theorem plain_constraint_body :
    Widens bound outer (Counting.plainConstraint narrow underNegation)
      (Counting.plainConstraint wide underNegation) := by
  apply (Widens.lift few (Production.accept .leftBracket)).bind
  intro opener
  cases opener with
  | some opener =>
      apply (Widens.enter opener.position).bind
      intro _
      apply (calls.disjunction underNegation).bind
      intro group
      apply (Widens.lift few (Production.consume .rightBracket)).bind
      intro closer
      exact Widens.leave.bind fun _ => .pure group
  | none => exact calls.related underNegation

theorem target_body (written : Operation) :
    Widens bound outer (Counting.target settings narrow underNegation written)
      (Counting.target settings wide underNegation written) := by
  unfold Counting.target
  cases settings.resolver.resolve written.symbol written.argument with
  | error cause => exact .lift few _
  | ok relation =>
      apply (Widens.enter written.position).bind
      intro _
      apply (calls.node underNegation relation).bind
      intro node
      exact Widens.leave.bind fun _ => .pure node.toNode

theorem related_body : Widens bound outer (Counting.related settings narrow underNegation)
    (Counting.related settings wide underNegation) := by
  apply (Widens.lift few (Production.accept .operator)).bind
  intro operator
  cases operator with
  | some operator =>
      apply (Widens.lift few (Production.accept .number)).bind
      intro number
      cases number with
      | none => exact calls.target_body few settings underNegation _
      | some number => exact calls.target_body few settings underNegation _
  | none =>
      apply (Widens.lift few (Production.accept .chainOperator)).bind
      intro operator
      cases operator with
      | some operator =>
          exact calls.chainArgument.bind fun argument =>
            calls.target_body few settings underNegation _
      | none => exact .lift few _

omit few calls in
theorem making (few : outer + 1 ≤ bound) (calls : Calls.Widen bound (outer + 1) narrow wide) :
    Calls.Widen bound outer (narrow.making settings) (wide.making settings) where
  pattern := .call few (calls.pattern_body few)
  root := .call few (calls.root_body few)
  node underNegation relation := .call few (calls.node_body few underNegation relation)
  subNode underNegation relation := .call few (calls.sub_node_body few underNegation relation)
  description underNegation relation :=
    .call few (calls.description_body few underNegation relation)
  bareDescription _ _ := .call few (.lift few _)
  disjunction underNegation := .call few (calls.disjunction_body few underNegation)
  conjunction underNegation := .call few (calls.conjunction_body few underNegation)
  constraint underNegation := .call few (calls.constraint_body few underNegation)
  plainConstraint underNegation := .call few (calls.plain_constraint_body few underNegation)
  related underNegation := .call few (calls.related_body few settings underNegation)
  chainArgument := .call few (.lift few _)

end Calls.Widen

-- The limit and the calls around never exceed the bound together.
theorem calls_widen (settings : Settings) (more : Nat) {bound : Nat} (limit : Nat) :
    ∀ {outer : Nat}, outer + limit ≤ bound →
      Calls.Widen bound outer (Calls.upTo settings limit) (Calls.upTo settings (limit + more)) := by
  induction limit with
  | zero => exact fun _ => .refused _
  | succ limit ih =>
      intro outer room
      rw [Nat.succ_add]
      exact .making settings (by omega) (ih (by omega))

/-- No more than `maxCalls` calls ever run inside one another, whatever the tokens: with that
limit, or with any higher one, the run is the same, never reaches the limit, and comes to what
the parser comes to. -/
theorem run_counted_bounded (resolver : Resolver) (tokens : List Token) :
    (∀ more, runCounted ⟨resolver, true⟩ (maxCalls + more) tokens =
      runCounted ⟨resolver, true⟩ maxCalls tokens) ∧
    match runCounted ⟨resolver, true⟩ maxCalls tokens with
    | .ok top after =>
        parseTokens resolver tokens = .ok ⟨top, after.state.scope.names⟩ ∧
          Always (Event.Shallow maxCalls) after.events
    | .error (.pattern error) after =>
        parseTokens resolver tokens = .error error ∧
          Always (Event.Shallow maxCalls) after.events
    | .error .underflow _ => False
    | .error .overflow _ => False := by
  let start : Counted := ⟨⟨TokenStream.ofTokens tokens, Scope.empty⟩, 0, []⟩
  have here : start.At (TokenStream.ofTokens tokens).upcoming 0 [] :=
    ⟨rfl, rfl, rfl, always_nil, fun _ => always_nil, TokenStream.of_tokens_last_kind tokens⟩
  have around : start.Around maxCalls 0 := ⟨rfl, always_nil⟩
  have ends := pattern_seen ⟨resolver, true⟩ (by decide : 4 * maxNesting + 9 ≤ maxCalls) 0 [] rfl
    rfl _ start here
  change Ends (runTokens ⟨resolver, true⟩ tokens) _ _ at ends
  have widens := fun more =>
    (calls_widen ⟨resolver, true⟩ more maxCalls (Nat.le_of_eq (Nat.zero_add _))).pattern start
      around
  cases run : runTokens ⟨resolver, true⟩ tokens with
  | ok top state =>
      rw [run] at ends
      obtain ⟨after, ran, same, -⟩ := ends
      rw [ran] at widens
      change runCounted ⟨resolver, true⟩ maxCalls tokens = .ok top after at ran
      rw [ran]
      subst same
      exact ⟨fun more => (widens more).1, parse_tokens_with_eq_ok.2 ⟨after.state, run, rfl⟩,
        (widens 0).2.shallow⟩
  | error error state =>
      rw [run] at ends
      obtain ⟨after, ran, same, -⟩ := ends
      rw [ran] at widens
      have kept := fun more => (widens more).resolve_left nofun
      change runCounted ⟨resolver, true⟩ maxCalls tokens = .error (.pattern error) after at ran
      rw [ran]
      exact ⟨fun more => (kept more).1, parse_tokens_with_eq_error.2 ⟨state, run⟩, (kept 0).2⟩

end TreeQuery.Grammar
