import TreeQuery.Proofs.Depth.Counted
import TreeQuery.Proofs.Depth.Flat
import TreeQuery.Proofs.Grammar.Reads.Level
import TreeQuery.Proofs.Grammar.Takes.Basic

/- Runs with the counter beside runs by levels. Both come to the same value or the same
   error in the same state, and all the while the counter tells how many constructs are
   open. -/
set_option autoImplicit false

namespace TreeQuery.Grammar

-- Where a run stands, with nothing out of step so far. If now too much is open, it is
-- about to fail.
structure Counted.At (counted : Counted) (tokens : List Token) (depth : Nat) (calls : List Call) :
    Prop where
  tokens_eq : counted.tokens = tokens
  depth_eq : counted.depth = depth
  running_eq : running counted.events = calls
  exact : Always Event.Exact counted.events
  within : (openers calls).length ≤ maxNesting → Always Event.Within counted.events
  ended : counted.state.stream.last.kind = .endOfInput

-- Where a run has failed. If it nests too deep, the innermost construct is the one that
-- the error names.
structure Counted.Failed (counted : Counted) (tokens : List Token) (error : PatternError) :
    Prop where
  exact : Always Event.Exact counted.events
  tooDeep : ∀ limit position, error = .nestingTooDeep limit position →
    counted.tokens = tokens ∧ limit = maxNesting ∧ ∃ opener around,
      opened counted.events = opener :: around ∧ opener.position = position ∧
        around.length = maxNesting

def Event.Settled (event : Event) (calls : List Call) : Prop :=
  (openers (event.observe calls)).length ≤ maxNesting → (openers calls).length ≤ maxNesting

def Runs {α : Type} (counting : Counting α) (production : Production α) (depth : Nat)
    (calls : List Call) (depth' : Nat) (calls' : List Call) : Prop :=
  ∀ (tokens : List Token) (counted : Counted), counted.At tokens depth calls →
    Ends (production counted.state)
      (fun value state => ∃ after, counting counted = .ok value after ∧ after.state = state ∧
        after.At tokens depth' calls')
      (fun error state => ∃ after, counting counted = .error (.pattern error) after ∧
        after.state = state ∧ after.Failed tokens error)

def resumed (callee : Callee) : List Call → List Call
  | [] => []
  | call :: calls => call.resumes callee :: calls

theorem observe_ends (callee : Callee) (depth : Nat) (last : Call) (calls : List Call) :
    (Event.ends callee depth).observe (last :: calls) = resumed callee calls := by
  cases calls <;> rfl

section Place

variable {counted : Counted} {tokens : List Token} {depth : Nat} {calls : List Call}
  {state : State} {token : Token} {read rest : List Token}

theorem Counting.move_to_eq (state : State)
    (split : counted.state.stream.upcoming = read ++ state.stream.upcoming) :
    Counting.moveTo counted state =
      ⟨state, counted.depth, read.reverse.map Event.reads ++ counted.events⟩ := by
  simp [Counting.moveTo, Counting.readUpTo, TokenStream.remaining, split]

theorem Counted.At.opened_eq (here : counted.At tokens depth calls) :
    opened counted.events = openers calls := congrArg openers here.running_eq

theorem Counted.At.restate (here : counted.At tokens depth calls)
    (same : state.stream.upcoming = counted.state.stream.upcoming)
    (ended : state.stream.last.kind = .endOfInput) :
    ({ counted with state } : Counted).At tokens depth calls where
  tokens_eq := by
    rw [← here.tokens_eq, Counted.tokens, Counted.tokens, same]
  depth_eq := here.depth_eq
  running_eq := here.running_eq
  exact := here.exact
  within := here.within
  ended := ended

theorem Counted.At.observe (here : counted.At tokens depth calls) {event : Event}
    (settled : event.Settled calls) (exact : event.Exact counted.events)
    (whole : Counted.tokens ⟨state, counted.depth, event :: counted.events⟩ = tokens)
    (ended : state.stream.last.kind = .endOfInput) :
    Counted.At ⟨state, counted.depth, event :: counted.events⟩ tokens depth
      (event.observe calls) where
  tokens_eq := whole
  depth_eq := here.depth_eq
  running_eq := congrArg event.observe here.running_eq
  exact := always_cons.2 ⟨exact, here.exact⟩
  within few := by
    have before := settled few
    apply always_cons.2 ⟨_, here.within before⟩
    rw [← here.opened_eq] at before
    exact before
  ended := ended

theorem Counted.At.take (here : counted.At tokens depth calls)
    (settled : (Event.reads token).Settled calls)
    (next : counted.state.stream.upcoming = token :: state.stream.upcoming)
    (ended : state.stream.last.kind = .endOfInput) :
    Counted.At ⟨state, counted.depth, .reads token :: counted.events⟩ tokens depth
      ((Event.reads token).observe calls) := by
  apply here.observe settled trivial _ ended
  have one := taken_reads [token] counted.events
  have whole := here.tokens_eq
  rw [Counted.tokens, next] at whole
  change taken (Event.reads token :: counted.events) = taken counted.events ++ [token] at one
  rw [Counted.tokens, one, List.append_assoc]
  exact whole

theorem Counted.At.take_all (here : counted.At tokens depth calls)
    (deaf : ∀ token, (Event.reads token).observe calls = calls)
    (split : counted.state.stream.upcoming = read ++ state.stream.upcoming)
    (ended : state.stream.last.kind = .endOfInput) :
    Counted.At ⟨state, counted.depth, read.reverse.map Event.reads ++ counted.events⟩ tokens
      depth calls := by
  induction read generalizing counted with
  | nil => exact here.restate split.symm ended
  | cons token read ih =>
      have settled : (Event.reads token).Settled calls := by
        intro few
        rw [deaf token] at few
        exact few
      let middle : State :=
        { state with stream.upcoming := read ++ state.stream.upcoming }
      have one : Counted.At ⟨middle, _, _⟩ tokens depth _ := here.take settled split ended
      rw [deaf token] at one
      have others := ih one rfl
      simp only [List.reverse_cons, List.map_append, List.append_assoc]
      exact others

theorem Counted.At.advance (here : counted.At tokens depth calls)
    (settled : (Event.reads token).Settled calls)
    (next : counted.state.stream.upcoming = token :: rest) :
    (Counting.moveTo counted
      { counted.state with stream := counted.state.stream.advance }).At tokens depth
        ((Event.reads token).observe calls) := by
  have split : counted.state.stream.upcoming =
      [token] ++ counted.state.stream.advance.upcoming := by
    rw [TokenStream.advance, next]
    rfl
  rw [Counting.move_to_eq _ split]
  exact here.take settled split here.ended

theorem Counted.At.ask (here : counted.At tokens depth calls) (kinds : List TokenKind) :
    (Counting.moveTo counted
      { counted.state with stream := counted.state.stream.ask kinds }).At tokens depth calls := by
  rw [Counting.move_to_eq { counted.state with stream := counted.state.stream.ask kinds }
    (List.nil_append _).symm]
  exact here.restate rfl here.ended

end Place

namespace Counting

variable {α β : Type} {counting : Counting α} {next : α → Counting β}
  {counted after : Counted}

theorem bind_ok {value : α} (run : counting counted = .ok value after) :
    (counting >>= next) counted = next value after := by
  change EStateM.bind counting next counted = _
  unfold EStateM.bind
  rw [run]

theorem bind_error {fault : Fault} (run : counting counted = .error fault after) :
    (counting >>= next) counted = .error fault after := by
  change EStateM.bind counting next counted = _
  unfold EStateM.bind
  rw [run]

theorem lift_ok {production : Production α} {value : α} {state : State}
    (run : production counted.state = .ok value state) :
    lift production counted = .ok value (moveTo counted state) := by
  unfold lift
  rw [run]

theorem lift_error {production : Production α} {error : PatternError} {state : State}
    (run : production counted.state = .error error state) :
    lift production counted = .error (.pattern error) (moveTo counted state) := by
  unfold lift
  rw [run]

variable {callee : Callee} {value : α}

theorem call_ok (run : counting
      { counted with events := .starts callee counted.depth :: counted.events } = .ok value after) :
    call callee counting counted =
      .ok value { after with events := .ends callee after.depth :: after.events } := by
  have starts : record (.starts callee) counted =
      .ok () { counted with events := .starts callee counted.depth :: counted.events } := rfl
  unfold call
  rw [bind_ok starts, bind_ok run]
  rfl

theorem call_error {fault : Fault} (run : counting
      { counted with events := .starts callee counted.depth :: counted.events } =
        .error fault after) : call callee counting counted = .error fault after := by
  have starts : record (.starts callee) counted =
      .ok () { counted with events := .starts callee counted.depth :: counted.events } := rfl
  unfold call
  rw [bind_ok starts, bind_error run]

end Counting

namespace Runs

variable {α β : Type} {depth depth' depth'' : Nat} {calls calls' calls'' : List Call}
  {kind : TokenKind}

theorem bind {counting : Counting α} {production : Production α} {next : α → Counting β}
    {next' : α → Production β} (first : Runs counting production depth calls depth' calls')
    (others : ∀ value, Runs (next value) (next' value) depth' calls' depth'' calls'') :
    Runs (counting >>= next) (production >>= next') depth calls depth'' calls'' := by
  intro tokens counted here
  rw [Ends.bind]
  apply (first tokens counted here).mono
  · intro value state run
    obtain ⟨middle, ran, rfl, there⟩ := run
    rw [Counting.bind_ok ran]
    exact others value tokens middle there
  · intro error state run
    obtain ⟨after, ran, same, failed⟩ := run
    exact ⟨after, Counting.bind_error ran, same, failed⟩

theorem pure (value : α) : Runs (pure value) (pure value) depth calls depth calls :=
  fun _ counted here => ⟨counted, rfl, rfl, here⟩

theorem lift {production : Production α} (flat : Flat production)
    (deaf : ∀ token, (Event.reads token).observe calls = calls) :
    Runs (Counting.lift production) production depth calls depth calls := by
  intro tokens counted here
  have ends := flat counted.state
  cases run : production counted.state with
  | ok value state =>
      rw [run] at ends
      obtain ⟨read, split⟩ := ends.suffix
      have ended : state.stream.last.kind = .endOfInput := by
        rw [ends.last_eq]
        exact here.ended
      have ran := Counting.lift_ok run
      rw [Counting.move_to_eq state split.symm] at ran
      exact ⟨_, ran, rfl, here.take_all deaf split.symm ended⟩
  | error error state =>
      rw [run] at ends
      exact ⟨_, Counting.lift_error run, rfl, exact_reads _ here.exact,
        fun limit position same => absurd same (ends limit position)⟩

theorem stop {production : Production α}
    (stops : ∀ state, ∃ error, production state = .error error state ∧
      ∀ limit position, error ≠ .nestingTooDeep limit position) :
    Runs (Counting.lift production) production depth calls depth' calls' := by
  intro tokens counted here
  obtain ⟨error, run, shallow⟩ := stops counted.state
  have ran := Counting.lift_error run
  rw [Counting.move_to_eq counted.state (List.nil_append _).symm] at ran
  rw [run]
  exact ⟨_, ran, rfl, here.exact, fun limit position same =>
    absurd same (shallow limit position)⟩

theorem check_any (kinds : List TokenKind) : Runs (Counting.lift (Production.checkAny kinds))
    (Production.checkAny kinds) depth calls depth calls := by
  intro tokens counted here
  exact ⟨_, Counting.lift_ok rfl, rfl, here.ask kinds⟩

theorem accept {next : Option Token → Counting β} {next' : Option Token → Production β}
    (within : .endOfInput ≠ kind)
    (settled : ∀ token, token.kind = kind → (Event.reads token).Settled calls)
    (onSome : ∀ token, token.kind = kind → Runs (next (some token)) (next' (some token)) depth
      ((Event.reads token).observe calls) depth' calls')
    (onNone : Runs (next none) (next' none) depth calls depth' calls') :
    Runs (Counting.lift (Production.accept kind) >>= next) (Production.accept kind >>= next')
      depth calls depth' calls' := by
  intro tokens counted here
  rw [Ends.bind]
  by_cases wanted : counted.state.stream.isAny [kind] = true
  · obtain ⟨leaf, rest, front, current⟩ :=
      Takes.front here.ended ⟨rfl, rfl, rfl⟩ (by simpa using within) wanted
    have run : Production.accept kind counted.state = _ := Production.accept_any_taken wanted
    rw [current] at run
    rw [run, Counting.bind_ok (Counting.lift_ok run)]
    exact onSome leaf.token leaf.kind_eq tokens _
      (here.advance (settled leaf.token leaf.kind_eq) front)
  · have run : Production.accept kind counted.state = _ := Production.accept_any_refused wanted
    rw [run, Counting.bind_ok (Counting.lift_ok run)]
    exact onNone tokens _ (here.ask [kind])

theorem consume {next : Token → Counting β} {next' : Token → Production β}
    (within : .endOfInput ≠ kind)
    (settled : ∀ token, token.kind = kind → (Event.reads token).Settled calls)
    (others : ∀ token, token.kind = kind → Runs (next token) (next' token) depth
      ((Event.reads token).observe calls) depth' calls') :
    Runs (Counting.lift (Production.consume kind) >>= next) (Production.consume kind >>= next')
      depth calls depth' calls' := by
  intro tokens counted here
  rw [Ends.bind]
  by_cases wanted : counted.state.stream.isAny [kind] = true
  · obtain ⟨leaf, rest, front, current⟩ :=
      Takes.front here.ended ⟨rfl, rfl, rfl⟩ (by simpa using within) wanted
    have run := Production.consume_taken wanted
    rw [current] at run
    rw [run, Counting.bind_ok (Counting.lift_ok run)]
    exact others leaf.token leaf.kind_eq tokens _
      (here.advance (settled leaf.token leaf.kind_eq) front)
  · have run := Production.consume_refused wanted
    rw [run]
    exact ⟨_, Counting.bind_error (Counting.lift_error run), rfl, (here.ask [kind]).exact,
      fun limit position same => nomatch same⟩

-- The counter has room for one more just if there is a level below.
theorem enter {level : Nat} {opener : Token} {around : List Token} {position : Position}
    {counting : Counting α} {next' : Level → Production α} {settings : Settings}
    (count : depth + level = maxNesting) (innermost : openers calls = opener :: around)
    (balanced : around.length = depth) (place : opener.position = position)
    (others : ∀ lower, level = lower + 1 →
      Runs counting (next' (TreeQuery.Grammar.level settings lower)) (depth + 1) calls
        depth' calls') :
    Runs (Counting.enter position >>= fun _ => counting)
      (Production.enter (levelBelow settings level) position >>= next')
      depth calls depth' calls' := by
  intro tokens counted here
  rw [Ends.bind]
  cases level with
  | zero =>
      have full : maxNesting < counted.depth + 1 := by rw [here.depth_eq]; omega
      have run : Counting.enter position counted =
          .error (.pattern (.nestingTooDeep maxNesting position))
            { counted with depth := counted.depth + 1 } := by
        unfold Counting.enter
        exact if_pos full
      have failed : Counted.Failed { counted with depth := counted.depth + 1 } tokens
          (.nestingTooDeep maxNesting position) := by
        constructor
        · exact here.exact
        · intro limit named same
          cases same
          exact ⟨here.tokens_eq, rfl, opener, around, here.opened_eq.trans innermost, place,
            by omega⟩
      exact ⟨_, Counting.bind_error run, rfl, failed⟩
  | succ lower =>
      have room : ¬ maxNesting < counted.depth + 1 := by rw [here.depth_eq]; omega
      have run : Counting.enter position counted =
          .ok () { counted with depth := counted.depth + 1 } := by
        unfold Counting.enter
        exact if_neg room
      rw [Counting.bind_ok run]
      exact others lower rfl tokens { counted with depth := counted.depth + 1 }
        ⟨here.tokens_eq, congrArg Nat.succ here.depth_eq, here.running_eq, here.exact,
          here.within, here.ended⟩

theorem leave {counting : Counting α} {production : Production α}
    (others : Runs counting production depth calls depth' calls') :
    Runs (Counting.leave >>= fun _ => counting) production (depth + 1) calls depth' calls' := by
  intro tokens counted here
  have run : Counting.leave counted = .ok () { counted with depth } := by
    unfold Counting.leave
    rw [here.depth_eq]
  rw [Counting.bind_ok run]
  exact others tokens { counted with depth }
    ⟨here.tokens_eq, rfl, here.running_eq, here.exact, here.within, here.ended⟩

theorem call {callee : Callee} {counting : Counting α} {production : Production α}
    (balanced : (openers calls).length = depth) (few : depth ≤ maxNesting)
    (body : Runs counting production depth (Call.fresh callee :: calls) depth
      (Call.fresh callee :: calls)) :
    Runs (Counting.call callee counting) production depth calls depth (resumed callee calls) := by
  intro tokens counted here
  have started : Counted.At
      { counted with events := .starts callee counted.depth :: counted.events }
      tokens depth (Call.fresh callee :: calls) := by
    have exact : counted.depth = (opened counted.events).length := by
      rw [here.opened_eq, here.depth_eq, balanced]
    have settled : (Event.starts callee counted.depth).Settled calls := fun few => few
    exact here.observe settled exact here.tokens_eq here.ended
  apply (body tokens _ started).mono
  · intro value state run
    obtain ⟨after, ran, same, there⟩ := run
    have exact : after.depth = (opened after.events).length := by
      rw [there.opened_eq, there.depth_eq]
      exact balanced.symm
    have settled : (Event.ends callee after.depth).Settled (Call.fresh callee :: calls) :=
      fun _ => balanced ▸ few
    have ended := there.observe settled exact there.tokens_eq there.ended
    rw [observe_ends] at ended
    exact ⟨_, Counting.call_ok ran, same, ended⟩
  · intro error state run
    obtain ⟨after, ran, same, failed⟩ := run
    exact ⟨after, Counting.call_error ran, same, failed⟩

theorem many_up_to {more : Counting Bool} {more' : Production Bool} {item : Counting α}
    {item' : Production α} (asks : Runs more more' depth calls depth calls)
    (items : Runs item item' depth calls depth calls) (bound : Nat) :
    Runs (Counting.manyUpTo more item bound) (Production.manyUpTo more' item' bound)
      depth calls depth calls := by
  induction bound with
  | zero => exact asks.bind fun _ => pure []
  | succ bound ih =>
      apply asks.bind
      intro found
      cases found with
      | false => exact pure []
      | true => exact items.bind fun first => ih.bind fun others => pure (first :: others)

theorem many {more : Counting Bool} {more' : Production Bool} {item : Counting α}
    {item' : Production α} (deaf : ∀ token, (Event.reads token).observe calls = calls)
    (asks : Runs more more' depth calls depth calls)
    (items : Runs item item' depth calls depth calls) :
    Runs (Counting.many more item) (Production.many more' item') depth calls depth calls :=
  (lift Flat.remaining deaf).bind fun bound => many_up_to asks items bound

end Runs

end TreeQuery.Grammar
