import TreeQuery.Grammar.Level

/- Runs of productions, one step at a time: where the stream stands, and what each
   primitive does from there. -/
set_option autoImplicit false

namespace TreeQuery.Grammar

-- The tokens still to come, the token at which the stream ends, and the names
-- known so far. What has been asked for since the last token does not count.
structure State.At (state : State) (upcoming : List Token) (last : Token) (scope : Scope) :
    Prop where
  upcoming_eq : state.stream.upcoming = upcoming
  last_eq : state.stream.last = last
  scope_eq : state.scope = scope

def nextKind (upcoming : List Token) (last : Token) : TokenKind := (upcoming.headD last).kind

@[simp] theorem next_kind_nil (last : Token) : nextKind [] last = last.kind := rfl

@[simp] theorem next_kind_cons (token : Token) (rest : List Token) (last : Token) :
    nextKind (token :: rest) last = token.kind := rfl

def Ends {α : Type} (result : EStateM.Result PatternError State α) (done : α → State → Prop)
    (failed : PatternError → State → Prop) : Prop :=
  match result with
  | .ok value state => done value state
  | .error error state => failed error state

namespace Ends

variable {α β : Type} {done done' : α → State → Prop} {failed failed' : PatternError → State → Prop}

theorem mono {result : EStateM.Result PatternError State α} (ends : Ends result done failed)
    (onDone : ∀ value state, done value state → done' value state)
    (onFailed : ∀ error state, failed error state → failed' error state) :
    Ends result done' failed' := by
  cases result with
  | ok value state => exact onDone value state ends
  | error error state => exact onFailed error state ends

theorem bind (production : Production α) (next : α → Production β) (state : State)
    {done : β → State → Prop} :
    Ends ((production >>= next) state) done failed ↔
      Ends (production state) (fun value state => Ends (next value state) done failed) failed := by
  change Ends (EStateM.bind production next state) done failed ↔ _
  unfold EStateM.bind
  cases production state <;> exact Iff.rfl

end Ends

namespace State.At

variable {state : State} {upcoming rest : List Token} {last token : Token} {scope : Scope}

theorem current_eq (here : state.At upcoming last scope) :
    state.stream.current = upcoming.headD last := by
  rw [TokenStream.current, here.upcoming_eq, here.last_eq]

theorem is_any (here : state.At upcoming last scope) (kinds : List TokenKind) :
    state.stream.isAny kinds = kinds.contains (nextKind upcoming last) := by
  rw [TokenStream.isAny, here.current_eq, nextKind]

theorem ask (here : state.At upcoming last scope) (kinds : List TokenKind) :
    State.At { state with stream := state.stream.ask kinds } upcoming last scope :=
  ⟨here.upcoming_eq, here.last_eq, here.scope_eq⟩

theorem advance (here : state.At (token :: rest) last scope) :
    State.At { state with stream := state.stream.advance } rest last scope :=
  ⟨by simp [TokenStream.advance, here.upcoming_eq], here.last_eq, here.scope_eq⟩

theorem rescope (here : state.At upcoming last scope) (names : Scope) :
    State.At { state with scope := names } upcoming last names :=
  ⟨here.upcoming_eq, here.last_eq, rfl⟩

end State.At

namespace Production

variable {α β : Type} {state : State} {done : Option Token → State → Prop}
  {failed : PatternError → State → Prop} {kinds : List TokenKind} {kind : TokenKind}

theorem accept_any_ends : Ends (acceptAny kinds state) done failed ↔
    if state.stream.isAny kinds then
      done (some state.stream.current) { state with stream := state.stream.advance }
    else done none { state with stream := state.stream.ask kinds } := by
  unfold acceptAny TokenStream.acceptAny
  by_cases wanted : state.stream.isAny kinds <;> simp [wanted, Ends]

theorem accept_any_taken (wanted : state.stream.isAny kinds = true) : acceptAny kinds state =
    .ok (some state.stream.current) { state with stream := state.stream.advance } := by
  unfold acceptAny TokenStream.acceptAny
  rw [if_pos wanted]

theorem accept_any_refused (unwanted : ¬ state.stream.isAny kinds = true) :
    acceptAny kinds state = .ok none { state with stream := state.stream.ask kinds } := by
  unfold acceptAny TokenStream.acceptAny
  rw [if_neg unwanted]

theorem accepts_eq : accepts kind = (accept kind >>= fun token => pure token.isSome) := rfl

theorem consume_ends {done : Token → State → Prop} : Ends (consume kind state) done failed ↔
    if state.stream.isAny [kind] then
      done state.stream.current { state with stream := state.stream.advance }
    else failed (.unexpectedToken (state.stream.ask [kind]).unexpected)
      { state with stream := state.stream.ask [kind] } := by
  unfold consume TokenStream.consume TokenStream.accept TokenStream.acceptAny
  by_cases wanted : state.stream.isAny [kind] <;> simp [wanted, Ends]

theorem consume_taken (wanted : state.stream.isAny [kind] = true) : consume kind state =
    .ok state.stream.current { state with stream := state.stream.advance } := by
  unfold consume TokenStream.consume TokenStream.accept TokenStream.acceptAny
  rw [if_pos wanted]

theorem consume_refused (unwanted : ¬ state.stream.isAny [kind] = true) :
    consume kind state = .error (.unexpectedToken (state.stream.ask [kind]).unexpected)
      { state with stream := state.stream.ask [kind] } := by
  unfold consume TokenStream.consume TokenStream.accept TokenStream.acceptAny
  rw [if_neg unwanted]

def branches (settings : Settings) (deeper : Option Level) (underNegation : Bool)
    (before : Scope) : Production (List (Node × Scope)) := do
  let first ← branch settings deeper underNegation
  let others ← many (accepts .pipe) do
    setScope before
    branch settings deeper underNegation
  return first :: others

theorem disjunction_eq (settings : Settings) (deeper : Option Level) (underNegation : Bool) :
    disjunction settings deeper underNegation = do
      let before ← getScope
      let found ← branches settings deeper underNegation before
      setScope ((← getScope).mergeAll (found.map Prod.snd))
      return Node.coordinate false (found.map Prod.fst) := by
  unfold disjunction branches
  simp only [bind_assoc, pure_bind]

theorem bind_apply (production : Production α) (next : α → Production β)
    (state : State) : (production >>= next) state =
      match production state with
      | .ok value after => next value after
      | .error error after => .error error after := by
  change EStateM.bind production next state = _
  unfold EStateM.bind
  cases production state <;> rfl

theorem consume_eq (kind : TokenKind) : consume kind =
    (accept kind >>= fun found =>
      match found with
      | some token => pure token
      | none => unexpected) := by
  funext state
  rw [bind_apply]
  unfold consume accept acceptAny TokenStream.consume
    TokenStream.accept TokenStream.acceptAny
  by_cases wanted : state.stream.isAny [kind] = true
  · simp only [if_pos wanted]
    rfl
  · simp only [if_neg wanted]
    rfl

end Production

-- From one state to another by taking tokens. What was asked for is forgotten with
-- the first token that is taken.
structure Passed (state : State) (taken : List Token) (after : State) : Prop where
  upcoming_eq : state.stream.upcoming = taken ++ after.stream.upcoming
  last_eq : after.stream.last = state.stream.last
  asked_subset : taken = [] → state.stream.asked ⊆ after.stream.asked

namespace Passed

variable {state middle after : State} {taken others : List Token}

theorem stay (state : State) : Passed state [] state := ⟨rfl, rfl, fun _ => List.Subset.refl _⟩

theorem trans (first : Passed state taken middle) (second : Passed middle others after) :
    Passed state (taken ++ others) after where
  upcoming_eq := by rw [first.upcoming_eq, second.upcoming_eq, List.append_assoc]
  last_eq := second.last_eq.trans first.last_eq
  asked_subset := by
    intro none
    obtain ⟨noneFirst, noneSecond⟩ := List.append_eq_nil_iff.1 none
    exact List.Subset.trans (first.asked_subset noneFirst) (second.asked_subset noneSecond)

theorem ended (passed : Passed state taken after) (last : state.stream.last.kind = .endOfInput) :
    after.stream.last.kind = .endOfInput := by
  rw [passed.last_eq]
  exact last

theorem ask (kinds : List TokenKind) :
    Passed state [] { state with stream := state.stream.ask kinds } :=
  ⟨rfl, rfl, fun _ => List.subset_append_left _ _⟩

theorem act {scope : Scope} : Passed state [] { state with scope } :=
  ⟨rfl, rfl, fun _ => List.Subset.refl _⟩

theorem advance {token : Token} {rest : List Token} (next : state.stream.upcoming = token :: rest) :
    Passed state [token] { state with stream := state.stream.advance } where
  upcoming_eq := by simp [TokenStream.advance, next]
  last_eq := rfl
  asked_subset := by simp

theorem unique (passed : Passed state taken after) (again : Passed state others after) :
    others = taken :=
  List.append_cancel_right (again.upcoming_eq.symm.trans passed.upcoming_eq)

end Passed

end TreeQuery.Grammar
