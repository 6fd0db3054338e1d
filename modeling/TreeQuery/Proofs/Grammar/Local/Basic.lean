import TreeQuery.Proofs.Grammar.Takes.Basic

/- What a run depends on. A production knows the tokens that it took, and of the token
   behind them no more than whether its kind was asked for: with another token there
   whose kind was not asked for either, it comes to the same end. -/
set_option autoImplicit false

namespace TreeQuery.Grammar

def State.onto (state : State) (upcoming : List Token) (last : Token) : State :=
  { state with stream := { state.stream with upcoming, last } }

-- Tokens that look like those to come: they start with the same token, or nothing
-- that was asked for would tell the difference.
structure Alike (state : State) (rest : List Token) (last : Token) : Prop where
  ended : last.kind = .endOfInput
  next : rest.headD last = state.stream.current ∨
    state.stream.current.kind ∉ state.stream.asked ∧ nextKind rest last ∉ state.stream.asked

theorem Passed.alike {state after : State} {taken rest : List Token} {last : Token}
    (passed : Passed state taken after) (same : Alike after rest last) :
    Alike state (taken ++ rest) last where
  ended := same.ended
  next := by
    cases taken with
    | nil =>
        have current : state.stream.current = after.stream.current := by
          unfold TokenStream.current
          rw [passed.upcoming_eq, passed.last_eq, List.nil_append]
        have asked := passed.asked_subset rfl
        rw [List.nil_append, current]
        rcases same.next with same | apart
        · exact .inl same
        · exact .inr ⟨fun known => apart.1 (asked known), fun known => apart.2 (asked known)⟩
    | cons token taken =>
        have current : state.stream.current = token := by
          unfold TokenStream.current
          rw [passed.upcoming_eq]
          rfl
        exact .inl current.symm

theorem State.onto_is_any (state : State) (rest : List Token) (last : Token)
    (kinds : List TokenKind) :
    (state.onto rest last).stream.isAny kinds = kinds.contains (nextKind rest last) := rfl

theorem Alike.is_any {state : State} {rest : List Token} {last : Token} {kinds : List TokenKind}
    (same : Alike { state with stream := state.stream.ask kinds } rest last) :
    (state.onto rest last).stream.isAny kinds = state.stream.isAny kinds := by
  rw [State.onto_is_any, TokenStream.isAny]
  rcases same.next with same | apart
  · rw [nextKind, same]
    rfl
  · obtain ⟨unasked, unaskedToo⟩ := apart
    have here : state.stream.current.kind ∉ kinds :=
      fun known => unasked (List.mem_append_right _ known)
    have there : nextKind rest last ∉ kinds :=
      fun known => unaskedToo (List.mem_append_right _ known)
    simp [here, there]

def Local {α : Type} (production : Production α) : Prop :=
  ∀ state : State, state.stream.last.kind = .endOfInput → Ends (production state)
    (fun value after => ∃ taken, Passed state taken after ∧
      ∀ (rest : List Token) (last : Token), Alike after rest last →
        production (state.onto (taken ++ rest) last) = .ok value (after.onto rest last))
    (fun error after => ∀ unexpected, error = .unexpectedToken unexpected →
      ∃ taken, Passed state taken after ∧
        ∀ (rest : List Token) (last : Token), Alike after rest last →
          ∃ other, production (state.onto (taken ++ rest) last) =
            .error (.unexpectedToken other) (after.onto rest last))

namespace Local

variable {α β : Type} {kinds : List TokenKind} {kind : TokenKind}

theorem bind {production : Production α} {next : α → Production β} (first : Local production)
    (others : ∀ value, Local (next value)) : Local (production >>= next) := by
  intro state ended
  rw [Ends.bind]
  apply (first state ended).mono
  · intro value middle run
    obtain ⟨taken, passed, again⟩ := run
    apply (others value middle (passed.ended ended)).mono
    · intro result after run
      obtain ⟨tokens, passedToo, againToo⟩ := run
      refine ⟨taken ++ tokens, passed.trans passedToo, ?_⟩
      intro rest last same
      rw [List.append_assoc, Production.bind_apply,
        again (tokens ++ rest) last (passedToo.alike same)]
      exact againToo rest last same
    · intro error after run unexpected isUnexpected
      obtain ⟨tokens, passedToo, againToo⟩ := run unexpected isUnexpected
      refine ⟨taken ++ tokens, passed.trans passedToo, ?_⟩
      intro rest last same
      rw [List.append_assoc, Production.bind_apply,
        again (tokens ++ rest) last (passedToo.alike same)]
      exact againToo rest last same
  · intro error after run unexpected isUnexpected
    obtain ⟨taken, passed, again⟩ := run unexpected isUnexpected
    refine ⟨taken, passed, ?_⟩
    intro rest last same
    obtain ⟨other, failed⟩ := again rest last same
    exact ⟨other, by rw [Production.bind_apply, failed]⟩

theorem act {production : Production α} {outcome : Scope → Option (α × Scope)}
    (acts : ∀ scope, Acts production scope (outcome scope)) : Local production := by
  intro state _
  apply (acts state.scope state rfl).mono
  · intro value after run
    obtain ⟨stream, names⟩ := after
    obtain ⟨same, found⟩ := run
    change stream = state.stream at same
    subst same
    refine ⟨[], Passed.act, ?_⟩
    intro rest last _
    have again := acts state.scope (state.onto rest last) rfl
    rw [found] at again
    rw [List.nil_append]
    cases run : production (state.onto rest last) with
    | error error after =>
        rw [run] at again
        cases again.2
    | ok other after =>
        rw [run] at again
        obtain ⟨stream, namesToo⟩ := after
        obtain ⟨same, foundToo⟩ := again
        change stream = (state.onto rest last).stream at same
        subst same
        cases foundToo
        rfl
  · intro error after run unexpected isUnexpected
    rw [isUnexpected] at run
    exact run.1.elim

theorem pure (value : α) : Local (pure value) := by
  have acts : ∀ scope, Acts (Pure.pure value) scope (some (value, scope)) :=
    fun _ _ here => ⟨rfl, by rw [← here]⟩
  exact act acts

theorem throw (error : PatternError) (expected : ∀ unexpected, error ≠ .unexpectedToken unexpected) :
    Local (α := α) (throw error) := fun _ _ unexpected same => absurd same (expected unexpected)

theorem unexpected : Local (α := α) Production.unexpected := by
  intro state _ _ _
  refine ⟨[], Passed.stay state, ?_⟩
  intro rest last _
  exact ⟨_, rfl⟩

theorem check_any : Local (Production.checkAny kinds) := by
  intro state _
  refine ⟨[], Passed.ask kinds, ?_⟩
  intro rest last same
  change EStateM.Result.ok ((state.onto rest last).stream.isAny kinds) _ = _
  rw [same.is_any]
  rfl

theorem accept_any (within : .endOfInput ∉ kinds) : Local (Production.acceptAny kinds) := by
  intro state ended
  rw [Production.accept_any_ends]
  have here : state.At state.stream.upcoming state.stream.last state.scope := ⟨rfl, rfl, rfl⟩
  by_cases wanted : state.stream.isAny kinds = true
  · obtain ⟨leaf, rest, next, current⟩ := Takes.front ended here within wanted
    rw [if_pos wanted]
    refine ⟨[leaf.token], Passed.advance next, ?_⟩
    intro rest last _
    have wantedToo : (state.onto (leaf.token :: rest) last).stream.isAny kinds = true := by
      simpa [TokenStream.isAny, TokenStream.current, State.onto] using leaf.kind_mem
    rw [current, List.singleton_append, Production.accept_any_taken wantedToo]
    rfl
  · rw [if_neg wanted]
    refine ⟨[], Passed.ask kinds, ?_⟩
    intro rest last same
    have unwanted : ¬ (state.onto rest last).stream.isAny kinds = true := by
      rw [same.is_any]
      exact wanted
    rw [List.nil_append, Production.accept_any_refused unwanted]
    rfl

theorem accept (within : .endOfInput ≠ kind) : Local (Production.accept kind) :=
  accept_any (by simpa using within)

theorem accepts (within : .endOfInput ≠ kind) : Local (Production.accepts kind) := by
  rw [Production.accepts_eq]
  exact (accept within).bind fun _ => pure _

theorem consume (within : .endOfInput ≠ kind) : Local (Production.consume kind) := by
  rw [Production.consume_eq]
  apply (accept within).bind
  intro token
  cases token with
  | none => exact unexpected
  | some token => exact pure token

end Local

def Advances {α : Type} (more : Production Bool) (item : Production α) : Prop :=
  ∀ state : State, state.stream.last.kind = .endOfInput → Ends (more state)
    (fun found middle => found = true → 0 < state.stream.remaining ∧
      Ends (item middle)
        (fun _ after => after.stream.last.kind = .endOfInput ∧
          after.stream.remaining < state.stream.remaining)
        (fun _ _ => True))
    (fun _ _ => True)

section Many

variable {α : Type} {more : Production Bool} {item : Production α}

theorem Advances.of_takes {lead : List Token → Prop} (asks : Asks more lead)
    (takes : ∀ scope taken, lead taken →
      Takes item scope fun tokens _ _ => taken ++ tokens ≠ []) : Advances more item := by
  intro state ended
  apply (asks state _ _ state.scope ended ⟨rfl, rfl, rfl⟩).mono
  · intro found middle run isFound
    subst isFound
    obtain ⟨present, taken, rest, led, split, there⟩ := run
    refine ⟨List.length_pos_iff.2 present, ?_⟩
    apply (takes state.scope taken led middle rest _ ended there).mono
    · intro value after run
      obtain ⟨tokens, behind, names, splitToo, here, nonempty⟩ := run
      refine ⟨by rw [here.last_eq]; exact ended, ?_⟩
      have positive := List.length_pos_iff.2 nonempty
      simp only [List.length_append] at positive
      simp only [TokenStream.remaining, here.upcoming_eq, split, splitToo, List.length_append]
      omega
    · exact fun _ _ _ => trivial
  · exact fun _ _ _ => trivial

theorem Advances.many_up_to_end (advances : Advances more item) (state : State)
    (ended : state.stream.last.kind = .endOfInput) (nothing : state.stream.remaining = 0)
    (bound : Nat) :
    Production.manyUpTo more item bound state = (more >>= fun _ => Pure.pure []) state := by
  cases bound with
  | zero => rfl
  | succ bound =>
      have round := advances state ended
      unfold Production.manyUpTo
      simp only [Production.bind_apply]
      cases run : more state with
      | error error middle => rfl
      | ok found middle =>
          rw [run] at round
          cases found with
          | false => rfl
          | true =>
              have present := (round rfl).1
              omega

-- A repetition ends before its bound does, so that a larger bound changes nothing.
theorem Advances.many_up_to_eq (advances : Advances more item) (bound bound' : Nat) (state : State)
    (ended : state.stream.last.kind = .endOfInput) (enough : state.stream.remaining ≤ bound)
    (enough' : state.stream.remaining ≤ bound') :
    Production.manyUpTo more item bound state = Production.manyUpTo more item bound' state := by
  induction bound generalizing bound' state with
  | zero =>
      have nothing : state.stream.remaining = 0 := by omega
      rw [advances.many_up_to_end state ended nothing, advances.many_up_to_end state ended nothing]
  | succ bound ih =>
      cases bound' with
      | zero =>
          have nothing : state.stream.remaining = 0 := by omega
          rw [advances.many_up_to_end state ended nothing,
            advances.many_up_to_end state ended nothing]
      | succ bound' =>
          have round := advances state ended
          unfold Production.manyUpTo
          simp only [Production.bind_apply]
          cases run : more state with
          | error error middle => rfl
          | ok found middle =>
              rw [run] at round
              cases found with
              | false => rfl
              | true =>
                  have taken := (round rfl).2
                  simp only [if_true, Production.bind_apply]
                  cases runItem : item middle with
                  | error error after => rfl
                  | ok value after =>
                      rw [runItem] at taken
                      obtain ⟨endedToo, fewer⟩ := taken
                      simp only
                      rw [ih bound' after endedToo (by omega) (by omega)]

theorem Local.many_up_to (more' : Local more) (item' : Local item) (bound : Nat) :
    Local (Production.manyUpTo more item bound) := by
  induction bound with
  | zero => exact more'.bind fun _ => Local.pure []
  | succ bound ih =>
      apply more'.bind
      intro found
      cases found with
      | false => exact Local.pure []
      | true => exact item'.bind fun first => ih.bind fun others => Local.pure (first :: others)

theorem Advances.many_eq (advances : Advances more item) (state : State)
    (ended : state.stream.last.kind = .endOfInput) (bound : Nat)
    (enough : state.stream.remaining ≤ bound) :
    Production.many more item state = Production.manyUpTo more item bound state :=
  advances.many_up_to_eq _ bound state ended (Nat.le_refl _) enough

-- With other tokens to come the bound is another one, but no bound is ever reached.
theorem Local.many (more' : Local more) (item' : Local item) (advances : Advances more item) :
    Local (Production.many more item) := by
  intro state ended
  have bounded := fun bound enough =>
    advances.many_eq state ended bound enough ▸ many_up_to more' item' bound state ended
  have here := bounded state.stream.remaining (Nat.le_refl _)
  cases run : Production.many more item state with
  | ok value after =>
      rw [run] at here
      obtain ⟨taken, passed, _⟩ := here
      refine ⟨taken, passed, ?_⟩
      intro rest last same
      have enough := bounded (max state.stream.remaining (taken ++ rest).length)
        (Nat.le_max_left _ _)
      rw [run] at enough
      obtain ⟨tokens, passedToo, again⟩ := enough
      cases passed.unique passedToo
      rw [advances.many_eq (state.onto (taken ++ rest) last) same.ended _ (Nat.le_max_right _ _)]
      exact again rest last same
  | error error after =>
      rw [run] at here
      intro unexpected isUnexpected
      obtain ⟨taken, passed, _⟩ := here unexpected isUnexpected
      refine ⟨taken, passed, ?_⟩
      intro rest last same
      have enough := bounded (max state.stream.remaining (taken ++ rest).length)
        (Nat.le_max_left _ _)
      rw [run] at enough
      obtain ⟨tokens, passedToo, again⟩ := enough unexpected isUnexpected
      cases passed.unique passedToo
      rw [advances.many_eq (state.onto (taken ++ rest) last) same.ended _ (Nat.le_max_right _ _)]
      exact again rest last same

end Many

end TreeQuery.Grammar
