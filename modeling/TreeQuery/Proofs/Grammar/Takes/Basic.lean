import TreeQuery.Proofs.Grammar.Act

/- What a production has taken when it succeeds. The tokens, the value and the names
   behind it stand in a given relation, whatever the stream held. -/
set_option autoImplicit false

namespace TreeQuery.Grammar

def Takes {α : Type} (production : Production α) (scope : Scope)
    (meaning : List Token → α → Scope → Prop) : Prop :=
  ∀ (state : State) (upcoming : List Token) (last : Token), last.kind = .endOfInput →
    state.At upcoming last scope →
      Ends (production state)
        (fun value after => ∃ taken rest names,
          upcoming = taken ++ rest ∧ after.At rest last names ∧ meaning taken value names)
        (fun _ _ => True)

-- A test for one more item: if it holds, there is a token left, and the test has
-- taken a lead; if not, it has taken nothing.
def Asks (more : Production Bool) (lead : List Token → Prop) : Prop :=
  ∀ (state : State) (upcoming : List Token) (last : Token) (scope : Scope),
    last.kind = .endOfInput → state.At upcoming last scope →
      Ends (more state)
        (fun found after =>
          if found then
            upcoming ≠ [] ∧ ∃ taken rest, lead taken ∧ upcoming = taken ++ rest ∧
              after.At rest last scope
          else after.At upcoming last scope)
        (fun _ _ => True)

namespace Takes

variable {α β : Type} {scope : Scope} {meaning : List Token → β → Scope → Prop}
  {kinds : List TokenKind} {kind : TokenKind}

theorem pure {value : β} (holds : meaning [] value scope) : Takes (pure value) scope meaning :=
  fun _ upcoming _ _ here => ⟨[], upcoming, scope, rfl, here, holds⟩

theorem throw (error : PatternError) : Takes (throw error) scope meaning :=
  fun _ _ _ _ _ => trivial

theorem unexpected : Takes Production.unexpected scope meaning := fun _ _ _ _ _ => trivial

theorem mono {production : Production β} {meaning' : List Token → β → Scope → Prop}
    (takes : Takes production scope meaning)
    (onDone : ∀ taken value names, meaning taken value names → meaning' taken value names) :
    Takes production scope meaning' := by
  intro state upcoming last ended here
  refine (takes state upcoming last ended here).mono ?_ fun _ _ _ => trivial
  rintro value after ⟨taken, rest, names, split, there, holds⟩
  exact ⟨taken, rest, names, split, there, onDone taken value names holds⟩

theorem bind {production : Production α} {next : α → Production β}
    {first : List Token → α → Scope → Prop} (takes : Takes production scope first)
    (others : ∀ taken value names, first taken value names →
      Takes (next value) names fun tokens => meaning (taken ++ tokens)) :
    Takes (production >>= next) scope meaning := by
  intro state upcoming last ended here
  rw [Ends.bind]
  refine (takes state upcoming last ended here).mono ?_ fun _ _ _ => trivial
  rintro value after ⟨taken, rest, names, rfl, there, holds⟩
  refine (others taken value names holds after rest last ended there).mono ?_ fun _ _ _ => trivial
  rintro result final ⟨tokens, rest, names, rfl, behind, holds⟩
  exact ⟨taken ++ tokens, rest, names, by simp, behind, holds⟩

theorem act {production : Production α} {next : α → Production β} {first : Option (α × Scope)}
    (acts : Acts production scope first)
    (others : ∀ value names, first = some (value, names) → Takes (next value) names meaning) :
    Takes (production >>= next) scope meaning := by
  intro state upcoming last ended here
  rw [Ends.bind]
  refine (acts state here.scope_eq).mono ?_ fun _ _ _ => trivial
  rintro value after ⟨stream, found⟩
  exact others value _ found after upcoming last ended
    ⟨stream ▸ here.upcoming_eq, stream ▸ here.last_eq, rfl⟩

theorem front {state : State} {upcoming : List Token} {last : Token}
    (ended : last.kind = .endOfInput) (here : state.At upcoming last scope)
    (within : .endOfInput ∉ kinds) (wanted : state.stream.isAny kinds = true) :
    ∃ (leaf : Leaf kinds) (rest : List Token), upcoming = leaf.token :: rest ∧
      state.stream.current = leaf.token := by
  have inside : nextKind upcoming last ∈ kinds := by simpa [here.is_any] using wanted
  cases upcoming with
  | nil => exact absurd (ended ▸ inside) within
  | cons token rest => exact ⟨⟨token, inside⟩, rest, rfl, here.current_eq⟩

theorem accept_any {next : Option Token → Production β} (within : .endOfInput ∉ kinds)
    (onSome : ∀ leaf : Leaf kinds,
      Takes (next (some leaf.token)) scope fun tokens => meaning (leaf.token :: tokens))
    (onNone : Takes (next none) scope meaning) :
    Takes (Production.acceptAny kinds >>= next) scope meaning := by
  intro state upcoming last ended here
  rw [Ends.bind, Production.accept_any_ends]
  by_cases wanted : state.stream.isAny kinds = true
  · obtain ⟨leaf, rest, rfl, current⟩ := front ended here within wanted
    rw [if_pos wanted, current]
    refine (onSome leaf _ rest last ended here.advance).mono ?_ fun _ _ _ => trivial
    rintro value after ⟨tokens, rest, names, rfl, there, holds⟩
    exact ⟨leaf.token :: tokens, rest, names, rfl, there, holds⟩
  · rw [if_neg wanted]
    exact onNone _ upcoming last ended (here.ask kinds)

theorem accepts {next : Bool → Production β} (within : .endOfInput ≠ kind)
    (onTrue : ∀ leaf : Leaf [kind],
      Takes (next true) scope fun tokens => meaning (leaf.token :: tokens))
    (onFalse : Takes (next false) scope meaning) :
    Takes (Production.accepts kind >>= next) scope meaning := by
  rw [Production.accepts_eq, bind_assoc]
  exact accept_any (by simpa using within) (fun leaf => by simpa using onTrue leaf)
    (by simpa using onFalse)

theorem consume {next : Token → Production β} (within : .endOfInput ≠ kind)
    (others : ∀ leaf : Leaf [kind],
      Takes (next leaf.token) scope fun tokens => meaning (leaf.token :: tokens)) :
    Takes (Production.consume kind >>= next) scope meaning := by
  intro state upcoming last ended here
  rw [Ends.bind, Production.consume_ends]
  by_cases wanted : state.stream.isAny [kind] = true
  · obtain ⟨leaf, rest, rfl, current⟩ := front ended here (by simpa using within) wanted
    rw [if_pos wanted, current]
    refine (others leaf _ rest last ended here.advance).mono ?_ fun _ _ _ => trivial
    rintro value after ⟨tokens, rest, names, rfl, there, holds⟩
    exact ⟨leaf.token :: tokens, rest, names, rfl, there, holds⟩
  · rw [if_neg wanted]
    trivial

theorem check {next : Bool → Production β} (others : ∀ found, Takes (next found) scope meaning) :
    Takes (Production.checkAny kinds >>= next) scope meaning := by
  intro state upcoming last ended here
  rw [Ends.bind]
  exact others _ _ upcoming last ended (here.ask kinds)

theorem get_scope {next : Scope → Production β} (others : Takes (next scope) scope meaning) :
    Takes (Production.getScope >>= next) scope meaning := by
  intro state upcoming last ended here
  rw [Ends.bind]
  change Ends (next state.scope state) _ _
  rw [here.scope_eq]
  exact others state upcoming last ended here

theorem set_scope {next : Unit → Production β} {names : Scope}
    (others : Takes (next ()) names meaning) :
    Takes (Production.setScope names >>= next) scope meaning := by
  intro state upcoming last ended here
  rw [Ends.bind]
  exact others _ upcoming last ended (here.rescope names)

end Takes

theorem Asks.accepts {kind : TokenKind} (within : .endOfInput ≠ kind) :
    Asks (Production.accepts kind) fun taken => ∃ leaf : Leaf [kind], taken = [leaf.token] := by
  intro state upcoming last scope ended here
  rw [Production.accepts_eq, Ends.bind, Production.accept, Production.accept_any_ends]
  by_cases wanted : state.stream.isAny [kind] = true
  · obtain ⟨leaf, rest, rfl, current⟩ := Takes.front ended here (by simpa using within) wanted
    rw [if_pos wanted]
    exact ⟨by simp, [leaf.token], rest, ⟨leaf, rfl⟩, rfl, here.advance⟩
  · rw [if_neg wanted]
    exact here.ask [kind]

theorem Asks.check {kinds : List TokenKind} (within : .endOfInput ∉ kinds) :
    Asks (Production.checkAny kinds) fun taken => taken = [] := by
  intro state upcoming last scope ended here
  change if state.stream.isAny kinds = true then _ else _
  by_cases wanted : state.stream.isAny kinds = true
  · obtain ⟨leaf, rest, rfl, current⟩ := Takes.front ended here within wanted
    rw [if_pos wanted]
    exact ⟨by simp, [], _, rfl, rfl, here.ask kinds⟩
  · rw [if_neg wanted]
    exact here.ask kinds

section Many

variable {α : Type} {more : Production Bool} {item : Production α} {lead : List Token → Prop}

-- Every round takes a token, so the tokens that are left bound the number of the
-- rounds: the repetition ends because the test fails, never for want of a bound.
theorem Takes.many_up_to (meaning : Scope → List Token → List α → Scope → Prop)
    (asks : Asks more lead) (stop : ∀ scope, meaning scope [] [] scope)
    (step : ∀ scope taken, lead taken → Takes item scope fun tokens value names =>
      taken ++ tokens ≠ [] ∧ ∀ others values final, meaning names others values final →
        meaning scope (taken ++ (tokens ++ others)) (value :: values) final)
    (bound : Nat) (scope : Scope) (state : State) (upcoming : List Token) (last : Token)
    (enough : upcoming.length ≤ bound) (ended : last.kind = .endOfInput)
    (here : state.At upcoming last scope) :
    Ends (Production.manyUpTo more item bound state)
      (fun values after => ∃ taken rest names, upcoming = taken ++ rest ∧
        after.At rest last names ∧ meaning scope taken values names)
      (fun _ _ => True) := by
  induction bound generalizing scope state upcoming with
  | zero =>
      unfold Production.manyUpTo
      rw [Ends.bind]
      refine (asks state upcoming last scope ended here).mono ?_ fun _ _ _ => trivial
      intro found after result
      cases found with
      | true => exact absurd (List.eq_nil_of_length_eq_zero (by omega)) result.1
      | false => exact ⟨[], upcoming, scope, rfl, result, stop scope⟩
  | succ bound ih =>
      unfold Production.manyUpTo
      rw [Ends.bind]
      refine (asks state upcoming last scope ended here).mono ?_ fun _ _ _ => trivial
      intro found after result
      cases found with
      | false => exact ⟨[], upcoming, scope, rfl, result, stop scope⟩
      | true =>
          obtain ⟨-, taken, rest, led, rfl, there⟩ := result
          rw [if_pos rfl, Ends.bind]
          refine (step scope taken led after rest last ended there).mono ?_ fun _ _ _ => trivial
          rintro value after ⟨tokens, rest, names, rfl, there, nonempty, extend⟩
          rw [Ends.bind]
          have shorter : rest.length ≤ bound := by
            have positive := List.length_pos_iff.2 nonempty
            simp only [List.length_append] at enough positive
            omega
          refine (ih names after rest shorter there).mono ?_ fun _ _ _ => trivial
          rintro values after ⟨others, rest, final, rfl, there, holds⟩
          exact ⟨taken ++ (tokens ++ others), rest, final, by simp, there,
            extend others values final holds⟩

theorem Takes.many (meaning : Scope → List Token → List α → Scope → Prop)
    (asks : Asks more lead) (stop : ∀ scope, meaning scope [] [] scope)
    (step : ∀ scope taken, lead taken → Takes item scope fun tokens value names =>
      taken ++ tokens ≠ [] ∧ ∀ others values final, meaning names others values final →
        meaning scope (taken ++ (tokens ++ others)) (value :: values) final)
    (scope : Scope) : Takes (Production.many more item) scope (meaning scope) := by
  intro state upcoming last ended here
  have enough : upcoming.length ≤ state.stream.remaining := by
    simp [TokenStream.remaining, here.upcoming_eq]
  unfold Production.many
  rw [Ends.bind]
  exact Takes.many_up_to meaning asks stop step _ scope state upcoming last enough ended here

end Many

end TreeQuery.Grammar
