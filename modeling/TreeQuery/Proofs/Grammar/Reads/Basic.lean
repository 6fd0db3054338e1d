import TreeQuery.Proofs.Grammar.Act

/- Productions on tokens that form a phrase. A production reads a phrase if it
   takes the tokens of the phrase and no more, gives what the phrase stands for,
   and fails only for a reason other than the order of the tokens: the phrase is
   nested too deep, or it has no outcome. -/
set_option autoImplicit false

namespace TreeQuery.Grammar

def Excused {α : Type} (fits : Prop) (outcome : Option α) : PatternError → Prop
  | .unexpectedToken _ => False
  | .nestingTooDeep _ _ => ¬ fits
  | _ => outcome = none

-- The production reads the tokens wherever a token of a kind in `follow` stands
-- behind them.
def Reads {α : Type} (production : Production α) (scope : Scope) (tokens : List Token)
    (follow : List TokenKind) (fits : Prop) (outcome : Option (α × Scope)) : Prop :=
  ∀ (state : State) (rest : List Token) (last : Token),
    state.At (tokens ++ rest) last scope → nextKind rest last ∈ follow →
      Ends (production state)
        (fun value after =>
          ∃ names, after.At rest last names ∧ fits ∧ outcome = some (value, names))
        (fun error _ => Excused fits outcome error)

def Opens (tokens : List Token) (follow kinds : List TokenKind) : Prop :=
  ∀ (rest : List Token) (last : Token), nextKind rest last ∈ follow →
    nextKind (tokens ++ rest) last ∈ kinds

theorem Opens.nil {follow kinds : List TokenKind} (inside : follow ⊆ kinds) :
    Opens [] follow kinds := fun _ _ next => inside next

theorem Opens.stay (follow : List TokenKind) : Opens [] follow follow := fun _ _ next => next

theorem Opens.cons {token : Token} {tokens : List Token} {follow kinds : List TokenKind}
    (first : token.kind ∈ kinds) : Opens (token :: tokens) follow kinds := fun _ _ _ => first

theorem Opens.length_pos {tokens : List Token} {kinds : List TokenKind}
    (opens : ∀ follow, Opens tokens follow kinds) (apart : .endOfInput ∉ kinds) :
    0 < tokens.length := by
  cases tokens with
  | nil => exact absurd (opens [.endOfInput] [] ⟨.endOfInput, [], .nowhere⟩ (by simp)) apart
  | cons token tokens => simp

theorem Opens.optional {tokens : List Token} {follow kinds kinds' : List TokenKind}
    (leaf : Option (Leaf kinds)) (opens : Opens tokens follow kinds') :
    Opens (optionalTokens leaf ++ tokens) follow (kinds ++ kinds') := by
  intro rest last next
  cases leaf with
  | none => exact List.mem_append_right _ (opens rest last next)
  | some leaf => exact List.mem_append_left _ leaf.kind_mem

theorem Opens.mono {tokens : List Token} {follow follow' kinds kinds' : List TokenKind}
    (opens : Opens tokens follow kinds) (behind : follow' ⊆ follow) (inside : kinds ⊆ kinds') :
    Opens tokens follow' kinds' := fun rest last next => inside (opens rest last (behind next))

namespace Reads

variable {α β : Type} {scope : Scope} {tokens tokens' : List Token} {follow follow' : List TokenKind}
  {fits fits' : Prop} {outcome : Option (β × Scope)} {kinds : List TokenKind} {kind : TokenKind}

theorem pure {value : α} {outcome : Option (α × Scope)} (holds : fits)
    (result : outcome = some (value, scope)) :
    Reads (pure value) scope [] follow fits outcome := fun _ _ _ here _ =>
  ⟨scope, here, holds, result⟩

theorem weaken {production : Production α} {outcome : Option (α × Scope)}
    (reads : Reads production scope tokens follow' fits outcome) (inside : follow ⊆ follow') :
    Reads production scope tokens follow fits outcome :=
  fun state rest last here behind => reads state rest last here (inside behind)

theorem bind {production : Production α} {next : α → Production β}
    {first : Option (α × Scope)} (reads : Reads production scope tokens follow' fits' first)
    (opens : Opens tokens' follow follow') (shallower : fits → fits')
    (strict : first = none → outcome = none)
    (others : ∀ value names, fits' → first = some (value, names) →
      Reads (next value) names tokens' follow fits outcome) :
    Reads (production >>= next) scope (tokens ++ tokens') follow fits outcome := by
  intro state rest last here behind
  rw [List.append_assoc] at here
  rw [Ends.bind]
  refine (reads state (tokens' ++ rest) last here (opens rest last behind)).mono ?_ ?_
  · rintro value after ⟨names, there, shallow, found⟩
    exact others value names shallow found after rest last there behind
  · intro error _ excused
    cases error with
    | unexpectedToken => exact excused
    | nestingTooDeep => exact fun deep => excused (shallower deep)
    | _ => exact strict excused

theorem bind_last {production : Production α} {next : α → Production β}
    {first : Option (α × Scope)} (reads : Reads production scope tokens follow fits' first)
    (shallower : fits → fits') (strict : first = none → outcome = none)
    (others : ∀ value names, fits' → first = some (value, names) →
      Reads (next value) names [] follow fits outcome) :
    Reads (production >>= next) scope tokens follow fits outcome := by
  rw [← List.append_nil tokens]
  exact bind reads (Opens.stay follow) shallower strict others

theorem map {production : Production α} (change : α → β) {first : Option (α × Scope)}
    (reads : Reads production scope tokens follow fits' first) (shallow : fits' ↔ fits) :
    Reads (production >>= fun value => Pure.pure (change value)) scope tokens follow fits
      (first.map fun found => (change found.1, found.2)) := by
  refine bind_last reads shallow.2 (fun missing => by rw [missing]; rfl) ?_
  intro value names holds found
  exact Reads.pure (shallow.1 holds) (by rw [found]; rfl)

theorem join {γ : Type} {production : Production α} {other : Production γ} (combine : α → γ → β)
    {fits' fits'' : Prop} {first : Option (α × Scope)} {second : Scope → Option (γ × Scope)}
    (reads : Reads production scope tokens follow' fits' first)
    (opens : Opens tokens' follow follow')
    (others : ∀ names, Reads other names tokens' follow fits'' (second names))
    (both : fits ↔ fits' ∧ fits'') :
    Reads (production >>= fun value => other >>= fun next => Pure.pure (combine value next)) scope
      (tokens ++ tokens') follow fits
      (first.bind fun found =>
        (second found.2).map fun next => (combine found.1 next.1, next.2)) := by
  refine bind reads opens (fun holds => (both.1 holds).1) (fun missing => by rw [missing]; rfl) ?_
  intro value names holds found
  rw [found]
  exact map (combine value) (others names)
    ⟨fun shallow => both.2 ⟨holds, shallow⟩, fun shallow => (both.1 shallow).2⟩

theorem act {production : Production α} {next : α → Production β} {first : Option (α × Scope)}
    (acts : Acts production scope first) (strict : first = none → outcome = none)
    (others : ∀ value names, first = some (value, names) →
      Reads (next value) names tokens follow fits outcome) :
    Reads (production >>= next) scope tokens follow fits outcome := by
  intro state rest last here behind
  rw [Ends.bind]
  refine (acts state here.scope_eq).mono ?_ ?_
  · rintro value after ⟨stream, found⟩
    exact others value _ found after rest last
      ⟨stream ▸ here.upcoming_eq, stream ▸ here.last_eq, rfl⟩ behind
  · rintro error _ ⟨meaning, missing⟩
    cases error with
    | unexpectedToken => exact meaning
    | nestingTooDeep => exact meaning.elim
    | _ => exact strict missing

theorem accept_leaf {next : Option Token → Production β} (leaf : Leaf kinds)
    (others : Reads (next (some leaf.token)) scope tokens follow fits outcome) :
    Reads (Production.acceptAny kinds >>= next) scope (leaf.token :: tokens) follow fits
      outcome := by
  intro state rest last here behind
  have wanted : state.stream.isAny kinds = true := by
    simpa [here.is_any] using leaf.kind_mem
  rw [Ends.bind, Production.accept_any_ends, if_pos wanted, here.current_eq]
  exact others _ rest last here.advance behind

theorem accept_other {next : Option Token → Production β}
    (opens : Opens tokens follow follow') (apart : ∀ kind ∈ follow', kind ∉ kinds)
    (others : Reads (next none) scope tokens follow fits outcome) :
    Reads (Production.acceptAny kinds >>= next) scope tokens follow fits outcome := by
  intro state rest last here behind
  have unwanted : ¬ state.stream.isAny kinds = true := by
    simpa [here.is_any] using apart _ (opens rest last behind)
  rw [Ends.bind, Production.accept_any_ends, if_neg unwanted]
  exact others _ rest last (here.ask kinds) behind

theorem accepts_leaf {next : Bool → Production β} (leaf : Leaf [kind])
    (others : Reads (next true) scope tokens follow fits outcome) :
    Reads (Production.accepts kind >>= next) scope (leaf.token :: tokens) follow fits outcome := by
  rw [Production.accepts_eq, bind_assoc]
  exact accept_leaf leaf (by simpa using others)

theorem accepts_other {next : Bool → Production β} (opens : Opens tokens follow follow')
    (apart : kind ∉ follow')
    (others : Reads (next false) scope tokens follow fits outcome) :
    Reads (Production.accepts kind >>= next) scope tokens follow fits outcome := by
  rw [Production.accepts_eq, bind_assoc]
  refine accept_other opens (fun other inside same => ?_) (by simpa using others)
  rw [List.mem_singleton] at same
  exact apart (same ▸ inside)

theorem accept_optional {next : Option Token → Production β} (leaf : Option (Leaf [kind]))
    (opens : Opens tokens follow follow') (apart : kind ∉ follow')
    (others : Reads (next (leaf.map Leaf.token)) scope tokens follow fits outcome) :
    Reads (Production.accept kind >>= next) scope (optionalTokens leaf ++ tokens) follow fits
      outcome := by
  cases leaf with
  | none =>
      refine accept_other opens (fun other inside same => ?_) others
      rw [List.mem_singleton] at same
      exact apart (same ▸ inside)
  | some leaf => exact accept_leaf leaf others

theorem accepts_optional {next : Bool → Production β} (leaf : Option (Leaf [kind]))
    (opens : Opens tokens follow follow') (apart : kind ∉ follow')
    (others : Reads (next leaf.isSome) scope tokens follow fits outcome) :
    Reads (Production.accepts kind >>= next) scope (optionalTokens leaf ++ tokens) follow fits
      outcome := by
  rw [Production.accepts_eq, bind_assoc]
  exact accept_optional leaf opens apart (by simpa using others)

theorem consume_leaf {next : Token → Production β} (leaf : Leaf [kind])
    (others : Reads (next leaf.token) scope tokens follow fits outcome) :
    Reads (Production.consume kind >>= next) scope (leaf.token :: tokens) follow fits outcome := by
  intro state rest last here behind
  have wanted : state.stream.isAny [kind] = true := by
    simpa [here.is_any] using leaf.kind_mem
  rw [Ends.bind, Production.consume_ends, if_pos wanted, here.current_eq]
  exact others _ rest last here.advance behind

theorem check_true {next : Bool → Production β} (opens : Opens tokens follow follow')
    (inside : follow' ⊆ kinds) (others : Reads (next true) scope tokens follow fits outcome) :
    Reads (Production.checkAny kinds >>= next) scope tokens follow fits outcome := by
  intro state rest last here behind
  have wanted : state.stream.isAny kinds = true := by
    simpa [here.is_any] using inside (opens rest last behind)
  rw [Ends.bind]
  change Ends (next (state.stream.isAny kinds) _) _ _
  rw [wanted]
  exact others _ rest last (here.ask kinds) behind

theorem check_false {next : Bool → Production β} (opens : Opens tokens follow follow')
    (apart : ∀ kind ∈ follow', kind ∉ kinds)
    (others : Reads (next false) scope tokens follow fits outcome) :
    Reads (Production.checkAny kinds >>= next) scope tokens follow fits outcome := by
  intro state rest last here behind
  have unwanted : state.stream.isAny kinds = false := by
    simpa [here.is_any] using apart _ (opens rest last behind)
  rw [Ends.bind]
  change Ends (next (state.stream.isAny kinds) _) _ _
  rw [unwanted]
  exact others _ rest last (here.ask kinds) behind

theorem get_scope {next : Scope → Production β}
    (others : Reads (next scope) scope tokens follow fits outcome) :
    Reads (Production.getScope >>= next) scope tokens follow fits outcome := by
  intro state rest last here behind
  rw [Ends.bind]
  change Ends (next state.scope state) _ _
  rw [here.scope_eq]
  exact others state rest last here behind

theorem set_scope {next : Unit → Production β} {names : Scope}
    (others : Reads (next ()) names tokens follow fits outcome) :
    Reads (Production.setScope names >>= next) scope tokens follow fits outcome := by
  intro state rest last here behind
  rw [Ends.bind]
  exact others _ rest last (here.rescope names) behind

-- The bound of a repetition is the number of the tokens left, hence no less than
-- the number of those that it is to read.
theorem many {more : Production Bool} {item : Production α} {outcome : Option (List α × Scope)}
    (reads : ∀ bound, tokens.length ≤ bound →
      Reads (Production.manyUpTo more item bound) scope tokens follow fits outcome) :
    Reads (Production.many more item) scope tokens follow fits outcome := by
  intro state rest last here behind
  unfold Production.many
  rw [Ends.bind]
  refine reads state.stream.remaining ?_ state rest last here behind
  simp [TokenStream.remaining, here.upcoming_eq]

theorem many_stop {more : Production Bool} {item : Production α} {bound : Nat}
    {outcome : Option (List α × Scope)}
    (stops : ∀ next : Bool → Production (List α), Reads (next false) scope [] follow fits outcome →
      Reads (more >>= next) scope [] follow fits outcome)
    (holds : fits) (result : outcome = some ([], scope)) :
    Reads (Production.manyUpTo more item bound) scope [] follow fits outcome := by
  cases bound <;> exact stops _ (Reads.pure holds result)

end Reads

end TreeQuery.Grammar
