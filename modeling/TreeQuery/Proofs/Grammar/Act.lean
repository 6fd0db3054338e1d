import TreeQuery.Proofs.Grammar.Run
import TreeQuery.Proofs.Grammar.Phrase
import TreeQuery.Proofs.Scope.Behind

/- Productions that take no token: they look a word up, or declare a name or refer
   to one. They fail for what the words mean, never for the order of the tokens. -/
set_option autoImplicit false

namespace TreeQuery.Grammar

def OfMeaning : PatternError → Prop
  | .unexpectedToken _ => False
  | .nestingTooDeep _ _ => False
  | _ => True

def Acts {α : Type} (production : Production α) (scope : Scope) (outcome : Option (α × Scope)) :
    Prop :=
  ∀ state : State, state.scope = scope → Ends (production state)
    (fun value after => after.stream = state.stream ∧ outcome = some (value, after.scope))
    (fun error _ => OfMeaning error ∧ outcome = none)

def outcomeOf {α : Type} (value : Option α) (behind : α → Scope → Option Scope) (scope : Scope) :
    Option (α × Scope) :=
  value.bind fun value => (behind value scope).map (value, ·)

theorem outcome_of_eq_some {α : Type} {found : Option α} {behind : α → Scope → Option Scope}
    {scope names : Scope} {value : α} :
    outcomeOf found behind scope = some (value, names) ↔
      found = some value ∧ behind value scope = some names := by
  cases found with
  | none => simp [outcomeOf]
  | some other =>
      simp only [outcomeOf, Option.bind_some, Option.map_eq_some_iff, Prod.mk.injEq,
        Option.some.injEq]
      constructor
      · rintro ⟨_, result, rfl, rfl⟩
        exact ⟨rfl, result⟩
      · rintro ⟨rfl, result⟩
        exact ⟨names, result, rfl, rfl⟩

theorem outcome_of_eq_none {α : Type} {found : Option α} {behind : α → Scope → Option Scope}
    {scope : Scope} :
    outcomeOf found behind scope = none ↔ ∀ value, found = some value → behind value scope = none := by
  cases found <;> simp [outcomeOf]

theorem outcome_of_map {α β : Type} (found : Option α) (change : α → β)
    {behind : β → Scope → Option Scope} {behindFirst : α → Scope → Option Scope} (scope : Scope)
    (same : ∀ value, found = some value → behind (change value) scope = behindFirst value scope) :
    outcomeOf (found.map change) behind scope =
      (outcomeOf found behindFirst scope).map fun first => (change first.1, first.2) := by
  cases found with
  | none => rfl
  | some value =>
      cases first : behindFirst value scope <;> simp [outcomeOf, same value rfl, first]

-- Values that are joined from two parts, each with its own effect on the names.
theorem outcome_of_bind {α β γ : Type} (found : Option α) (next : α → Option β)
    (join : α → β → γ) {behind : γ → Scope → Option Scope} {behindFirst : α → Scope → Option Scope}
    {behindNext : β → Scope → Option Scope} (scope : Scope)
    (inOrder : ∀ value other, found = some value →
      behind (join value other) scope = (behindFirst value scope).bind (behindNext other)) :
    outcomeOf (found.bind fun value => (next value).bind fun other => some (join value other))
        behind scope =
      (outcomeOf found behindFirst scope).bind fun first =>
        (outcomeOf (next first.1) behindNext first.2).map fun second =>
          (join first.1 second.1, second.2) := by
  cases found with
  | none => rfl
  | some value =>
      cases second : next value with
      | none =>
          cases first : behindFirst value scope <;> simp [outcomeOf, first, second]
      | some other =>
          cases first : behindFirst value scope with
          | none => simp [outcomeOf, first, second, inOrder value other rfl]
          | some names =>
              cases last : behindNext other names <;>
                simp [outcomeOf, first, second, last, inOrder value other rfl]

namespace Acts

variable {α : Type} {scope : Scope}

theorem get_scope (scope : Scope) : Acts Production.getScope scope (some (scope, scope)) := by
  intro state here
  subst here
  exact ⟨rfl, rfl⟩

theorem set_scope (scope names : Scope) :
    Acts (Production.setScope names) scope (some ((), names)) := fun _ _ => ⟨rfl, rfl⟩

theorem of_except {result : Except PatternError α}
    (meaning : ∀ error, result = .error error → OfMeaning error) :
    Acts (Production.ofExcept result) scope (result.toOption.map (·, scope)) := by
  intro state here
  cases result with
  | ok value => exact ⟨rfl, by simp [Except.toOption, here]⟩
  | error error => exact ⟨meaning error rfl, rfl⟩

theorem descriptor (checker : Regex.Checker) (label : Token) :
    Acts (Production.ofExcept (descriptorOf checker label)) scope
      ((descriptorOf checker label).toOption.map (·, scope)) := by
  refine of_except fun error failed => ?_
  unfold descriptorOf at failed
  split at failed
  · split at failed
    · cases failed
    · cases failed
      trivial
  · cases failed
  · cases failed

variable (settings : Settings)

theorem declare_group (name : Token) : Acts (Production.declareGroup settings name) scope
    ((scope.behindGroup settings.checkNames name.text).map ((), ·)) := by
  rintro state rfl
  unfold Production.declareGroup Scope.behindGroup
  split
  · rw [Ends.bind]
    change Ends ((Production.ofScope _ (state.scope.declareGroup name.text) >>= _) state) _ _
    rw [Ends.bind]
    cases state.scope.declareGroup name.text with
    | ok names => exact ⟨rfl, rfl⟩
    | error error => cases error <;> exact ⟨trivial, rfl⟩
  · exact ⟨rfl, rfl⟩

theorem reference (name : Token) : Acts (Production.reference settings name) scope
    ((scope.behindReference settings.checkNames (some name.text)).map ((), ·)) := by
  rintro state rfl
  unfold Production.reference
  simp only [Scope.behindReference]
  split
  · rw [Ends.bind]
    change Ends (Production.ofScope _ (state.scope.reference name.text) state) _ _
    cases state.scope.reference name.text with
    | ok known => exact ⟨rfl, rfl⟩
    | error error => cases error <;> exact ⟨trivial, rfl⟩
  · exact ⟨rfl, rfl⟩

theorem declare_capture (underNegation : Bool) (name : Token) :
    Acts (Production.declareCapture settings underNegation name) scope
      ((scope.behindCapture settings.checkNames underNegation (some name.text)).map ((), ·)) := by
  rintro state rfl
  unfold Production.declareCapture
  simp only [Scope.behindCapture]
  split
  · rw [Ends.bind]
    change Ends ((Production.ofScope _ (state.scope.declare name.text) >>= _) state) _ _
    rw [Ends.bind]
    cases state.scope.declare name.text with
    | ok names => cases underNegation <;> exact ⟨by trivial, rfl⟩
    | error error => cases error <;> exact ⟨trivial, rfl⟩
  · exact ⟨rfl, rfl⟩

theorem declare_optional (underNegation : Bool) (name : Option Token) :
    Acts (Production.declareOptional settings underNegation name) scope
      ((scope.behindCapture settings.checkNames underNegation (name.map Token.text)).map
        (name.map Token.text, ·)) := by
  cases name with
  | none =>
      rintro state rfl
      exact ⟨rfl, rfl⟩
  | some name =>
      intro state here
      unfold Production.declareOptional
      rw [Ends.bind]
      refine (declare_capture settings underNegation name state here).mono ?_ ?_
      · rintro ⟨⟩ after ⟨stream, found⟩
        refine ⟨stream, ?_⟩
        simpa using found
      · rintro error _ ⟨meaning, missing⟩
        exact ⟨meaning, by simpa using missing⟩

end Acts

end TreeQuery.Grammar
