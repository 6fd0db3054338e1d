import TreeQuery.Proofs.Grammar.Act

/- Productions that nest nothing. Whatever stops them, it is not the limit on nesting. What
   they read they take off the front of the stream. -/
set_option autoImplicit false

namespace TreeQuery.Grammar

structure Onward (state after : State) : Prop where
  last_eq : after.stream.last = state.stream.last
  suffix : after.stream.upcoming <:+ state.stream.upcoming

theorem Onward.refl (state : State) : Onward state state := ⟨rfl, List.suffix_refl _⟩

theorem Onward.trans {state middle after : State} (first : Onward state middle)
    (second : Onward middle after) : Onward state after :=
  ⟨second.last_eq.trans first.last_eq, second.suffix.trans first.suffix⟩

def Flat {α : Type} (production : Production α) : Prop :=
  ∀ state : State, Ends (production state)
    (fun _ after => Onward state after)
    (fun error _ => ∀ limit position, error ≠ .nestingTooDeep limit position)

namespace Flat

open Production

variable {α β : Type} {kinds : List TokenKind} {kind : TokenKind}

theorem bind {production : Production α} {next : α → Production β} (first : Flat production)
    (others : ∀ value, Flat (next value)) : Flat (production >>= next) := by
  intro state
  rw [Ends.bind]
  apply (first state).mono
  · intro value middle onward
    apply (others value middle).mono
    · intro result after further
      exact onward.trans further
    · exact fun _ _ shallow => shallow
  · exact fun _ _ shallow => shallow

theorem act {production : Production α} {outcome : Scope → Option (α × Scope)}
    (acts : ∀ scope, Acts production scope (outcome scope)) : Flat production := by
  intro state
  apply (acts state.scope state rfl).mono
  · intro value after run
    obtain ⟨same, known⟩ := run
    exact ⟨congrArg TokenStream.last same, by simp [same]⟩
  · intro error after run limit position same
    rw [same] at run
    exact run.1

theorem pure (value : α) : Flat (pure value) := Onward.refl

theorem throw (error : PatternError)
    (shallow : ∀ limit position, error ≠ .nestingTooDeep limit position) :
    Flat (α := α) (throw error) := fun _ => shallow

theorem unexpected : Flat (α := α) Production.unexpected := by
  intro state limit position same
  cases same

theorem remaining : Flat Production.remaining := Onward.refl

theorem check_any : Flat (checkAny kinds) := fun _ => ⟨rfl, List.suffix_refl _⟩

theorem accept_any : Flat (acceptAny kinds) := by
  intro state
  rw [accept_any_ends]
  split
  · exact ⟨rfl, List.tail_suffix _⟩
  · exact ⟨rfl, List.suffix_refl _⟩

theorem accept : Flat (Production.accept kind) := accept_any

theorem accepts : Flat (Production.accepts kind) := by
  rw [accepts_eq]
  exact accept.bind fun _ => pure _

theorem consume : Flat (Production.consume kind) := by
  rw [consume_eq]
  apply accept.bind
  intro token
  cases token with
  | none => exact unexpected
  | some token => exact pure token

theorem many_up_to {more : Production Bool} {item : Production α} (more' : Flat more)
    (item' : Flat item) (bound : Nat) : Flat (manyUpTo more item bound) := by
  induction bound with
  | zero => exact more'.bind fun _ => pure []
  | succ bound ih =>
      apply more'.bind
      intro found
      cases found with
      | false => exact pure []
      | true => exact item'.bind fun first => ih.bind fun others => pure (first :: others)

theorem many {more : Production Bool} {item : Production α} (more' : Flat more)
    (item' : Flat item) : Flat (many more item) :=
  remaining.bind fun bound => many_up_to more' item' bound

theorem argument_mark (kind : TokenKind) (mark : Char) : Flat (argumentMark kind mark) := by
  apply accepts.bind
  intro found
  cases found <;> exact pure _

theorem chain_argument : Flat chainArgument := by
  apply accepts.bind
  intro enclosed
  cases enclosed with
  | true =>
      apply (argument_mark .bang '!').bind
      intro negation
      apply (argument_mark .atSign '@').bind
      intro category
      apply accept_any.bind
      intro label
      cases label with
      | none => exact unexpected
      | some label => exact consume.bind fun closer => pure _
  | false =>
      apply check_any.bind
      intro found
      cases found with
      | false => exact unexpected
      | true =>
          apply (argument_mark .bang '!').bind
          intro negation
          exact consume.bind fun regex => pure _

theorem capture_name : Flat captureName := by
  apply accepts.bind
  intro found
  cases found with
  | false => exact pure _
  | true => exact consume.bind fun name => pure _

variable {settings : Settings}

theorem group_capture (descriptor : Descriptor) : Flat (groupCapture settings descriptor) := by
  apply consume.bind
  intro number
  apply consume.bind
  intro equals
  apply consume.bind
  intro name
  cases groupNumber descriptor number.text with
  | error fault => exact throw _ (by simp)
  | ok group =>
      exact (act fun _ => Acts.declare_group settings name).bind fun declared => pure _

variable (underNegation : Bool) (relation : Relation)

theorem labelled (label : Token) :
    Flat (Production.labelled settings underNegation relation label) := by
  apply (act fun _ => Acts.descriptor settings.resolver.checkRegex label).bind
  intro descriptor
  apply (many accepts (group_capture descriptor)).bind
  intro groups
  apply capture_name.bind
  intro name
  exact (act fun _ => Acts.declare_optional settings underNegation name).bind fun capture => pure _

theorem linked : Flat (Production.linked settings underNegation relation) := by
  apply consume.bind
  intro target
  apply capture_name.bind
  intro name
  apply (act fun _ => Acts.reference settings target).bind
  intro known
  exact (act fun _ => Acts.declare_optional settings underNegation name).bind fun capture => pure _

theorem backreferenced : Flat (Production.backreferenced settings relation) := by
  apply consume.bind
  intro target
  exact (act fun _ => Acts.reference settings target).bind fun known => pure _

theorem bare : Flat (bareDescription settings underNegation relation) := by
  apply accept_any.bind
  intro label
  cases label with
  | some label => exact labelled underNegation relation label
  | none =>
      apply accepts.bind
      intro tilde
      cases tilde with
      | true => exact linked underNegation relation
      | false =>
          apply accepts.bind
          intro equals
          cases equals with
          | true => exact backreferenced relation
          | false => exact unexpected

end Flat

end TreeQuery.Grammar
