import Mathlib.Data.List.Basic
import TreeQuery.Proofs.Errors.Cited

/- Relations and labels: what their errors are about. A number and a name are read before
   they are checked, and an error of theirs goes back to the token itself. -/
set_option autoImplicit false

namespace TreeQuery.Grammar.Citing

open Production

variable {α : Type} {checker : Regex.Checker} {tokens : List Token}

theorem argument_mark {kind : TokenKind} (mark : Char) (apart : .semicolon ≠ kind) :
    Citing checker tokens (argumentMark kind mark) fun _ => True := by
  apply (accepts apart).bind
  intro found _
  cases found <;> exact pure trivial

theorem chain_argument : Citing checker tokens chainArgument fun _ => True := by
  apply (accepts (by decide)).bind
  intro enclosed _
  cases enclosed with
  | true =>
      apply (argument_mark '!' (by decide)).bind
      intro negation _
      apply (argument_mark '@' (by decide)).bind
      intro category _
      apply (accept_any (by decide)).bind
      intro label _
      cases label with
      | none => exact unexpected
      | some label => exact (consume (by decide)).bind fun _ _ => pure trivial
  | false =>
      apply check_any.bind
      intro found _
      cases found with
      | false => exact unexpected
      | true =>
          apply (argument_mark '!' (by decide)).bind
          intro negation _
          exact (consume (by decide)).bind fun _ _ => pure trivial

theorem indexed_symbol (symbol number : Text) :
    symbol = (indexed symbol number).1 ∨ symbol = (indexed symbol number).1 ++ ['-'] := by
  unfold indexed
  split
  · rename_i minus
    exact .inr (List.dropLast_append_getLast? '-' minus).symm
  · exact .inl rfl

def Spells (tokens : List Token) (written : Operation) : Prop :=
  ∃ token, Among tokens operatorKinds token ∧ token.position = written.position ∧
    (token.text = written.symbol ∨ token.text = written.symbol ++ ['-'])

theorem operation : Citing checker tokens Production.operation (Spells tokens) := by
  apply (accept (by decide)).bind
  intro operator among
  cases operator with
  | some operator =>
      obtain ⟨inside, ofKind⟩ := among operator rfl
      have among : Among tokens operatorKinds operator :=
        ⟨inside, List.mem_cons.2 (.inl (List.mem_singleton.1 ofKind))⟩
      apply (accept (by decide)).bind
      intro number _
      cases number with
      | none => exact pure ⟨operator, among, rfl, .inl rfl⟩
      | some number => exact pure ⟨operator, among, rfl, indexed_symbol operator.text number.text⟩
  | none =>
      apply (accept (by decide)).bind
      intro operator among
      cases operator with
      | none => exact unexpected
      | some operator =>
          obtain ⟨inside, ofKind⟩ := among operator rfl
          have among : Among tokens operatorKinds operator :=
            ⟨inside, List.mem_cons_of_mem _ ofKind⟩
          exact chain_argument.bind fun argument _ => pure ⟨operator, among, rfl, .inl rfl⟩

theorem capture_name : Citing checker tokens captureName fun found => ∀ token, found = some token →
    Among tokens [.identifier] token := by
  apply (accepts (by decide)).bind
  intro found _
  cases found with
  | false => exact pure fun _ none => by cases none
  | true =>
      apply (consume (by decide)).bind
      intro name among
      apply pure
      intro token same
      cases same
      exact among

theorem of_except {result : Except PatternError α}
    (cites : ∀ error, result = .error error → error.Cites checker tokens) :
    Citing checker tokens (Production.ofExcept result) fun _ => True := by
  cases result with
  | ok value => exact pure trivial
  | error error => exact throw (cites error rfl)

section Names

variable {name : Token} (among : Among tokens [.identifier] name)

include among

theorem of_scope {result : Except ScopeError α}
    (named : ∀ error, result = .error error → error = .duplicate name.text ∨
      error = .unknown name.text) :
    Citing checker tokens (ofScope name.position result) fun _ => True := by
  apply of_except
  intro error failed
  cases result with
  | ok value => cases failed
  | error cause =>
      cases failed
      have ofKind := List.mem_singleton.1 among.2
      obtain rfl | rfl := named cause rfl
      · exact ⟨name, among.1, rfl, ofKind, rfl⟩
      · exact ⟨name, among.1, rfl, ofKind, rfl⟩

variable (settings : Settings)

theorem declare_group : Citing checker tokens (declareGroup settings name) fun _ => True := by
  unfold declareGroup
  split
  · apply get_scope.bind
    intro scope _
    have named : ∀ error, scope.declareGroup name.text = .error error →
        error = .duplicate name.text ∨ error = .unknown name.text := by
      intro error failed
      unfold Scope.declareGroup at failed
      split at failed
      · cases failed
        exact .inl rfl
      · cases failed
    exact (of_scope among named).bind fun known _ => set_scope known
  · exact pure trivial

theorem reference : Citing checker tokens (Production.reference settings name) fun _ => True := by
  unfold Production.reference
  split
  · apply get_scope.bind
    intro scope _
    apply of_scope among
    intro error failed
    unfold Scope.reference at failed
    split at failed
    · cases failed
    · cases failed
      exact .inr rfl
  · exact pure trivial

theorem declare_capture (underNegation : Bool) :
    Citing checker tokens (declareCapture settings underNegation name) fun _ => True := by
  unfold declareCapture
  split
  · apply get_scope.bind
    intro scope _
    have named : ∀ error, scope.declare name.text = .error error →
        error = .duplicate name.text ∨ error = .unknown name.text := by
      intro error failed
      unfold Scope.declare at failed
      split at failed
      · cases failed
        exact .inl rfl
      · cases failed
    apply (of_scope among named).bind
    intro known _
    apply (set_scope known).bind
    intro _ _
    cases underNegation with
    | false => exact pure trivial
    | true => exact throw ⟨name, among.1, rfl, List.mem_singleton.1 among.2, rfl⟩
  · exact pure trivial

end Names

variable (settings : Settings)

theorem declare_optional (underNegation : Bool) {name : Option Token}
    (among : ∀ token, name = some token → Among tokens [.identifier] token) :
    Citing checker tokens (declareOptional settings underNegation name) fun _ => True := by
  cases name with
  | none => exact pure trivial
  | some name =>
      exact (declare_capture (among name rfl) settings underNegation).bind fun _ _ => pure trivial

theorem group_capture (descriptor : Descriptor) :
    Citing checker tokens (groupCapture settings descriptor) fun _ => True := by
  apply (consume (by decide)).bind
  intro number among
  apply (consume (by decide)).bind
  intro equals _
  apply (consume (by decide)).bind
  intro name named
  cases groupNumber descriptor number.text with
  | error fault => exact throw ⟨number, among.1, rfl, List.mem_singleton.1 among.2, rfl⟩
  | ok group => exact (declare_group named settings).bind fun _ _ => pure trivial

theorem descriptor {label : Token} (inside : label ∈ tokens) :
    Citing checker tokens (Production.ofExcept (descriptorOf checker label)) fun _ => True := by
  apply of_except
  intro error failed
  have refused := failed
  unfold descriptorOf at failed
  split at failed
  · rename_i regex
    split at failed
    · cases failed
    · cases failed
      exact ⟨label, inside, rfl, regex, refused⟩
  · cases failed
  · cases failed

variable (underNegation : Bool) (relation : Relation)

theorem labelled {label : Token} (inside : label ∈ tokens) :
    Citing settings.resolver.checkRegex tokens
      (Production.labelled settings underNegation relation label) fun _ => True := by
  apply (descriptor inside).bind
  intro descriptor _
  apply (many (accepts (by decide)) (group_capture settings descriptor)).bind
  intro groups _
  apply capture_name.bind
  intro name among
  exact (declare_optional settings underNegation among).bind fun _ _ => pure trivial

theorem linked :
    Citing checker tokens (Production.linked settings underNegation relation) fun _ => True := by
  apply (consume (by decide)).bind
  intro target among
  apply capture_name.bind
  intro name named
  apply (reference among settings).bind
  intro _ _
  exact (declare_optional settings underNegation named).bind fun _ _ => pure trivial

theorem backreferenced :
    Citing checker tokens (Production.backreferenced settings relation) fun _ => True := by
  apply (consume (by decide)).bind
  intro target among
  exact (reference among settings).bind fun _ _ => pure trivial

theorem bare :
    Citing settings.resolver.checkRegex tokens (bareDescription settings underNegation relation)
      fun _ => True := by
  apply (accept_any (by decide)).bind
  intro label among
  cases label with
  | some label => exact labelled settings underNegation relation (among label rfl).1
  | none =>
      apply (accepts (by decide)).bind
      intro tilde _
      cases tilde with
      | true => exact linked settings underNegation relation
      | false =>
          apply (accepts (by decide)).bind
          intro equals _
          cases equals with
          | true => exact backreferenced settings relation
          | false => exact unexpected

theorem description :
    Citing settings.resolver.checkRegex tokens
      (Production.description settings underNegation relation) fun _ => True := by
  apply (accepts (by decide)).bind
  intro bang _
  apply (accepts (by decide)).bind
  intro atSign _
  exact (bare settings underNegation relation).bind fun _ _ => pure trivial

end TreeQuery.Grammar.Citing
