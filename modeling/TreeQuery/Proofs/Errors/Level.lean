import TreeQuery.Proofs.Errors.Word
import TreeQuery.Proofs.Grammar.Derivation

/- The rules that nest: a level cites the tokens if the one below it does, and what is too
   deep is a parenthesis, a bracket or a relation. The terminator is taken last of all. -/
set_option autoImplicit false

namespace TreeQuery.Grammar

structure Level.Cites (checker : Regex.Checker) (tokens : List Token) (level : Level) : Prop where
  node : ∀ underNegation relation,
    Citing checker tokens (level.node underNegation relation) fun _ => True
  subNode : ∀ underNegation relation,
    Citing checker tokens (level.subNode underNegation relation) fun _ => True
  disjunction : ∀ underNegation,
    Citing checker tokens (level.disjunction underNegation) fun _ => True

theorem Among.opens {checker : Regex.Checker} {tokens : List Token} {kind : TokenKind}
    {opener : Token} (among : Among tokens [kind] opener) (leads : kind ∈ openerKinds) :
    PatternError.Cites (.nestingTooDeep maxNesting opener.position) checker tokens := by
  have ofKind : opener.kind ∈ openerKinds := by
    rw [List.mem_singleton.1 among.2]
    exact leads
  exact ⟨opener, among.1, rfl, ofKind⟩

namespace Citing

open Production

variable {checker : Regex.Checker} {tokens : List Token} {deeper : Option Level}

theorem enter (below : ∀ level, deeper = some level → level.Cites checker tokens)
    {opener : Position}
    (opens : PatternError.Cites (.nestingTooDeep maxNesting opener) checker tokens) :
    Citing checker tokens (Production.enter deeper opener) (Level.Cites checker tokens) := by
  cases deeper with
  | none => exact throw opens
  | some level => exact pure (below level rfl)

variable (settings : Settings)
  (below : ∀ level, deeper = some level → level.Cites settings.resolver.checkRegex tokens)
  (underNegation : Bool)

include below

theorem node (relation : Relation) :
    Citing settings.resolver.checkRegex tokens
      (Production.node settings deeper underNegation relation) fun _ => True := by
  apply (accept (by decide)).bind
  intro opener among
  cases opener with
  | some opener =>
      apply (enter below ((among opener rfl).opens (by decide))).bind
      intro level cites
      apply (cites.subNode underNegation relation).bind
      intro inner _
      exact (consume (by decide)).bind fun _ _ => pure trivial
  | none => exact (description settings underNegation relation).bind fun _ _ => pure trivial

theorem related :
    Citing settings.resolver.checkRegex tokens
      (Production.related settings deeper underNegation) fun _ => True := by
  apply operation.bind
  intro written spells
  obtain ⟨operator, ⟨inside, ofKind⟩, place, spelling⟩ := spells
  cases resolved : settings.resolver.resolve written.symbol written.argument with
  | error cause =>
      apply throw
      rw [← RelationError.resolve_symbol resolved] at spelling
      exact ⟨operator, inside, place, ofKind, spelling⟩
  | ok relation =>
      have opens : operator.kind ∈ openerKinds := List.mem_of_mem_drop (i := 2) ofKind
      apply (enter below ⟨operator, inside, place, opens⟩).bind
      intro level cites
      exact (cites.node underNegation relation).bind fun _ _ => pure trivial

theorem plain :
    Citing settings.resolver.checkRegex tokens
      (plainConstraint settings deeper underNegation) fun _ => True := by
  apply (accept (by decide)).bind
  intro opener among
  cases opener with
  | some opener =>
      apply (enter below ((among opener rfl).opens (by decide))).bind
      intro level cites
      apply (cites.disjunction underNegation).bind
      intro group _
      exact (consume (by decide)).bind fun _ _ => pure trivial
  | none => exact related settings below underNegation

theorem constraint :
    Citing settings.resolver.checkRegex tokens
      (Production.constraint settings deeper underNegation) fun _ => True := by
  apply (accepts (by decide)).bind
  intro bang _
  cases bang with
  | true => exact (plain settings below true).bind fun _ _ => pure trivial
  | false =>
      apply (accepts (by decide)).bind
      intro question _
      cases question with
      | true => exact (plain settings below underNegation).bind fun _ _ => pure trivial
      | false => exact plain settings below underNegation

theorem conjunction :
    Citing settings.resolver.checkRegex tokens
      (Production.conjunction settings deeper underNegation) fun _ => True := by
  apply (constraint settings below underNegation).bind
  intro first _
  apply (many check_any _).bind
  · exact fun _ _ => pure trivial
  · exact (accept (by decide)).bind fun _ _ => constraint settings below underNegation

theorem branch :
    Citing settings.resolver.checkRegex tokens
      (Production.branch settings deeper underNegation) fun _ => True := by
  apply (conjunction settings below underNegation).bind
  intro node _
  exact get_scope.bind fun _ _ => pure trivial

theorem disjunction :
    Citing settings.resolver.checkRegex tokens
      (Production.disjunction settings deeper underNegation) fun _ => True := by
  apply get_scope.bind
  intro before _
  apply (branch settings below underNegation).bind
  intro first _
  apply (many (accepts (by decide)) _).bind
  · intro others _
    apply get_scope.bind
    intro scope _
    exact (set_scope _).bind fun _ _ => pure trivial
  · exact (set_scope before).bind fun _ _ => branch settings below underNegation

theorem subNode (relation : Relation) :
    Citing settings.resolver.checkRegex tokens
      (Production.subNode settings deeper underNegation relation) fun _ => True := by
  apply (node settings below underNegation relation).bind
  intro inner _
  apply check_any.bind
  intro more _
  cases more with
  | false => exact pure trivial
  | true => exact (disjunction settings below underNegation).bind fun _ _ => pure trivial

end Citing

theorem level_cites (settings : Settings) (tokens : List Token) (depth : Nat) :
    (level settings depth).Cites settings.resolver.checkRegex tokens := by
  induction depth using level_induction with
  | step depth lower =>
      have below : ∀ deeper, levelBelow settings depth = some deeper →
          deeper.Cites settings.resolver.checkRegex tokens := by
        intro deeper same
        cases depth with
        | zero => cases same
        | succ depth =>
            cases same
            exact lower depth rfl
      rw [level_eq]
      exact ⟨Citing.node settings below, Citing.subNode settings below,
        Citing.disjunction settings below⟩

theorem whole_pattern_cites (settings : Settings) {tokens : List Token} {state : State}
    (ahead : Ahead tokens state) :
    Ends (wholePattern settings state) (fun _ _ => True)
      (fun error _ => error.Cites settings.resolver.checkRegex tokens) := by
  unfold wholePattern
  rw [Ends.bind]
  apply ((level_cites settings tokens maxNesting).subNode false Relation.root state ahead).mono
  · intro top after run
    rw [Ends.bind, Production.consume_ends]
    split
    · rw [Ends.bind, Production.consume_ends]
      split
      · trivial
      · rename_i unended
        -- What is not the end comes in front of it.
        refine ⟨_, ?_, rfl, rfl⟩
        change after.stream.upcoming.tail.headD after.stream.last ∈ tokens
        cases upcoming : after.stream.upcoming.tail with
        | nil =>
            have atEnd : after.stream.advance.isAny [.endOfInput] = true := by
              simp [TokenStream.isAny, TokenStream.current, TokenStream.advance, upcoming,
                run.1.ended]
            exact absurd atEnd unended
        | cons token rest =>
            apply run.1.suffix.subset
            apply List.mem_of_mem_tail
            rw [upcoming]
            exact List.mem_cons_self
    · exact ⟨_, run.1.current_mem, rfl, rfl⟩
  · exact fun _ _ cites => cites

end Grammar

theorem parse_tokens_cites {resolver : Resolver} {tokens : List Token} {error : PatternError}
    (terminated : ∃ token ∈ (TokenStream.ofTokens tokens).upcoming, token.kind = .semicolon)
    (refused : parseTokens resolver tokens = .error error) :
    error.Cites resolver.checkRegex (TokenStream.ofTokens tokens).upcoming := by
  obtain ⟨state, failed⟩ := Grammar.parse_tokens_with_eq_error.1 refused
  have ahead : Grammar.Ahead (TokenStream.ofTokens tokens).upcoming
      ⟨TokenStream.ofTokens tokens, Scope.empty⟩ :=
    ⟨List.suffix_refl _, terminated, TokenStream.of_tokens_last_kind tokens⟩
  have cites := Grammar.whole_pattern_cites ⟨resolver, true⟩ ahead
  change runTokens ⟨resolver, true⟩ tokens = _ at failed
  change Grammar.Ends (runTokens ⟨resolver, true⟩ tokens) _ _ at cites
  rw [failed] at cites
  exact cites

end TreeQuery
