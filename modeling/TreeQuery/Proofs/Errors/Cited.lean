import TreeQuery.Proofs.Grammar.Run

/- The token that an error complains about. Every error of the grammar has the place of a
   token, and tells of that token what the reader stopped at: its name, its number, its
   symbol. As long as the terminator is still to come, that token is never the end. -/
set_option autoImplicit false

namespace TreeQuery

def operatorKinds : List TokenKind := [.operator, .chainOperator]

def openerKinds : List TokenKind := [.leftParen, .leftBracket, .operator, .chainOperator]

-- What an error tells of a token. The minus sign at the end of a symbol can belong to the
-- number behind it, and a regex is one that the checker does not take.
def PatternError.About (checker : Regex.Checker) (token : Token) : PatternError → Prop
  | unexpectedToken unexpected => unexpected.found = token
  | duplicateCapture name _ => token.kind = .identifier ∧ token.text = name
  | undeclaredReference name _ => token.kind = .identifier ∧ token.text = name
  | captureUnderNegation name _ => token.kind = .identifier ∧ token.text = name
  | lexical _ => False
  | invalidRegex pattern cause position => token.kind = .regex ∧
      Grammar.descriptorOf checker token = .error (.invalidRegex pattern cause position)
  | invalidGroupCapture index _ _ => token.kind = .number ∧ token.text = index
  | nestingTooDeep _ _ => token.kind ∈ openerKinds
  | invalidRelation cause _ => token.kind ∈ operatorKinds ∧
      (token.text = cause.symbol ∨ token.text = cause.symbol ++ ['-'])

def PatternError.Cites (error : PatternError) (checker : Regex.Checker) (tokens : List Token) :
    Prop :=
  ∃ token ∈ tokens, token.position = error.position ∧ error.About checker token

namespace RelationError

theorem argument_of_text_symbol {checker : Regex.Checker} {symbol text : Text}
    {error : RelationError} (failed : ChainArgument.ofText checker symbol text = .error error) :
    error.symbol = symbol := by
  unfold ChainArgument.ofText at failed
  simp only at failed
  split at failed
  · cases failed
  · split at failed
    · split at failed
      · cases failed
      · cases failed
        rfl
    · split at failed
      · cases failed
        rfl
      · cases failed

theorem resolve_symbol {resolver : Resolver} {symbol : Text} {argument : Option Text}
    {error : RelationError} (failed : resolver.resolve symbol argument = .error error) :
    error.symbol = symbol := by
  cases argument with
  | none =>
      change resolver.resolveBare symbol = _ at failed
      unfold Resolver.resolveBare at failed
      split at failed
      · cases failed
        rfl
      · split at failed
        · cases failed
          rfl
        · cases failed
  | some argument =>
      change resolver.resolveWith symbol argument = _ at failed
      unfold Resolver.resolveWith at failed
      split at failed
      · split at failed
        · rename_i refused
          cases failed
          exact argument_of_text_symbol refused
        · cases failed
      · split at failed
        · split at failed
          · cases failed
          · cases failed
            rfl
        · split at failed
          · cases failed
          · cases failed
            rfl
        · cases failed
          rfl
        · cases failed
          rfl

end RelationError

namespace Grammar

def Among (tokens : List Token) (kinds : List TokenKind) (token : Token) : Prop :=
  token ∈ tokens ∧ token.kind ∈ kinds

-- The stream is at the tokens or further on, and a terminator is still to come.
structure Ahead (tokens : List Token) (state : State) : Prop where
  suffix : state.stream.upcoming <:+ tokens
  terminated : ∃ token ∈ state.stream.upcoming, token.kind = .semicolon
  ended : state.stream.last.kind = .endOfInput

namespace Ahead

variable {tokens : List Token} {state : State} {kinds : List TokenKind}

theorem current_mem (ahead : Ahead tokens state) : state.stream.current ∈ tokens := by
  obtain ⟨token, inside, _⟩ := ahead.terminated
  obtain ⟨next, rest, upcoming⟩ := List.exists_cons_of_ne_nil (List.ne_nil_of_mem inside)
  apply ahead.suffix.subset
  simp [TokenStream.current, upcoming]

theorem ask (ahead : Ahead tokens state) :
    Ahead tokens { state with stream := state.stream.ask kinds } :=
  ⟨ahead.suffix, ahead.terminated, ahead.ended⟩

theorem rescope (ahead : Ahead tokens state) (scope : Scope) :
    Ahead tokens { state with scope } := ⟨ahead.suffix, ahead.terminated, ahead.ended⟩

theorem advance (ahead : Ahead tokens state) (apart : state.stream.current.kind ≠ .semicolon) :
    Ahead tokens { state with stream := state.stream.advance } := by
  obtain ⟨token, inside, semicolon⟩ := ahead.terminated
  refine ⟨(List.tail_suffix _).trans ahead.suffix, ⟨token, ?_, semicolon⟩, ahead.ended⟩
  change token ∈ state.stream.upcoming.tail
  unfold TokenStream.current at apart
  cases upcoming : state.stream.upcoming with
  | nil =>
      rw [upcoming] at inside
      cases inside
  | cons next rest =>
      rw [upcoming] at inside apart
      obtain same | further := List.mem_cons.1 inside
      · exact absurd (same ▸ semicolon) apart
      · exact further

end Ahead

def Citing {α : Type} (checker : Regex.Checker) (tokens : List Token) (production : Production α)
    (good : α → Prop) : Prop :=
  ∀ state, Ahead tokens state → Ends (production state)
    (fun value after => Ahead tokens after ∧ good value) (fun error _ => error.Cites checker tokens)

namespace Citing

open Production

variable {α β : Type} {checker : Regex.Checker} {tokens : List Token} {kinds : List TokenKind}
  {kind : TokenKind} {good : α → Prop} {goodToo : β → Prop}

theorem bind {production : Production α} {next : α → Production β}
    (first : Citing checker tokens production good)
    (others : ∀ value, good value → Citing checker tokens (next value) goodToo) :
    Citing checker tokens (production >>= next) goodToo := by
  intro state ahead
  rw [Ends.bind]
  apply (first state ahead).mono
  · intro value middle run
    exact others value run.2 middle run.1
  · exact fun _ _ cites => cites

theorem pure {value : α} (isGood : good value) : Citing checker tokens (pure value) good :=
  fun _ ahead => ⟨ahead, isGood⟩

theorem throw {error : PatternError} (cites : error.Cites checker tokens) :
    Citing checker tokens (throw error) good := fun _ _ => cites

theorem unexpected : Citing checker tokens Production.unexpected good :=
  fun _ ahead => ⟨_, ahead.current_mem, rfl, rfl⟩

theorem remaining : Citing checker tokens Production.remaining fun _ => True :=
  fun _ ahead => ⟨ahead, trivial⟩

theorem get_scope : Citing checker tokens getScope fun _ => True := fun _ ahead => ⟨ahead, trivial⟩

theorem set_scope (scope : Scope) : Citing checker tokens (setScope scope) fun _ => True :=
  fun _ ahead => ⟨ahead.rescope scope, trivial⟩

theorem check_any : Citing checker tokens (checkAny kinds) fun _ => True :=
  fun _ ahead => ⟨ahead.ask, trivial⟩

theorem accept_any (apart : .semicolon ∉ kinds) :
    Citing checker tokens (acceptAny kinds) fun found => ∀ token, found = some token →
      Among tokens kinds token := by
  intro state ahead
  rw [accept_any_ends]
  by_cases wanted : state.stream.isAny kinds = true
  · rw [if_pos wanted]
    have ofKind : state.stream.current.kind ∈ kinds := List.contains_iff_mem.1 wanted
    refine ⟨ahead.advance fun semicolon => apart (semicolon ▸ ofKind), ?_⟩
    intro token same
    cases same
    exact ⟨ahead.current_mem, ofKind⟩
  · rw [if_neg wanted]
    exact ⟨ahead.ask, fun _ none => by cases none⟩

theorem accept (apart : .semicolon ≠ kind) :
    Citing checker tokens (Production.accept kind) fun found => ∀ token, found = some token →
      Among tokens [kind] token :=
  accept_any fun same => apart (List.mem_singleton.1 same)

theorem accepts (apart : .semicolon ≠ kind) :
    Citing checker tokens (Production.accepts kind) fun _ => True := by
  rw [accepts_eq]
  exact (accept apart).bind fun _ _ => pure trivial

theorem consume (apart : .semicolon ≠ kind) :
    Citing checker tokens (Production.consume kind) (Among tokens [kind]) := by
  rw [consume_eq]
  apply (accept apart).bind
  intro found among
  cases found with
  | none => exact unexpected
  | some token => exact pure (among token rfl)

section Many

variable {more : Production Bool} {item : Production α}
  (more' : Citing checker tokens more fun _ => True)
  (item' : Citing checker tokens item fun _ => True)

include more' item'

theorem many_up_to (bound : Nat) :
    Citing checker tokens (manyUpTo more item bound) fun _ => True := by
  induction bound with
  | zero => exact more'.bind fun _ _ => pure trivial
  | succ bound ih =>
      apply more'.bind
      intro found _
      cases found with
      | false => exact pure trivial
      | true => exact item'.bind fun _ _ => ih.bind fun _ _ => pure trivial

theorem many : Citing checker tokens (many more item) fun _ => True :=
  remaining.bind fun bound _ => many_up_to more' item' bound

end Many

end Citing

end Grammar

end TreeQuery
