import TreeQuery.Proofs.Depth.Levels
import TreeQuery.Proofs.Grammar.Derivation

/- The limit on nesting is exact: whole runs, over any list of tokens. -/
set_option autoImplicit false

namespace TreeQuery.Grammar

def maxCalls : Nat := 6 * (maxNesting + 2)

section Whole

variable (settings : Settings) {limit : Nat}

theorem root_seen (enough : 4 * maxNesting + 8 ≤ limit) :
    Seen (Calls.upTo settings limit).root
      (do
        let top ← (level settings maxNesting).subNode false Relation.root
        let _ ← Production.consume .semicolon
        return top)
      maxNesting .root := by
  obtain ⟨inner, rfl⟩ := Nat.exists_eq_add_one_of_ne_zero (Nat.ne_zero_of_lt enough)
  apply Seen.call
  intro depth calls here
  have top := (level_seen settings maxNesting).subNode inner (by omega) false Relation.root
  apply (here.makes (by decide) top).bind
  intro top
  exact (here.lift rfl Flat.consume).bind fun semicolon => Runs.pure top

theorem pattern_seen (enough : 4 * maxNesting + 9 ≤ limit) :
    Seen (Calls.upTo settings limit).pattern (wholePattern settings) maxNesting .pattern := by
  obtain ⟨inner, rfl⟩ := Nat.exists_eq_add_one_of_ne_zero (Nat.ne_zero_of_lt enough)
  apply Seen.call
  intro depth calls here
  have root := here.makes (by decide) (root_seen settings (by omega : 4 * maxNesting + 8 ≤ inner))
  have final : Flat (Production.consume .endOfInput) := Flat.consume
  have whole := root.bind fun top => (here.lift rfl final).bind fun _ => Runs.pure top
  simp only [bind_assoc, pure_bind] at whole
  exact whole

end Whole

/-- What the parser takes for the depth is the number of constructs that are open, at the
start and at the end of every call. A list that is accepted closes what it opens and never
has more open than allowed. A list that nests too deep is refused at a construct with as
much around it as allowed. -/
theorem run_counted_exact (settings : Settings) (tokens : List Token) :
    match runCounted settings maxCalls tokens with
    | .ok top after =>
        runTokens settings tokens = .ok top after.state ∧
          after.tokens = (TokenStream.ofTokens tokens).upcoming ∧
          Always Event.Exact after.events ∧ Always Event.Within after.events ∧
          after.depth = 0 ∧ opened after.events = []
    | .error (.pattern error) after =>
        runTokens settings tokens = .error error after.state ∧ Always Event.Exact after.events ∧
          ∀ limit position, error = .nestingTooDeep limit position →
            after.tokens = (TokenStream.ofTokens tokens).upcoming ∧ limit = maxNesting ∧
              ∃ opener around, opened after.events = opener :: around ∧
                opener.position = position ∧ around.length = maxNesting
    | .error .underflow _ => False
    | .error .overflow _ => False := by
  let start : Counted := ⟨⟨TokenStream.ofTokens tokens, Scope.empty⟩, 0, []⟩
  have here : start.At (TokenStream.ofTokens tokens).upcoming 0 [] :=
    ⟨rfl, rfl, rfl, always_nil, fun _ => always_nil, TokenStream.of_tokens_last_kind tokens⟩
  have runs : Runs (Calls.upTo settings maxCalls).pattern (wholePattern settings) 0 [] 0 [] :=
    pattern_seen settings (by decide) 0 [] rfl rfl
  have ends := runs _ start here
  change Ends (runTokens settings tokens) _ _ at ends
  cases run : runTokens settings tokens with
  | ok top state =>
      rw [run] at ends
      obtain ⟨after, ran, same, there⟩ := ends
      change runCounted settings maxCalls tokens = .ok top after at ran
      rw [ran]
      subst same
      exact ⟨rfl, there.tokens_eq, there.exact, there.within (Nat.zero_le _), there.depth_eq,
        there.opened_eq⟩
  | error error state =>
      rw [run] at ends
      obtain ⟨after, ran, same, failed⟩ := ends
      change runCounted settings maxCalls tokens = .error (.pattern error) after at ran
      rw [ran]
      subst same
      exact ⟨rfl, failed.exact, failed.tooDeep⟩

-- The calls of a run with their depths: the node of the relation is one down, and what its
-- parenthesis encloses is another one down.
example :
    (tokenize "A<(B);".toList).toOption.map (fun tokens =>
      match runCounted ⟨.standard, true⟩ maxCalls tokens with
      | .error _ _ => []
      | .ok _ after => after.events.reverse.filterMap fun event =>
          match event with
          | .starts callee depth => some (callee, depth)
          | _ => none) =
      some [(.pattern, 0), (.root, 0), (.subNode, 0), (.description, 0), (.bareDescription, 0),
        (.disjunction, 0), (.conjunction, 0), (.constraint, 0), (.plainConstraint, 0),
        (.related, 0), (.node, 1), (.subNode, 2), (.description, 2), (.bareDescription, 2)] := by
  decide +kernel

end TreeQuery.Grammar
