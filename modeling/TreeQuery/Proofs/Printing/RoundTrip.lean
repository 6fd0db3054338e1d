import TreeQuery.Proofs.Printing.Tree
import TreeQuery.Proofs.Grammar.Derivation
import TreeQuery.Proofs.Pattern.Same

/- Patterns are printed in a way that reads back as the same pattern. -/
set_option autoImplicit false

namespace TreeQuery

open Grammar

theorem terminated_render (pattern : Pattern) :
    Pattern.terminated pattern.render = pattern.render := by
  have kept : Text.trimEnd pattern.render = pattern.render := by
    unfold Pattern.render Text.trimEnd Text.dropEndWhile
    rw [List.reverse_append]
    simp [show isBlank ';' = false from by decide]
  unfold Pattern.terminated
  rw [kept]
  simp [Pattern.render]

def SpeltPattern (resolver : Resolver) (top : Described) (depth : Nat) (tokens : List Token) : Prop :=
  ∃ phrase : PatternPhrase, phrase.tokens = tokens ∧ phrase.denote resolver = some top ∧
    phrase.top.nesting = depth

variable {resolver : Resolver} {top : Described} {depth : Nat}

-- The top of a pattern shows no relation, and no modifier that would need one.
theorem Described.Readable.spells_top (readable : top.Readable resolver Relation.root)
    (plain : top.description.negated = false ∧ top.description.optional = false)
    (exclusive : top.toNode.Exclusive) :
    Spells top.toNode.render Boundary
      (SpeltSubNode resolver Relation.root top (top.toNode.printedNesting false)) := by
  obtain ⟨⟨relation, negated, optional, _⟩, child⟩ := top
  obtain ⟨rfl, label, readableBelow⟩ := readable
  obtain ⟨rfl, rfl⟩ := plain
  have exclusiveBelow := (Node.everywhere_described.1 exclusive).2
  cases child with
  | none =>
      change Spells (_ ++ []) _ _
      rw [List.append_nil]
      refine (Spells.labelled Relation.root label).mono ?_
      rintro _ ⟨phrase, rfl, denoted, flat⟩
      exact ⟨.alone phrase, by rw [SubNodePhrase.tokens], by rw [SubNodePhrase.denote, denoted],
        by rw [SubNodePhrase.nesting, flat]; rfl⟩
  | some node =>
      exact Spells.headed label
        (Node.child_renders (some node) readableBelow exclusiveBelow node rfl)

theorem Described.Readable.spells_pattern (readable : top.Readable resolver Relation.root)
    (plain : top.description.negated = false ∧ top.description.optional = false)
    (exclusive : top.toNode.Exclusive) :
    Spells (top.toNode.render ++ [';']) (fun _ => True)
      (SpeltPattern resolver top (top.toNode.printedNesting false)) := by
  refine (readable.spells_top plain exclusive).append
    (fun rest _ => boundary_cons rest rfl (by decide)) ?_
  rintro _ ⟨phrase, rfl, denoted, deep⟩
  refine Spells.mark (by decide : (.semicolon, ';') ∈ marks) (by decide) fun terminator =>
    Spells.nil ?_
  exact ⟨⟨phrase, terminator⟩, rfl, denoted, deep⟩

namespace Pattern

variable {text : Text} {pattern : Pattern}

def ReadAs (text : Text) (phrase : PatternPhrase) : Prop :=
  ∃ final, tokenize (terminated text) = .ok (phrase.tokens ++ [final])

theorem compile_reads (compiled : compile resolver text = .ok pattern) :
    (∃ phrase, ReadAs text phrase) ∧ ∀ phrase, ReadAs text phrase →
      phrase.top.nesting ≤ maxNesting ∧
        ∃ top, phrase.denote resolver = some top ∧ pattern.root = top.toNode := by
  obtain ⟨parsed, accepted, rfl⟩ := compile_eq_parsed.1 compiled
  constructor
  · obtain ⟨phrase, _, final, tokenized, -⟩ := parse_text_outcome accepted
    exact ⟨phrase, final, tokenized⟩
  · rintro phrase ⟨final, again⟩
    obtain ⟨tokens, lexed, parses⟩ := parse_text_eq_ok.1 accepted
    rw [again] at lexed
    cases lexed
    obtain ⟨body, last, same, ended, -⟩ := tokenize_lexed again
    cases (List.append_inj' same rfl).2
    have upcoming := TokenStream.of_tokens_upcoming ended phrase.unended
    obtain ⟨fits, names, found⟩ := parse_tokens_accepts upcoming parses
    exact ⟨fits, parsed.top, (outcome_of_eq_some.1 found).1, rfl⟩

theorem compiled_outcome (compiled : compile resolver text = .ok pattern) :
    ∃ (phrase : PatternPhrase) (top : Described) (names : Scope),
      (∀ token ∈ phrase.tokens, token.Lexed) ∧
        phrase.outcome ⟨resolver, true⟩ = some (top, names) ∧
          pattern = ⟨top.toNode, names.names, text, resolver⟩ := by
  obtain ⟨parsed, accepted, rfl⟩ := compile_eq_parsed.1 compiled
  obtain ⟨phrase, names, final, -, -, lexed, found, declared⟩ := parse_text_outcome accepted
  exact ⟨phrase, parsed.top, names, lexed, found, by rw [declared, Parsed.root]⟩

theorem compiled_readable (compiled : compile resolver text = .ok pattern) :
    ∃ (top : Described) (names : Scope),
      pattern = ⟨top.toNode, names.names, text, resolver⟩ ∧ top.Readable resolver Relation.root ∧
        (top.description.negated = false ∧ top.description.optional = false) ∧
          top.toNode.scopeBehind true false Scope.empty = some names := by
  obtain ⟨phrase, top, names, lexed, found, rfl⟩ := compiled_outcome compiled
  obtain ⟨denoted, behind⟩ := outcome_of_eq_some.1 found
  have lexedTop : ∀ token ∈ phrase.top.tokens, token.Lexed :=
    fun token inside => lexed token (List.mem_append_left _ inside)
  exact ⟨top, names, rfl, phrase.top.readable lexedTop denoted, (phrase.top.denote_plain denoted).2,
    behind⟩

theorem compile_of_spells_at {names : Scope} (ending : terminated text = text)
    (spells : Spells text (fun _ => True) (SpeltPattern resolver top depth))
    (behind : top.toNode.scopeBehind true false Scope.empty = some names) :
    depth ≤ maxNesting ∧ compile resolver text = .ok ⟨top.toNode, names.names, text, resolver⟩ ∨
      maxNesting < depth ∧
        ∃ limit position, compile resolver text = .error (.nestingTooDeep limit position) := by
  obtain ⟨body, final, lexed, ended, before, phrase, rfl, denoted, rfl⟩ := spells.tokenized trivial
  have upcoming := TokenStream.of_tokens_upcoming ended before
  have found : phrase.outcome ⟨resolver, true⟩ = some (top, names) :=
    outcome_of_eq_some.2 ⟨denoted, behind⟩
  unfold compile parseText parseTokens
  rw [ending, lexed]
  obtain accepted | ⟨tooDeep, limit, position, refused⟩ := parse_tokens_of_outcome upcoming found
  · have fits := (parse_tokens_accepts upcoming accepted).1
    exact .inl ⟨fits, by simp [accepted, Parsed.root]⟩
  · exact .inr ⟨Nat.lt_of_not_le tooDeep, limit, position, by simp [refused]⟩

theorem compile_of_spells {names : Scope} (ending : terminated text = text)
    (spells : Spells text (fun _ => True) (SpeltPattern resolver top depth))
    (behind : top.toNode.scopeBehind true false Scope.empty = some names) :
    compile resolver text = .ok ⟨top.toNode, names.names, text, resolver⟩ ∨
      ∃ limit position, compile resolver text = .error (.nestingTooDeep limit position) := by
  obtain ⟨-, accepted⟩ | ⟨-, refused⟩ := compile_of_spells_at ending spells behind
  · exact .inl accepted
  · exact .inr refused

/-- The printed text of a pattern is compiled to the same pattern, if no node is both negated
and optional. It may stand deeper in brackets than the text that the pattern was compiled from:
then it can be refused for that, and for nothing else. -/
theorem compile_render (compiled : compile resolver text = .ok pattern)
    (exclusive : pattern.root.Exclusive) :
    (∃ again, compile resolver pattern.render = .ok again ∧ again.root = pattern.root ∧
      (again.root == pattern.root) = true ∧ again.names = pattern.names ∧
        again.render = pattern.render) ∨
      ∃ limit position,
        compile resolver pattern.render = .error (.nestingTooDeep limit position) := by
  obtain ⟨phrase, top, names, lexed, found, rfl⟩ := compiled_outcome compiled
  obtain ⟨denoted, behind⟩ := outcome_of_eq_some.1 found
  have lexedTop : ∀ token ∈ phrase.top.tokens, token.Lexed :=
    fun token inside => lexed token (List.mem_append_left _ inside)
  have readable := phrase.top.readable lexedTop denoted
  have plain := (phrase.top.denote_plain denoted).2
  have spells := readable.spells_pattern plain exclusive
  -- The names depend on the tree alone, so they pass the checks once more.
  have ending := terminated_render ⟨top.toNode, names.names, text, resolver⟩
  obtain accepted | refused := compile_of_spells ending spells behind
  · exact .inl ⟨_, accepted, rfl, BEq.refl _, rfl, rfl⟩
  · exact .inr refused

theorem compile_render_modifiers :
    ∃ pattern again : Pattern, compile .standard "NP?<(VP<VB=x|!<-2 __)".toList = .ok pattern ∧
      pattern.render = "NP ?< (VP [< VB=x | !<-2 __]);".toList ∧ pattern.root.Exclusive ∧
        compile .standard pattern.render = .ok again ∧ again.root = pattern.root ∧
          again.names = pattern.names := by
  have accepted : (compile .standard "NP?<(VP<VB=x|!<-2 __)".toList).toOption.map
      (fun pattern => (pattern.render, decide pattern.root.Exclusive)) =
        some ("NP ?< (VP [< VB=x | !<-2 __]);".toList, true) := by decide +kernel
  have acceptedAgain : (compile .standard "NP ?< (VP [< VB=x | !<-2 __]);".toList).toOption.isSome =
      true := by decide +kernel
  obtain ⟨pattern, found, evaluated⟩ := Option.map_eq_some_iff.1 accepted
  obtain ⟨printed, exclusive⟩ := Prod.mk.inj evaluated
  have compiled := to_option_eq_some.1 found
  have exclusive := of_decide_eq_true exclusive
  obtain ⟨again, compiledAgain, root, -, names, -⟩ | ⟨limit, position, refused⟩ :=
    compile_render compiled exclusive
  · exact ⟨pattern, again, compiled, printed, exclusive, compiledAgain, root, names⟩
  · rw [← printed, refused] at acceptedAgain
    cases acceptedAgain

end Pattern

end TreeQuery
