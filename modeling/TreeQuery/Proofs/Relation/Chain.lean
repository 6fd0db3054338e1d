import TreeQuery.Proofs.Errors.Located
import TreeQuery.Proofs.Grammar.Piece
import TreeQuery.Proofs.Printing.Relation
import TreeQuery.Proofs.Printing.Written
import TreeQuery.Proofs.Relation.Canonical

/- Chain relations of a pattern: what is written as the argument of one, the marks and the
   label, is what the relation has. The marks and the label are put into one text and taken
   apart again; no label begins with a character that would be taken for a mark. -/
set_option autoImplicit false

namespace TreeQuery

open Grammar

theorem strip_mark_marked {mark : Char} {text : Text} (apart : text.head? ≠ some mark)
    (marked : Bool) :
    stripMark mark ((if marked then [mark] else []) ++ text) = (marked, text) := by
  cases marked with
  | true => simp [stripMark]
  | false =>
      cases text with
      | nil => rfl
      | cons c rest =>
          have other : c ≠ mark := fun same => apart (congrArg some same)
          simp [stripMark, other]

namespace Token.Lexed

variable {label : Token} (lexed : label.Lexed)

include lexed

theorem label_cases (isLabel : label.kind ∈ labelKinds) :
    (label.kind = .identifier ∧ IsName label.text) ∨ (label.kind = .regex ∧ IsRegex label.text) ∨
      (label.kind = .blank ∧ label.text = ['_', '_']) := by
  obtain ⟨source, read⟩ := lexed
  simp only [labelKinds, List.mem_cons, List.not_mem_nil, or_false] at isLabel
  rcases isLabel with kind | kind | kind
  · rw [kind] at read
    exact .inl ⟨kind, lexeme_is_name read⟩
  · rw [kind] at read
    exact .inr (.inl ⟨kind, (lexeme_read_by read).is_regex⟩)
  · rw [kind] at read
    exact .inr (.inr ⟨kind, (lexeme_read_by read).is_blank⟩)

theorem label_unmarked (isLabel : label.kind ∈ labelKinds) :
    label.text.head? ≠ some '!' ∧ label.text.head? ≠ some '@' := by
  rcases lexed.label_cases isLabel with ⟨-, isName⟩ | ⟨-, isRegex⟩ | ⟨-, blank⟩
  · have starts := isName.starts
    constructor
    · intro bang
      obtain ⟨rest, same⟩ := List.head?_eq_some_iff.1 bang
      rw [same] at starts
      exact absurd starts (by decide : ¬ isNameChar '!' = true)
    · intro atSign
      obtain ⟨rest, same⟩ := List.head?_eq_some_iff.1 atSign
      rw [same] at starts
      exact absurd starts (by decide : ¬ isNameChar '@' = true)
  · obtain ⟨body, opened, -⟩ := isRegex.opened
    rw [opened]
    exact ⟨by simp, by simp⟩
  · rw [blank]
    decide

theorem of_text_label (isLabel : label.kind ∈ labelKinds) (checker : Regex.Checker)
    (symbol : Text) (negated categoryMatch : Bool) :
    (ChainArgument.ofText checker symbol ((if negated then ['!'] else []) ++
        ((if categoryMatch then ['@'] else []) ++ label.text))).toOption =
      (descriptorOf checker label).toOption.map (⟨·, negated, categoryMatch⟩) := by
  obtain ⟨noBang, noAtSign⟩ := lexed.label_unmarked isLabel
  have noBangToo : ((if categoryMatch then ['@'] else []) ++ label.text).head? ≠ some '!' := by
    cases categoryMatch with
    | true => simp
    | false => exact noBang
  unfold ChainArgument.ofText
  simp only [strip_mark_marked noBangToo, strip_mark_marked noAtSign]
  rcases lexed.label_cases isLabel with ⟨kind, isName⟩ | ⟨kind, isRegex⟩ | ⟨kind, blank⟩
  · have notBlank : label.text ≠ ['_', '_'] := by
      intro same
      have lexeme := isName.lexeme
      rw [same] at lexeme
      cases lexeme
    have starts := isName.starts
    have notSlashed : isSlashed label.text = false := by
      cases opened : label.text with
      | nil => rfl
      | cons c rest =>
          have notSlash : c ≠ '/' := by
            rintro rfl
            rw [opened] at starts
            cases starts
          simp [isSlashed, notSlash]
    have nonempty : label.text ≠ [] := by
      intro empty
      rw [empty] at starts
      cases starts
    rw [if_neg notBlank, notSlashed, if_neg Bool.false_ne_true, if_neg nonempty, descriptorOf, kind]
    rfl
  · obtain ⟨body, opened, closed⟩ := isRegex.opened
    have notBlank : label.text ≠ ['_', '_'] := by simp [opened]
    have slashed : isSlashed label.text = true := by
      cases body with
      | nil => cases closed
      | cons c body => simpa [isSlashed, opened] using closed
    rw [if_neg notBlank, if_pos slashed, descriptorOf, kind]
    cases Regex.ofLiteral checker label.text <;> rfl
  · rw [if_pos blank, descriptorOf, kind]
    rfl

end Token.Lexed

namespace Grammar.ArgumentPhrase

def negated : ArgumentPhrase → Bool
  | enclosed _ negation _ _ _ => negation.isSome
  | unenclosed negation _ => negation.isSome

def categoryMatch : ArgumentPhrase → Bool
  | enclosed _ _ category _ _ => category.isSome
  | unenclosed _ _ => false

def label : ArgumentPhrase → Token
  | enclosed _ _ _ label _ => label.token
  | unenclosed _ regex => regex.token

variable {argument other : ArgumentPhrase} {rest rest' : List Token}

theorem text_eq (argument : ArgumentPhrase) : argument.text =
    (if argument.negated then ['!'] else []) ++
      ((if argument.categoryMatch then ['@'] else []) ++ argument.label.text) := by
  cases argument with
  | enclosed opener negation category label closer => cases negation <;> cases category <;> rfl
  | unenclosed negation regex => cases negation <;> rfl

theorem label_mem_tokens (argument : ArgumentPhrase) : argument.label ∈ argument.tokens := by
  cases argument <;> simp [label, tokens]

theorem label_kind_mem (argument : ArgumentPhrase) : argument.label.kind ∈ labelKinds := by
  cases argument with
  | enclosed opener negation category label closer => exact label.kind_mem
  | unenclosed negation regex =>
      rw [label, regex.kind_eq]
      decide

theorem category_next (category : Option (Leaf [.atSign])) (label : Leaf labelKinds)
    (behind : List Token) (last : Token) :
    nextKind (optionalTokens category ++ label.token :: behind) last ∈ .atSign :: labelKinds := by
  cases category with
  | none => exact List.mem_cons_of_mem _ label.kind_mem
  | some atSign => exact List.mem_cons.2 (.inl atSign.kind_eq)

theorem unenclosed_opens (negation : Option (Leaf [.bang])) (regex : Leaf [.regex])
    (behind : List Token) (last : Token) :
    nextKind (optionalTokens negation ++ regex.token :: behind) last ∈ [.bang, .regex] := by
  cases negation with
  | none => exact List.mem_cons_of_mem _ regex.kind_mem
  | some bang => exact List.mem_cons.2 (.inl bang.kind_eq)

theorem unique (same : argument.tokens ++ rest = other.tokens ++ rest') :
    other.negated = argument.negated ∧ other.categoryMatch = argument.categoryMatch ∧
      other.label = argument.label := by
  cases argument with
  | enclosed opener negation category label closer =>
      cases other with
      | enclosed opener' negation' category' label' closer' =>
          simp only [tokens, List.cons_append, List.append_assoc, List.cons.injEq] at same
          have noBang : ∀ (category : Option (Leaf [.atSign])) (label : Leaf labelKinds) behind,
              nextKind (optionalTokens category ++ label.token :: behind) opener.token ≠ .bang :=
            fun category label behind bang =>
              absurd (bang ▸ category_next category label behind opener.token) (by decide)
          have noAtSign : ∀ (label : Leaf labelKinds) behind,
              nextKind (label.token :: behind) opener.token ≠ .atSign := by
            intro label behind atSign
            have inside := label.kind_mem
            rw [next_kind_cons] at atSign
            rw [atSign] at inside
            exact absurd inside (by decide)
          obtain ⟨negated, same⟩ :=
            optional_tokens_unique (noBang _ _ _) (noBang _ _ _) same.2
          obtain ⟨matched, same⟩ :=
            optional_tokens_unique (noAtSign _ _) (noAtSign _ _) same.symm
          exact ⟨negated, matched, (List.cons.inj same).1⟩
      | unenclosed negation' regex' =>
          have opens := unenclosed_opens negation' regex' rest' opener.token
          simp only [tokens, List.cons_append, List.append_assoc, List.nil_append] at same
          rw [← same, next_kind_cons, opener.kind_eq] at opens
          exact absurd opens (by decide)
  | unenclosed negation regex =>
      cases other with
      | enclosed opener' negation' category' label' closer' =>
          have opens := unenclosed_opens negation regex rest opener'.token
          simp only [tokens, List.cons_append, List.append_assoc, List.nil_append] at same
          rw [same, next_kind_cons, opener'.kind_eq] at opens
          exact absurd opens (by decide)
      | unenclosed negation' regex' =>
          simp only [tokens, List.append_assoc, List.cons_append, List.nil_append] at same
          have noBang : ∀ (regex' : Leaf [.regex]) behind,
              nextKind (regex'.token :: behind) regex.token ≠ .bang := by
            intro regex' behind bang
            rw [next_kind_cons, regex'.kind_eq] at bang
            cases bang
          obtain ⟨negated, same⟩ :=
            optional_tokens_unique (noBang regex rest) (noBang regex' rest') same
          exact ⟨negated, rfl, (List.cons.inj same).1⟩

end Grammar.ArgumentPhrase

-- The relation has the operator, the marks and the label that are written.
structure Relation.WrittenChain (checker : Regex.Checker) (operator : Text)
    (argument : ArgumentPhrase) (relation : Relation) : Prop where
  resolved : ∃ chain descriptor, chain.symbol = operator ∧
    descriptorOf checker argument.label = .ok descriptor ∧
      relation.kind = .chain chain ⟨descriptor, argument.negated, argument.categoryMatch⟩
  rendered : relation.render = operator ++ ['('] ++ argument.text ++ [')']

variable {resolver : Resolver}

theorem Resolver.resolve_chain_written {operator : Token} {argument : ArgumentPhrase}
    {relation : Relation} (isChain : operator.kind = .chainOperator) (lexed : operator.Lexed)
    (lexedLabel : argument.label.Lexed)
    (found : resolver.resolve operator.text (some argument.text) = .ok relation) :
    relation.WrittenChain resolver.checkRegex operator.text argument := by
  obtain ⟨source, read⟩ := lexed
  rw [isChain] at read
  obtain ⟨chain, named, symbol⟩ :=
    Spells.of_symbol_chain (lexeme_read_by read).mem_chain_operators
  have decoded := lexedLabel.of_text_label argument.label_kind_mem resolver.checkRegex
    operator.text argument.negated argument.categoryMatch
  rw [← argument.text_eq] at decoded
  change resolver.resolveWith operator.text argument.text = .ok relation at found
  obtain ⟨parsed, kind, written⟩ := resolve_with_chain named found
  simp only [resolveWith, named] at found
  cases parses : ChainArgument.ofText resolver.checkRegex operator.text argument.text with
  | error error =>
      rw [parses] at found
      cases found
  | ok parsed' =>
      rw [parses] at found decoded
      cases found
      cases kind
      obtain ⟨descriptor, meant, same⟩ := Option.map_eq_some_iff.1 decoded.symm
      constructor
      · exact ⟨chain, descriptor, symbol, to_option_eq_some.1 meant, by rw [← same]⟩
      · change chain.symbol ++ ['('] ++ parsed.render ++ [')'] = _
        rw [symbol, written]

theorem Resolver.resolve_plain_operator {operator : Leaf [.operator]}
    {number : Option (Leaf [.number])} {relation : Relation} (lexed : operator.token.Lexed)
    (found : (OperationPhrase.plain operator number).denote resolver = some relation) :
    relation.kind.chainArgument? = none := by
  have resolved := to_option_eq_some.1 found
  cases number with
  | none =>
      obtain ⟨plain, kind, -⟩ := resolve_bare_again resolved
      rw [kind]
      rfl
  | some number =>
      obtain ⟨source, read⟩ := lexed
      rw [operator.kind_eq] at read
      have notChain := Spells.operator_not_chain (lexeme_read_by read).mem_operators number.token.text
      obtain ⟨index, -, rfl | rfl⟩ := resolve_with_index notChain resolved
      · rfl
      · rfl

theorem Relation.WrittenChain.other {checker : Regex.Checker} {operator : Text}
    {argument other : ArgumentPhrase} {relation : Relation} {rest rest' : List Token}
    (written : relation.WrittenChain checker operator argument)
    (same : argument.tokens ++ rest = other.tokens ++ rest') :
    relation.WrittenChain checker operator other := by
  obtain ⟨negated, matched, label⟩ := ArgumentPhrase.unique same
  have text : other.text = argument.text := by
    rw [other.text_eq, argument.text_eq, negated, matched, label]
  obtain ⟨kind, rendered⟩ := written
  constructor
  · rw [negated, matched, label]
    exact kind
  · rw [text]
    exact rendered

section Tokens

variable {tokens : List Token} {parsed : Parsed}
  (accepted : parseTokens resolver tokens = .ok parsed)
  (lexed : ∀ token ∈ (TokenStream.ofTokens tokens).upcoming, token.Lexed)

include accepted lexed

theorem parse_tokens_chain_operator {before inner : List Token} {operator : Token}
    (split : (TokenStream.ofTokens tokens).upcoming = before ++ operator :: inner)
    (isChain : operator.kind = .chainOperator) :
    ∃ (description : Description) (argument : ArgumentPhrase) (behind : List Token),
      parsed.root.descriptions[before.countP Token.isOperator + 1]? = some description ∧
        inner = argument.tokens ++ behind ∧
          description.relation.WrittenChain resolver.checkRegex operator.text argument := by
  have leads : operator.isOperator = true := by
    rw [Token.isOperator, isChain]
    rfl
  obtain ⟨operation, behind, description, spelt, -, resolved, there⟩ :=
    parse_tokens_operator accepted leads split
  cases operation with
  | plain operator' number =>
      cases (List.cons.inj spelt).1
      rw [operator'.kind_eq] at isChain
      cases isChain
  | chain operator' argument =>
      rw [OperationPhrase.tokens, List.cons_append, List.cons.injEq] at spelt
      obtain ⟨rfl, rfl⟩ := spelt
      have lexedOperator := lexed operator'.token (by simp [split])
      have lexedLabel := lexed argument.label (by simp [split, argument.label_mem_tokens])
      exact ⟨description, argument, behind, there, rfl,
        Resolver.resolve_chain_written operator'.kind_eq lexedOperator lexedLabel
          (to_option_eq_some.1 resolved)⟩

theorem parse_tokens_chain_described {index : Nat} {description : Description}
    (listed : parsed.root.descriptions[index]? = some description)
    (chained : description.relation.kind.chainArgument? ≠ none) :
    ∃ before operator inner,
      (TokenStream.ofTokens tokens).upcoming = before ++ operator :: inner ∧
        operator.kind = .chainOperator ∧ index = before.countP Token.isOperator + 1 := by
  rcases parse_tokens_described accepted listed with same | found
  · rw [same] at chained
    exact absurd rfl chained
  · obtain ⟨front, operation, behind, split, counted, resolved⟩ := found
    cases operation with
    | plain operator number =>
        have lexedOperator := lexed operator.token (by simp [split, OperationPhrase.tokens])
        exact absurd (Resolver.resolve_plain_operator lexedOperator resolved) chained
    | chain operator argument =>
        refine ⟨front, operator.token, argument.tokens ++ behind, ?_, operator.kind_eq, counted⟩
        simp [split, OperationPhrase.tokens]

end Tokens

/-- Every chain operator of a text that compiles has an argument behind it, and the relation of
its description is the operator with the marks and the label that are written there: the label is
read as the label of a node is. The canonical text of the relation has the argument in
parentheses. No other relation of the pattern is a chain. -/
theorem Pattern.compile_chains {text : Text} {pattern : Pattern}
    (compiled : Pattern.compile resolver text = .ok pattern) :
    ∃ tokens, tokenize (terminated text) = .ok tokens ∧
      (∀ before operator after, tokens = before ++ operator :: after →
        operator.kind = .chainOperator →
          ∃ description,
            pattern.root.descriptions[before.countP Token.isOperator + 1]? = some description ∧
              (∃ (argument : ArgumentPhrase) (rest : List Token),
                after = argument.tokens ++ rest) ∧
              ∀ (argument : ArgumentPhrase) (rest : List Token), after = argument.tokens ++ rest →
                description.relation.WrittenChain resolver.checkRegex operator.text argument) ∧
      ∀ index description, pattern.root.descriptions[index]? = some description →
        description.relation.kind.chainArgument? ≠ none →
          ∃ before operator after, tokens = before ++ operator :: after ∧
            operator.kind = .chainOperator ∧ index = before.countP Token.isOperator + 1 := by
  obtain ⟨parsed, parses, rfl⟩ := compile_eq_parsed.1 compiled
  obtain ⟨tokens, tokenized, accepted⟩ := parse_text_eq_ok.1 parses
  obtain ⟨body, final, rfl, ended, lexed⟩ := tokenize_lexed tokenized
  have upcoming := TokenStream.of_tokens_upcoming ended fun token inside =>
    (lexed token inside).kind_ne_end
  rw [← upcoming] at lexed
  refine ⟨_, tokenized, ?_, ?_⟩
  · intro before operator after split isChain
    have notLast : operator.kind ≠ .endOfInput := by
      rw [isChain]
      decide
    obtain ⟨inner, rfl, rfl⟩ := split_before_end ended notLast split
    obtain ⟨description, argument, behind, there, rfl, written⟩ :=
      parse_tokens_chain_operator accepted lexed upcoming isChain
    refine ⟨description, there, ⟨argument, behind ++ [final], by simp⟩, ?_⟩
    intro other rest same
    rw [List.append_assoc] at same
    exact written.other same
  · intro index description listed chained
    obtain ⟨before, operator, inner, split, isChain, counted⟩ :=
      parse_tokens_chain_described accepted lexed listed chained
    rw [upcoming] at split
    exact ⟨before, operator, inner ++ [final], by simp [split], isChain, counted⟩

theorem Pattern.compile_chains_marks :
    ∃ pattern, Pattern.compile .standard
        "S <+(!@/a\\/b/) B ,+ !/c/ D .+(__) E >+(@X) F".toList = .ok pattern ∧
      pattern.root.render = "S <+(!@/a\\/b/) B ,+(!/c/) D .+(__) E >+(@X) F".toList ∧
      ∃ tokens, tokenize (terminated
          "S <+(!@/a\\/b/) B ,+ !/c/ D .+(__) E >+(@X) F".toList) = .ok tokens ∧
        ∀ before operator after, tokens = before ++ operator :: after →
          operator.kind = .chainOperator → ∃ description,
            pattern.root.descriptions[before.countP Token.isOperator + 1]? = some description ∧
              (∃ (argument : ArgumentPhrase) (rest : List Token),
                after = argument.tokens ++ rest) ∧
              ∀ (argument : ArgumentPhrase) (rest : List Token), after = argument.tokens ++ rest →
                description.relation.WrittenChain Resolver.standard.checkRegex operator.text
                  argument := by
  have accepted : (Pattern.compile .standard
      "S <+(!@/a\\/b/) B ,+ !/c/ D .+(__) E >+(@X) F".toList).toOption.map
      (·.root.render) =
        some "S <+(!@/a\\/b/) B ,+(!/c/) D .+(__) E >+(@X) F".toList := by decide +kernel
  obtain ⟨pattern, found, rendered⟩ := Option.map_eq_some_iff.1 accepted
  obtain ⟨tokens, lexed, written, -⟩ := compile_chains (to_option_eq_some.1 found)
  exact ⟨pattern, to_option_eq_some.1 found, rendered, tokens, lexed, written⟩

end TreeQuery
