import TreeQuery.Proofs.Errors.Located
import TreeQuery.Proofs.Grammar.Group
import TreeQuery.Proofs.Grammar.Heeds.Number
import TreeQuery.Proofs.Token.Layout

/- What becomes of the numbers of a pattern. Every number that the parser comes to is taken for
   what its digits say: a number in range is what the relation or the group of the pattern has, and
   at a number out of range the parser stops. -/
set_option autoImplicit false

namespace TreeQuery

open Grammar

namespace Pattern

-- What comes of a number behind an operator: the relation of the description at the index, or the
-- error of the text.
structure IndexOutcome (resolver : Resolver) (text : Text) (operator number : Token) (index : Nat) :
    Prop where
  resolved : resolver.resolve (indexed operator.text number.text).1
    (some (indexed operator.text number.text).2) = (numbered operator.text number.text).map .ofKind
  taken : ∀ kind, numbered operator.text number.text = .ok kind →
    (∀ cause, compile resolver text ≠ .error (.invalidRelation cause operator.position)) ∧
      ∀ pattern, compile resolver text = .ok pattern → ∃ description,
        pattern.root.descriptions[index]? = some description ∧ description.relation = .ofKind kind
  refused : ∀ cause, numbered operator.text number.text = .error cause →
    compile resolver text = .error (.invalidRelation cause operator.position)

-- What comes of the number of a group on a label: a group of the description at the index, or the
-- error of the text.
structure GroupOutcome (resolver : Resolver) (text : Text) (descriptor : Descriptor)
    (number name : Token) (index : Nat) : Prop where
  checked : ∀ group, groupNumber descriptor number.text = .ok group ↔
    descriptor.HasGroup (digitsValue number.text) ∧ digitsValue number.text = group
  taken : descriptor.HasGroup (digitsValue number.text) →
    (∀ fault, compile resolver text ≠
      .error (.invalidGroupCapture number.text fault number.position)) ∧
      ∀ pattern, compile resolver text = .ok pattern → ∃ description,
        pattern.root.descriptions[index]? = some description ∧
          description.descriptor = descriptor ∧
            ⟨digitsValue number.text, name.text⟩ ∈ description.groups
  refused : ¬ descriptor.HasGroup (digitsValue number.text) →
    ∃ fault, compile resolver text =
      .error (.invalidGroupCapture number.text fault number.position)

-- What comes of the numbers among the tokens that a text is read by, which are all the tokens up to
-- where the parser stops. A description is counted out by the operators in front of it.
structure NumbersRead (resolver : Resolver) (text : Text) (tokens read : List Token) : Prop where
  reached : (TokenStream.ofTokens tokens).upcoming =
    read ++ leftBy (runTokens ⟨resolver, true⟩ tokens)
  marked : ∀ before number after, read = before ++ number :: after → number.kind = .number →
    ∃ front mark, before = front ++ [mark] ∧ mark.kind ∈ [TokenKind.operator, .hash]
  indexes : ∀ before operator number after, read = before ++ operator :: number :: after →
    operator.kind = .operator → number.kind = .number →
      IndexOutcome resolver text operator number (before.countP Token.isOperator + 1)
  groups : ∀ before hash number equals name after,
    read = before ++ hash :: number :: equals :: name :: after →
      hash.kind = .hash → number.kind = .number →
        ∃ label descriptor, labelInFront before = some label ∧
          descriptorOf resolver.checkRegex label = .ok descriptor ∧
            GroupOutcome resolver text descriptor number name (before.countP Token.isOperator)

variable {resolver : Resolver} {text : Text} {tokens : List Token}

section Tokens

variable (tokenized : tokenize (terminated text) = .ok tokens)

include tokenized

theorem compile_tokens_error {error : PatternError} :
    compile resolver text = .error error ↔ parseTokens resolver tokens = .error error := by
  unfold compile parseText
  rw [tokenized]
  cases found : parseTokens resolver tokens <;> simp [found]

theorem compile_tokens_root {pattern : Pattern} (compiled : compile resolver text = .ok pattern) :
    ∃ parsed, parseTokens resolver tokens = .ok parsed ∧ pattern.root = parsed.root := by
  unfold compile parseText at compiled
  rw [tokenized] at compiled
  cases found : parseTokens resolver tokens with
  | error error => simp [found] at compiled
  | ok parsed =>
      simp only [found, Except.ok.injEq] at compiled
      exact ⟨parsed, rfl, by rw [← compiled]⟩

end Tokens

theorem compile_refused {error : PatternError} (refused : compile resolver text = .error error) :
    (∃ stopped, error = .lexical stopped) ∨ ∃ tokens, tokenize (terminated text) = .ok tokens ∧
      parseTokens resolver tokens = .error error := by
  cases tokenized : tokenize (terminated text) with
  | error stopped =>
      unfold compile parseText at refused
      rw [tokenized] at refused
      cases refused
      exact .inl ⟨stopped, rfl⟩
  | ok tokens => exact .inr ⟨tokens, rfl, (compile_tokens_error tokenized).1 refused⟩

structure ReadOf (resolver : Resolver) (text : Text) (tokens read : List Token) : Prop where
  tokenized : tokenize (terminated text) = .ok tokens
  left : ∃ left final, tokens = read ++ left ++ [final] ∧
    (TokenStream.ofTokens tokens).upcoming = read ++ left
  lexed : ∀ token ∈ read, token.Lexed
  checked : ∀ before number after, read = before ++ number :: after → number.kind = .number →
    (Fits resolver before number ∧
      ∀ error, compile resolver text = .error error → error.Behind after) ∨
    ∃ error, compile resolver text = .error error ∧ Refused resolver error before number after

namespace ReadOf

variable {before after read : List Token} {operator hash number equals name : Token}

theorem apart {token : Token} (readOf : ReadOf resolver text tokens read)
    (inside : read = before ++ token :: after) :
    ∀ later ∈ after, later.position ≠ token.position := by
  obtain ⟨left, final, whole, -⟩ := readOf.left
  have increasing := (tokenize_layout readOf.tokenized).increasing
  rw [whole, inside, List.append_assoc, List.append_assoc, List.pairwise_append] at increasing
  intro later among same
  have starts := (List.pairwise_cons.1 increasing.2.1).1 later (by simp [among])
  rw [Token.start, Token.start, same] at starts
  exact Nat.lt_irrefl _ starts

theorem index_outcome (readOf : ReadOf resolver text tokens read)
    (inside : read = before ++ operator :: number :: after) (isOperator : operator.kind = .operator)
    (isNumber : number.kind = .number) :
    IndexOutcome resolver text operator number (before.countP Token.isOperator + 1) := by
  obtain ⟨source, lexeme⟩ := readOf.lexed operator (by simp [inside])
  rw [isOperator] at lexeme
  have resolves : resolver.resolve _ _ = _ :=
    Resolver.resolve_numbered (lexeme_read_by lexeme).mem_operators
      ((readOf.lexed number (by simp [inside])).is_number isNumber)
  have split : read = (before ++ [operator]) ++ number :: after := by simp [inside]
  refine ⟨resolves, fun kind inRange => ?_, fun cause outside => ?_⟩
  · rw [inRange] at resolves
    rcases readOf.checked _ number after split isNumber with ⟨-, behind⟩ | ⟨error, -, refused⟩
    · constructor
      · intro cause failed
        rcases behind _ failed with unrelated | ⟨token, among, place⟩
        · exact unrelated
        · exact readOf.apart inside token (List.mem_cons_of_mem _ among) place
      · intro pattern compiled
        obtain ⟨parsed, accepted, root⟩ := compile_tokens_root readOf.tokenized compiled
        obtain ⟨left, final, -, upcoming⟩ := readOf.left
        rw [inside, List.append_assoc] at upcoming
        obtain ⟨description, there, resolved⟩ :=
          parse_tokens_index accepted isOperator isNumber upcoming
        rw [resolves] at resolved
        exact ⟨description, by rw [root]; exact there, (Except.ok.inj resolved).symm⟩
    · obtain ⟨cause, found, -⟩ := refused.index_refused isOperator
      cases resolves.symm.trans found
  · rw [outside] at resolves
    rcases readOf.checked _ number after split isNumber with ⟨fits, -⟩ | ⟨error, failed, refused⟩
    · obtain ⟨relation, found⟩ := fits.index_resolves isOperator
      cases resolves.symm.trans found
    · obtain ⟨cause, found, rfl⟩ := refused.index_refused isOperator
      cases resolves.symm.trans found
      exact failed

theorem group_outcome (readOf : ReadOf resolver text tokens read)
    (inside : read = before ++ hash :: number :: equals :: name :: after)
    (isHash : hash.kind = .hash) (isNumber : number.kind = .number) :
    ∃ label descriptor, labelInFront before = some label ∧
      descriptorOf resolver.checkRegex label = .ok descriptor ∧
        GroupOutcome resolver text descriptor number name (before.countP Token.isOperator) := by
  have lexedNumber := (readOf.lexed number (by simp [inside])).is_number isNumber
  have split : read = (before ++ [hash]) ++ number :: equals :: name :: after := by simp [inside]
  rcases readOf.checked _ number _ split isNumber with ⟨fits, behind⟩ | ⟨error, failed, refused⟩
  · obtain ⟨label, descriptor, group, inFront, meant, has⟩ := fits.group_present isHash
    have ⟨present, value⟩ := (group_number_eq_ok lexedNumber).1 has
    refine ⟨label, descriptor, inFront, meant, fun _ => group_number_eq_ok lexedNumber,
      fun _ => ⟨?_, ?_⟩, fun missing => absurd present missing⟩
    · intro fault failed
      rcases behind _ failed with unrelated | ⟨token, among, place⟩
      · exact unrelated
      · exact readOf.apart split token among place
    · intro pattern compiled
      obtain ⟨parsed, accepted, root⟩ := compile_tokens_root readOf.tokenized compiled
      obtain ⟨left, final, -, upcoming⟩ := readOf.left
      rw [inside, List.append_assoc] at upcoming
      obtain ⟨other, description, inFrontToo, there, meantToo, written, rest, spelt, capture, among,
        denoted⟩ := parse_tokens_group accepted (by simp [isHash, Grammar.isHash]) upcoming
      cases inFront.symm.trans inFrontToo
      cases meant.symm.trans meantToo
      simp only [GroupPhrase.tokens, List.cons_append, List.cons.injEq] at spelt
      obtain ⟨-, rfl, -, rfl, -⟩ := spelt
      simp only [GroupPhrase.denote, has, Except.toOption, Option.map_some,
        Option.some.injEq] at denoted
      refine ⟨description, by rw [root]; exact there, rfl, ?_⟩
      rw [value, denoted]
      exact among
  · obtain ⟨label, descriptor, fault, inFront, meant, found, rfl⟩ :=
      refused.group_refused isHash (by simp)
    refine ⟨label, descriptor, inFront, meant, fun _ => group_number_eq_ok lexedNumber,
      fun present => ?_, fun _ => ⟨fault, failed⟩⟩
    cases found.symm.trans ((group_number_eq_ok lexedNumber).2 ⟨present, rfl⟩)

end ReadOf

/-- The numbers that the parser reads in a text are taken for what all of their digits say. A number
that is in the range of its operator gives the relation of a description, and the number of a group
that the label can have gives a group of its description. At any other number the parser stops, with
the error of the operator or of the group. -/
theorem compile_numbers (tokenized : tokenize (terminated text) = .ok tokens) :
    ∃ read, NumbersRead resolver text tokens read := by
  obtain ⟨body, final, rfl, ended, lexed⟩ := tokenize_lexed tokenized
  obtain ⟨read, split, checked⟩ := run_tokens_numbers resolver (body ++ [final])
  have upcoming := TokenStream.of_tokens_upcoming ended fun token inside =>
    (lexed token inside).kind_ne_end
  have body_eq := upcoming.symm.trans split
  have readOf : ReadOf resolver text (body ++ [final]) read := by
    constructor
    · exact tokenized
    · exact ⟨_, final, by rw [← body_eq], split⟩
    · exact fun token inside => lexed token (by rw [body_eq]; exact List.mem_append_left _ inside)
    · simpa only [compile_tokens_error tokenized] using checked
  refine ⟨read, split, ?_, fun _ _ _ _ => readOf.index_outcome,
    fun _ _ _ _ _ _ => readOf.group_outcome⟩
  intro before number after inside isNumber
  rcases checked before number after inside isNumber with ⟨fits, -⟩ | ⟨error, -, refused⟩
  · exact fits.marked
  · exact refused.marked

theorem compile_numbers_limits :
    ∃ tokens read,
      tokenize (terminated "S<-02147483648(/(a)/#01=x)>2147483648 B".toList) = .ok tokens ∧
        NumbersRead .standard "S<-02147483648(/(a)/#01=x)>2147483648 B".toList tokens read ∧
          compile .standard "S<-02147483648(/(a)/#01=x)>2147483648 B".toList =
            .error (.invalidRelation (.invalidIndex ['>'] "2147483648".toList) ⟨26, 1, 27⟩) := by
  have evaluated : (compile .standard "S<-02147483648(/(a)/#01=x)>2147483648 B".toList).map
      Pattern.names =
        .error (.invalidRelation (.invalidIndex ['>'] "2147483648".toList) ⟨26, 1, 27⟩) := by
    decide +kernel
  have lexes : (tokenize (terminated
      "S<-02147483648(/(a)/#01=x)>2147483648 B".toList)).toOption.isSome = true := by decide +kernel
  obtain ⟨tokens, found⟩ := Option.isSome_iff_exists.1 lexes
  have tokenized := to_option_eq_some.1 found
  obtain ⟨read, numbers⟩ := compile_numbers tokenized
  exact ⟨tokens, read, tokenized, numbers, map_eq_error.1 evaluated⟩

end Pattern

end TreeQuery
