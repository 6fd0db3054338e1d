import TreeQuery.Proofs.Grammar.Local.Basic
import TreeQuery.Proofs.Relation.Index

/- The numbers that a run comes to. Each stands behind an operator, whose relation it has to
   resolve with, or behind a hash sign, where it has to be a group of the label in front. A run
   goes on only behind a number that fits, and stops at the first one that does not. -/
set_option autoImplicit false

namespace TreeQuery

def PatternError.Unrelated : PatternError → Prop
  | invalidRelation _ _ => False
  | invalidGroupCapture _ _ _ => False
  | _ => True

namespace Grammar

-- The label that a group belongs to, in the tokens in front of it, of which the last one comes
-- first. A name behind an equals sign is no label.
def labelAmong : List Token → Option Token
  | [] => none
  | token :: rest =>
      if token.kind ∈ labelKinds ∧ rest.head?.map Token.kind ≠ some .equals then some token
      else labelAmong rest

def labelInFront (before : List Token) : Option Token := labelAmong before.reverse

section Label

variable {before : List Token} {token name : Token}

theorem label_in_front_snoc (before : List Token) (token : Token) :
    labelInFront (before ++ [token]) =
      if token.kind ∈ labelKinds ∧ before.getLast?.map Token.kind ≠ some .equals then some token
      else labelInFront before := by
  rw [labelInFront, List.reverse_append, ← List.head?_reverse]
  rfl

theorem label_in_front_label (isLabel : token.kind ∈ labelKinds)
    (apart : before.getLast?.map Token.kind ≠ some .equals) :
    labelInFront (before ++ [token]) = some token := by
  rw [label_in_front_snoc, if_pos ⟨isLabel, apart⟩]

theorem label_in_front_other (isOther : token.kind ∉ labelKinds) :
    labelInFront (before ++ [token]) = labelInFront before := by
  rw [label_in_front_snoc, if_neg fun here => isOther here.1]

theorem label_in_front_name (equals : token.kind = .equals) :
    labelInFront (before ++ [token] ++ [name]) = labelInFront before := by
  have isOther : token.kind ∉ labelKinds := by
    rw [equals]
    decide
  rw [label_in_front_snoc, if_neg fun here => here.2 (by simp [equals]),
    label_in_front_other isOther]

end Label

inductive Fits (resolver : Resolver) : List Token → Token → Prop where
  | index {front : List Token} {operator number : Token} {relation : Relation}
      (isOperator : operator.kind = .operator)
      (resolves : resolver.resolve (indexed operator.text number.text).1
        (some (indexed operator.text number.text).2) = .ok relation) :
      Fits resolver (front ++ [operator]) number
  | group {front : List Token} {hash number label : Token} {descriptor : Descriptor} {group : Nat}
      (isHash : hash.kind = .hash) (inFront : labelInFront front = some label)
      (meant : descriptorOf resolver.checkRegex label = .ok descriptor)
      (has : groupNumber descriptor number.text = .ok group) :
      Fits resolver (front ++ [hash]) number

def Sound (resolver : Resolver) (read : List Token) : Prop :=
  ∀ before number after, read = before ++ number :: after → number.kind = .number →
    Fits resolver before number

namespace Sound

variable {resolver : Resolver} {read : List Token}

theorem nil : Sound resolver [] := by
  intro before number after split
  simp at split

theorem snoc {token : Token} (sound : Sound resolver read)
    (fits : token.kind = .number → Fits resolver read token) : Sound resolver (read ++ [token]) := by
  intro before number after split isNumber
  rcases List.eq_nil_or_concat after with rfl | ⟨inner, last, rfl⟩
  · obtain ⟨rfl, same⟩ := List.append_inj' split rfl
    cases same
    exact fits isNumber
  · rw [List.concat_eq_append, ← List.cons_append, ← List.append_assoc] at split
    exact sound before number inner (List.append_inj' split rfl).1 isNumber

theorem append {tokens : List Token} (sound : Sound resolver read)
    (free : ∀ token ∈ tokens, token.kind ≠ .number) : Sound resolver (read ++ tokens) := by
  induction tokens generalizing read with
  | nil => rwa [List.append_nil]
  | cons token tokens ih =>
      obtain ⟨here, later⟩ := List.forall_mem_cons.1 free
      rw [List.append_cons]
      exact ih (sound.snoc fun isNumber => absurd isNumber here) later

end Sound

-- How a run ends in an error: with a relation or a group that was read last and is refused, or
-- for another reason, maybe within a group whose number is not looked at yet.
inductive Halted (resolver : Resolver) : PatternError → List Token → Prop where
  | elsewhere {error : PatternError} {read : List Token} (sound : Sound resolver read)
      (unrelated : error.Unrelated) : Halted resolver error read
  | unfinished {error : PatternError} {front : List Token} {hash : Leaf [.hash]}
      {number : Leaf [.number]} {equals : Option (Leaf [.equals])} (sound : Sound resolver front)
      (unrelated : error.Unrelated) :
      Halted resolver error (front ++ hash.token :: number.token :: optionalTokens equals)
  | relation {front : List Token} {operation : OperationPhrase} {cause : RelationError}
      (sound : Sound resolver front)
      (refused : resolver.resolve operation.operation.symbol operation.operation.argument =
        .error cause) :
      Halted resolver (.invalidRelation cause operation.operation.position)
        (front ++ operation.tokens)
  | group {front : List Token} {group : GroupPhrase} {label : Token} {descriptor : Descriptor}
      {fault : GroupFault} (sound : Sound resolver front) (inFront : labelInFront front = some label)
      (meant : descriptorOf resolver.checkRegex label = .ok descriptor)
      (refused : groupNumber descriptor group.number.token.text = .error fault) :
      Halted resolver
        (.invalidGroupCapture group.number.token.text fault group.number.token.position)
        (front ++ group.tokens)

def Heeds {α : Type} (resolver : Resolver) (read : List Token) (production : Production α)
    (good : List Token → α → Prop) : Prop :=
  ∀ state : State, state.stream.last.kind = .endOfInput → Ends (production state)
    (fun value after => ∃ taken, Passed state taken after ∧ good (read ++ taken) value)
    (fun error after => ∃ taken, Passed state taken after ∧ Halted resolver error (read ++ taken))

namespace Heeds

variable {α β : Type} {resolver : Resolver} {read : List Token} {good : List Token → β → Prop}
  {kinds : List TokenKind} {kind : TokenKind}

theorem resume {production : Production β} {state middle : State} {taken : List Token}
    (passed : Passed state taken middle) (ended : state.stream.last.kind = .endOfInput)
    (heeds : Heeds resolver (read ++ taken) production good) :
    Ends (production middle)
      (fun value after => ∃ taken, Passed state taken after ∧ good (read ++ taken) value)
      (fun error after => ∃ taken, Passed state taken after ∧
        Halted resolver error (read ++ taken)) := by
  apply (heeds middle (passed.ended ended)).mono
  · rintro value after ⟨tokens, passedToo, holds⟩
    exact ⟨taken ++ tokens, passed.trans passedToo, by rwa [← List.append_assoc]⟩
  · rintro error after ⟨tokens, passedToo, halted⟩
    exact ⟨taken ++ tokens, passed.trans passedToo, by rwa [← List.append_assoc]⟩

theorem mono {production : Production β} {good' : List Token → β → Prop}
    (heeds : Heeds resolver read production good)
    (onDone : ∀ read' value, good read' value → good' read' value) :
    Heeds resolver read production good' := by
  intro state ended
  apply (heeds state ended).mono
  · rintro value after ⟨taken, passed, holds⟩
    exact ⟨taken, passed, onDone _ value holds⟩
  · exact fun _ _ halted => halted

theorem pure {value : β} (holds : good read value) : Heeds resolver read (pure value) good :=
  fun state _ => ⟨[], Passed.stay state, by rwa [List.append_nil]⟩

theorem throw {error : PatternError} (halted : Halted resolver error read) :
    Heeds resolver read (throw error) good :=
  fun state _ => ⟨[], Passed.stay state, by rwa [List.append_nil]⟩

theorem unexpected
    (halted : ∀ found, Halted resolver (.unexpectedToken found) read) :
    Heeds resolver read Production.unexpected good :=
  fun state _ => ⟨[], Passed.stay state, by rw [List.append_nil]; exact halted _⟩

theorem bind {production : Production α} {next : α → Production β} {part : List Token → α → Prop}
    (first : Heeds resolver read production part)
    (others : ∀ read' value, part read' value → Heeds resolver read' (next value) good) :
    Heeds resolver read (production >>= next) good := by
  intro state ended
  rw [Ends.bind]
  apply (first state ended).mono
  · rintro value middle ⟨taken, passed, holds⟩
    exact resume passed ended (others _ value holds)
  · exact fun _ _ halted => halted

theorem get_scope {next : Scope → Production β}
    (others : ∀ scope, Heeds resolver read (next scope) good) :
    Heeds resolver read (Production.getScope >>= next) good := by
  intro state ended
  rw [Ends.bind]
  exact others state.scope state ended

theorem set_scope {scope : Scope} {next : Unit → Production β}
    (others : Heeds resolver read (next ()) good) :
    Heeds resolver read (Production.setScope scope >>= next) good := by
  intro state ended
  rw [Ends.bind]
  apply resume Passed.act ended
  rwa [List.append_nil]

theorem remaining {next : Nat → Production β}
    (others : ∀ bound, Heeds resolver read (next bound) good) :
    Heeds resolver read (Production.remaining >>= next) good := by
  intro state ended
  rw [Ends.bind]
  exact others state.stream.remaining state ended

theorem check {next : Bool → Production β}
    (others : ∀ found, Heeds resolver read (next found) good) :
    Heeds resolver read (Production.checkAny kinds >>= next) good := by
  intro state ended
  rw [Ends.bind]
  apply resume (Passed.ask kinds) ended
  rw [List.append_nil]
  exact others _

theorem accept_any {next : Option Token → Production β} (within : .endOfInput ∉ kinds)
    (onSome : ∀ leaf : Leaf kinds,
      Heeds resolver (read ++ [leaf.token]) (next (some leaf.token)) good)
    (onNone : Heeds resolver read (next none) good) :
    Heeds resolver read (Production.acceptAny kinds >>= next) good := by
  intro state ended
  rw [Ends.bind, Production.accept_any_ends]
  have here : state.At state.stream.upcoming state.stream.last state.scope := ⟨rfl, rfl, rfl⟩
  by_cases wanted : state.stream.isAny kinds = true
  · obtain ⟨leaf, rest, next, current⟩ := Takes.front ended here within wanted
    rw [if_pos wanted, current]
    exact resume (Passed.advance next) ended (onSome leaf)
  · rw [if_neg wanted]
    apply resume (Passed.ask kinds) ended
    rwa [List.append_nil]

theorem accept {next : Option Token → Production β} (within : .endOfInput ≠ kind)
    (others : ∀ leaf : Option (Leaf [kind]),
      Heeds resolver (read ++ optionalTokens leaf) (next (leaf.map Leaf.token)) good) :
    Heeds resolver read (Production.accept kind >>= next) good := by
  apply accept_any (by simpa using within) fun leaf => others (some leaf)
  have nothing := others none
  rwa [optionalTokens, List.append_nil] at nothing

theorem accepts {next : Bool → Production β} (within : .endOfInput ≠ kind)
    (others : ∀ leaf : Option (Leaf [kind]),
      Heeds resolver (read ++ optionalTokens leaf) (next leaf.isSome) good) :
    Heeds resolver read (Production.accepts kind >>= next) good := by
  rw [Production.accepts_eq, bind_assoc]
  apply accept within
  intro leaf
  have same : (leaf.map Leaf.token).isSome = leaf.isSome := Option.isSome_map
  rw [pure_bind, same]
  exact others leaf

theorem consume {next : Token → Production β} (within : .endOfInput ≠ kind)
    (halted : ∀ found, Halted resolver (.unexpectedToken found) read)
    (others : ∀ leaf : Leaf [kind],
      Heeds resolver (read ++ [leaf.token]) (next leaf.token) good) :
    Heeds resolver read (Production.consume kind >>= next) good := by
  rw [Production.consume_eq, bind_assoc]
  apply accept_any (by simpa using within) others
  have stops : (Production.unexpected >>= next) = Production.unexpected := rfl
  change Heeds resolver read (Production.unexpected >>= next) good
  rw [stops]
  exact unexpected halted

theorem more_accepts (within : .endOfInput ≠ kind) :
    Heeds resolver read (Production.accepts kind) fun read' found =>
      ∃ leaf : Option (Leaf [kind]), read' = read ++ optionalTokens leaf ∧ found = leaf.isSome := by
  rw [← bind_pure (Production.accepts kind)]
  exact accepts within fun leaf => pure ⟨leaf, rfl, rfl⟩

theorem more_check : Heeds resolver read (Production.checkAny kinds) fun read' _ => read' = read := by
  rw [← bind_pure (Production.checkAny kinds)]
  exact check fun _ => pure rfl

theorem of_except {result : Except PatternError α} {next : α → Production β}
    (halted : ∀ error, result = .error error → Halted resolver error read)
    (others : ∀ value, result = .ok value → Heeds resolver read (next value) good) :
    Heeds resolver read (Production.ofExcept result >>= next) good := by
  cases result with
  | ok value => exact others value rfl
  | error error => exact throw (halted error rfl)

section Many

variable {more : Production Bool} {item : Production α} {between : List Token → Prop}
  (lead : List Token → Prop)

theorem many_up_to
    (asks : ∀ read, between read → Heeds resolver read more fun read' found =>
      between read' ∧ (found = true → lead read'))
    (items : ∀ read, between read → lead read →
      Heeds resolver read item fun read' _ => between read')
    (bound : Nat) {read : List Token} (holds : between read) :
    Heeds resolver read (Production.manyUpTo more item bound) fun read' _ => between read' := by
  induction bound generalizing read with
  | zero => exact (asks read holds).bind fun read' _ round => pure round.1
  | succ bound ih =>
      apply (asks read holds).bind
      intro read' found round
      cases found with
      | false => exact pure round.1
      | true =>
          apply (items read' round.1 (round.2 rfl)).bind
          intro read'' _ behind
          exact (ih behind).bind fun _ _ holds => pure holds

theorem many
    (asks : ∀ read, between read → Heeds resolver read more fun read' found =>
      between read' ∧ (found = true → lead read'))
    (items : ∀ read, between read → lead read →
      Heeds resolver read item fun read' _ => between read')
    {read : List Token} (holds : between read) :
    Heeds resolver read (Production.many more item) fun read' _ => between read' :=
  remaining fun bound => many_up_to lead asks items bound holds

end Many

end Heeds

end Grammar

end TreeQuery
