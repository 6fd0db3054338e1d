import TreeQuery.Proofs.Grammar.Takes.Basic

/- What a production asks for. Every kind that it has asked for since the last token is
   a way to go on with the tokens that it took to a word of its language, and where a
   token stops it, those tokens are the start of such a word. -/
set_option autoImplicit false

namespace TreeQuery.Grammar

def Continues (language : List Token → Prop) (taken : List Token) (kind : TokenKind) : Prop :=
  ∃ token rest, token.kind = kind ∧ language (taken ++ token :: rest)

-- What was asked for either was so before, at the same token, or may come next.
def Accounted (language : List Token → Prop) (state : State) (taken : List Token)
    (after : State) : Prop :=
  ∀ kind ∈ after.stream.asked,
    (taken = [] ∧ kind ∈ state.stream.asked) ∨ Continues language taken kind

structure Completed (language : List Token → Prop) (state after : State) (taken : List Token) :
    Prop where
  passed : Passed state taken after
  accounted : Accounted language state taken after
  word : language taken

structure Stopped (language : List Token → Prop) (state after : State) (taken : List Token) :
    Prop where
  passed : Passed state taken after
  accounted : Accounted language state taken after
  started : ∃ rest, language (taken ++ rest)

def OffersAt {α : Type} (production : Production α) (language : List Token → Prop)
    (state : State) : Prop :=
  Ends (production state)
    (fun _ after => ∃ taken, Completed language state after taken)
    (fun error after => ∀ unexpected, error = .unexpectedToken unexpected →
      unexpected = after.stream.unexpected ∧ ∃ taken, Stopped language state after taken)

def Offers {α : Type} (production : Production α) (language : List Token → Prop) : Prop :=
  ∀ state : State, state.stream.last.kind = .endOfInput → OffersAt production language state

section Accounted

variable {language part : List Token → Prop} {state middle after : State}
  {taken tokens : List Token} {kind : TokenKind}

theorem Continues.widen (continues : Continues part taken kind)
    (wider : ∀ word, part word → ∃ rest, language (word ++ rest)) :
    Continues language taken kind := by
  obtain ⟨token, rest, same, word⟩ := continues
  obtain ⟨more, longer⟩ := wider _ word
  exact ⟨token, rest ++ more, same, by simpa using longer⟩

theorem Accounted.widen (accounted : Accounted part state taken after)
    (wider : ∀ word, part word → ∃ rest, language (word ++ rest)) :
    Accounted language state taken after :=
  fun kind asked => (accounted kind asked).imp_right fun continues => continues.widen wider

theorem Accounted.trans (first : Accounted language state taken middle)
    (second : Accounted (fun tokens => language (taken ++ tokens)) middle tokens after) :
    Accounted language state (taken ++ tokens) after := by
  intro kind asked
  rcases second kind asked with ⟨nothing, before⟩ | ⟨token, rest, same, word⟩
  · rw [nothing, List.append_nil]
    exact first kind before
  · exact .inr ⟨token, rest, same, by rw [List.append_assoc]; exact word⟩

theorem Accounted.same (stream : after.stream.asked = state.stream.asked) :
    Accounted language state [] after := fun _ asked => .inl ⟨rfl, stream ▸ asked⟩

theorem Accounted.ask {kinds : List TokenKind} (starts : ∀ kind ∈ kinds, Continues language [] kind) :
    Accounted language state [] { state with stream := state.stream.ask kinds } := by
  intro kind asked
  rcases List.mem_append.1 asked with before | here
  · exact .inl ⟨rfl, before⟩
  · exact .inr (starts kind here)

theorem Accounted.advance :
    Accounted language state taken { state with stream := state.stream.advance } :=
  fun _ asked => nomatch asked

end Accounted

namespace OffersAt

variable {α β : Type} {language part : List Token → Prop} {state middle : State}
  {taken : List Token}

theorem resume {production : Production α} (passed : Passed state taken middle)
    (accounted : Accounted language state taken middle)
    (offers : OffersAt production (fun tokens => language (taken ++ tokens)) middle) :
    Ends (production middle)
      (fun _ after => ∃ taken, Completed language state after taken)
      (fun error after => ∀ unexpected, error = .unexpectedToken unexpected →
        unexpected = after.stream.unexpected ∧ ∃ taken, Stopped language state after taken) := by
  apply Ends.mono offers
  · intro value after run
    obtain ⟨tokens, completed⟩ := run
    exact ⟨taken ++ tokens, passed.trans completed.passed, accounted.trans completed.accounted,
      completed.word⟩
  · intro error after run unexpected isUnexpected
    obtain ⟨same, tokens, stopped⟩ := run unexpected isUnexpected
    obtain ⟨rest, word⟩ := stopped.started
    exact ⟨same, taken ++ tokens, passed.trans stopped.passed, accounted.trans stopped.accounted,
      rest, by rw [List.append_assoc]; exact word⟩

theorem bind {production : Production α} {next : α → Production β}
    (first : OffersAt production part state)
    (wider : ∀ word, part word → ∃ rest, language (word ++ rest))
    (others : ∀ value middle taken, Passed state taken middle → part taken →
      OffersAt (next value) (fun tokens => language (taken ++ tokens)) middle) :
    OffersAt (production >>= next) language state := by
  unfold OffersAt
  rw [Ends.bind]
  apply Ends.mono first
  · intro value middle run
    obtain ⟨taken, completed⟩ := run
    exact resume completed.passed (completed.accounted.widen wider)
      (others value middle taken completed.passed completed.word)
  · intro error after run unexpected isUnexpected
    obtain ⟨same, taken, stopped⟩ := run unexpected isUnexpected
    obtain ⟨rest, word⟩ := stopped.started
    obtain ⟨more, longer⟩ := wider _ word
    exact ⟨same, taken, stopped.passed, stopped.accounted.widen wider, rest ++ more,
      by simpa using longer⟩

theorem pure (value : α) (word : language []) : OffersAt (Pure.pure value) language state :=
  ⟨[], Passed.stay state, Accounted.same rfl, word⟩

theorem mono {production : Production α} (offers : OffersAt production part state)
    (wider : ∀ word, part word → language word) : OffersAt production language state := by
  have longer : ∀ word, part word → ∃ rest, language (word ++ rest) :=
    fun word inside => ⟨[], by rw [List.append_nil]; exact wider word inside⟩
  apply Ends.mono offers
  · intro value after run
    obtain ⟨taken, completed⟩ := run
    exact ⟨taken, completed.passed, completed.accounted.widen longer, wider taken completed.word⟩
  · intro error after run unexpected isUnexpected
    obtain ⟨same, taken, stopped⟩ := run unexpected isUnexpected
    obtain ⟨rest, word⟩ := stopped.started
    exact ⟨same, taken, stopped.passed, stopped.accounted.widen longer, rest, wider _ word⟩

theorem map {production : Production α} (change : α → β)
    (offers : OffersAt production language state) :
    OffersAt (production >>= fun value => Pure.pure (change value)) language state := by
  apply bind offers
  · intro word inside
    exact ⟨[], by rw [List.append_nil]; exact inside⟩
  · intro value middle taken _ inside
    exact pure _ (by rw [List.append_nil]; exact inside)

end OffersAt

namespace Offers

variable {α β : Type} {language part : List Token → Prop} {kinds : List TokenKind}
  {kind : TokenKind}

theorem pure (value : α) (word : language []) : Offers (pure value) language :=
  fun _ _ => OffersAt.pure value word

theorem throw (error : PatternError) (expected : ∀ unexpected, error ≠ .unexpectedToken unexpected) :
    Offers (α := α) (throw error) language := fun _ _ unexpected same => absurd same (expected unexpected)

theorem unexpected (started : ∃ word, language word) :
    Offers (α := α) Production.unexpected language := by
  intro state _ unexpected same
  cases same
  exact ⟨rfl, [], Passed.stay state, Accounted.same rfl, started⟩

theorem mono {production : Production α} (offers : Offers production part)
    (wider : ∀ word, part word → language word) : Offers production language :=
  fun state ended => (offers state ended).mono wider

theorem bind {production : Production α} {next : α → Production β}
    (first : Offers production part) (wider : ∀ word, part word → ∃ rest, language (word ++ rest))
    (others : ∀ value taken, part taken →
      Offers (next value) fun tokens => language (taken ++ tokens)) :
    Offers (production >>= next) language := by
  intro state ended
  apply OffersAt.bind (first state ended) wider
  intro value middle taken passed word
  exact others value taken word middle (passed.ended ended)

theorem map {production : Production α} (change : α → β) (offers : Offers production language) :
    Offers (production >>= fun value => Pure.pure (change value)) language :=
  fun state ended => (offers state ended).map change

theorem act {production : Production α} {next : α → Production β}
    {outcome : Scope → Option (α × Scope)} (acts : ∀ scope, Acts production scope (outcome scope))
    (others : ∀ value, Offers (next value) language) : Offers (production >>= next) language := by
  intro state ended
  unfold OffersAt
  rw [Ends.bind]
  apply (acts state.scope state rfl).mono
  · intro value middle run
    obtain ⟨stream, names⟩ := middle
    obtain ⟨same, _⟩ := run
    change stream = state.stream at same
    subst same
    exact OffersAt.resume Passed.act (Accounted.same rfl) (others value _ ended)
  · intro error after run unexpected isUnexpected
    rw [isUnexpected] at run
    exact run.1.elim

theorem check {next : Bool → Production β} (starts : ∀ kind ∈ kinds, Continues language [] kind)
    (others : ∀ found, Offers (next found) language) :
    Offers (Production.checkAny kinds >>= next) language := by
  intro state ended
  unfold OffersAt
  rw [Ends.bind]
  exact OffersAt.resume (Passed.ask kinds) (Accounted.ask starts) (others _ _ ended)

theorem accept_any {next : Option Token → Production β} (within : .endOfInput ∉ kinds)
    (starts : ∀ kind ∈ kinds, Continues language [] kind)
    (onSome : ∀ leaf : Leaf kinds,
      Offers (next (some leaf.token)) fun tokens => language (leaf.token :: tokens))
    (onNone : Offers (next none) language) :
    Offers (Production.acceptAny kinds >>= next) language := by
  intro state ended
  unfold OffersAt
  rw [Ends.bind, Production.accept_any_ends]
  by_cases wanted : state.stream.isAny kinds = true
  · have here : state.At state.stream.upcoming state.stream.last state.scope := ⟨rfl, rfl, rfl⟩
    obtain ⟨leaf, rest, next, current⟩ := Takes.front ended here within wanted
    rw [if_pos wanted, current]
    exact OffersAt.resume (Passed.advance next) Accounted.advance (onSome leaf _ ended)
  · rw [if_neg wanted]
    exact OffersAt.resume (Passed.ask kinds) (Accounted.ask starts) (onNone _ ended)

theorem accept {next : Option Token → Production β} (within : .endOfInput ≠ kind)
    (starts : Continues language [] kind)
    (others : ∀ leaf : Option (Leaf [kind]),
      Offers (next (leaf.map Leaf.token)) fun tokens => language (optionalTokens leaf ++ tokens)) :
    Offers (Production.accept kind >>= next) language :=
  accept_any (by simpa using within) (by simpa using starts) (fun leaf => others (some leaf))
    (others none)

theorem accepts {next : Bool → Production β} (within : .endOfInput ≠ kind)
    (starts : Continues language [] kind)
    (others : ∀ leaf : Option (Leaf [kind]),
      Offers (next leaf.isSome) fun tokens => language (optionalTokens leaf ++ tokens)) :
    Offers (Production.accepts kind >>= next) language := by
  rw [Production.accepts_eq, bind_assoc]
  apply accept within starts
  intro leaf
  have same : (leaf.map Leaf.token).isSome = leaf.isSome := Option.isSome_map
  rw [pure_bind, same]
  exact others leaf

theorem consume {next : Token → Production β} (within : .endOfInput ≠ kind)
    (starts : Continues language [] kind)
    (others : ∀ leaf : Leaf [kind],
      Offers (next leaf.token) fun tokens => language (leaf.token :: tokens)) :
    Offers (Production.consume kind >>= next) language := by
  rw [Production.consume_eq, bind_assoc]
  apply accept within starts
  intro leaf
  cases leaf with
  | some leaf => exact others leaf
  | none =>
      obtain ⟨token, rest, _, word⟩ := starts
      have stops : (Production.unexpected >>= next) = Production.unexpected := rfl
      change Offers (Production.unexpected >>= next) language
      rw [stops]
      exact unexpected ⟨_, word⟩

end Offers

-- A test for one more item of a repetition: if it holds, there is a token left, and the
-- test has taken a lead; if not, it has taken nothing.
def OffersMore (more : Production Bool) (language lead : List Token → Prop) : Prop :=
  ∀ state : State, state.stream.last.kind = .endOfInput → Ends (more state)
    (fun found middle => ∃ taken, Passed state taken middle ∧
      Accounted language state taken middle ∧
        if found then state.stream.upcoming ≠ [] ∧ lead taken else taken = [])
    (fun _ _ => False)

section Many

variable {α : Type} {more : Production Bool} {item : Production α}
  {language lead : List Token → Prop} (round : List Token → Prop)

theorem OffersMore.accepts {kind : TokenKind} (within : .endOfInput ≠ kind)
    (starts : Continues language [] kind) :
    OffersMore (Production.accepts kind) language fun taken =>
      ∃ leaf : Leaf [kind], taken = [leaf.token] := by
  intro state ended
  rw [Production.accepts_eq, Ends.bind, Production.accept, Production.accept_any_ends]
  by_cases wanted : state.stream.isAny [kind] = true
  · have here : state.At state.stream.upcoming state.stream.last state.scope := ⟨rfl, rfl, rfl⟩
    obtain ⟨leaf, rest, next, _⟩ := Takes.front ended here (by simpa using within) wanted
    rw [if_pos wanted]
    exact ⟨[leaf.token], Passed.advance next, Accounted.advance, by simp [next], leaf, rfl⟩
  · rw [if_neg wanted]
    exact ⟨[], Passed.ask [kind], Accounted.ask (by simpa using starts), rfl⟩

theorem OffersMore.check {kinds : List TokenKind} (within : .endOfInput ∉ kinds)
    (starts : ∀ kind ∈ kinds, Continues language [] kind) :
    OffersMore (Production.checkAny kinds) language fun taken => taken = [] := by
  intro state ended
  have passed : Passed state [] { state with stream := state.stream.ask kinds } := Passed.ask kinds
  by_cases wanted : state.stream.isAny kinds = true
  · have here : state.At state.stream.upcoming state.stream.last state.scope := ⟨rfl, rfl, rfl⟩
    obtain ⟨leaf, rest, next, _⟩ := Takes.front ended here within wanted
    exact ⟨[], passed, Accounted.ask starts, by rw [if_pos wanted]; exact ⟨by simp [next], rfl⟩⟩
  · exact ⟨[], passed, Accounted.ask starts, by rw [if_neg wanted]⟩

theorem OffersAt.many_up_to (asks : OffersMore more language lead)
    (offers : ∀ taken, lead taken → Offers item fun tokens => round (taken ++ tokens))
    (nil : language []) (nonempty : ∀ first, round first → first ≠ [])
    (cons : ∀ first others, round first → language others → language (first ++ others))
    (bound : Nat) (state : State) (ended : state.stream.last.kind = .endOfInput)
    (enough : state.stream.remaining ≤ bound) :
    OffersAt (Production.manyUpTo more item bound) language state := by
  induction bound generalizing state with
  | zero =>
      unfold Production.manyUpTo OffersAt
      rw [Ends.bind]
      apply (asks state ended).mono
      · intro found middle run
        obtain ⟨taken, passed, accounted, result⟩ := run
        cases found with
        | true => exact absurd (List.eq_nil_of_length_eq_zero (Nat.le_zero.1 enough)) result.1
        | false =>
            change taken = [] at result
            subst result
            exact OffersAt.resume passed accounted (pure [] nil)
      · exact fun _ _ impossible => impossible.elim
  | succ bound ih =>
      unfold Production.manyUpTo OffersAt
      rw [Ends.bind]
      apply (asks state ended).mono
      · intro found middle run
        obtain ⟨taken, passed, accounted, result⟩ := run
        cases found with
        | false =>
            change taken = [] at result
            subst result
            exact OffersAt.resume passed accounted (pure [] nil)
        | true =>
            have endedToo := passed.ended ended
            apply OffersAt.resume passed accounted
            rw [if_pos rfl]
            apply OffersAt.bind (offers taken result.2 middle endedToo)
            · intro word inside
              exact ⟨[], by simpa using cons _ [] inside nil⟩
            · intro value after tokens passedToo inside
              have positive := List.length_pos_iff.2 (nonempty _ inside)
              have fewer : after.stream.remaining ≤ bound := by
                simp only [TokenStream.remaining, passed.upcoming_eq, passedToo.upcoming_eq,
                  List.length_append] at enough positive ⊢
                omega
              apply map
              apply (ih after (passedToo.ended endedToo) fewer).mono
              intro others word
              rw [← List.append_assoc]
              exact cons _ others inside word
      · exact fun _ _ impossible => impossible.elim

theorem Offers.many (asks : OffersMore more language lead)
    (offers : ∀ taken, lead taken → Offers item fun tokens => round (taken ++ tokens))
    (nil : language []) (nonempty : ∀ first, round first → first ≠ [])
    (cons : ∀ first others, round first → language others → language (first ++ others)) :
    Offers (Production.many more item) language :=
  fun state ended => OffersAt.many_up_to round asks offers nil nonempty cons _ state ended (Nat.le_refl _)

end Many

end TreeQuery.Grammar
