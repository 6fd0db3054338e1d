import TreeQuery.Proofs.Grammar.Derivation
import TreeQuery.Proofs.Grammar.Local.Level
import TreeQuery.Proofs.Grammar.Offers.Level

/- Where a run stops at a token: the tokens in front of it begin a pattern, with it they
   do not, and the kinds that were expected are those with which they would. -/
set_option autoImplicit false

namespace TreeQuery

theorem TokenStream.of_tokens_eq {body : List Token} {final : Token}
    (ended : final.kind = .endOfInput) (before : ∀ token ∈ body, token.kind ≠ .endOfInput) :
    TokenStream.ofTokens (body ++ [final]) = ⟨body, final, []⟩ := by
  have upcoming := TokenStream.of_tokens_upcoming ended before
  have skipped : body.find? (·.kind = .endOfInput) = none := by simpa using before
  have last : (TokenStream.ofTokens (body ++ [final])).last = final := by
    simp [TokenStream.ofTokens, List.find?_append, skipped, ended]
  have parts : TokenStream.ofTokens (body ++ [final]) =
      ⟨(TokenStream.ofTokens (body ++ [final])).upcoming,
        (TokenStream.ofTokens (body ++ [final])).last, []⟩ := rfl
  rw [parts, upcoming, last]

namespace Grammar

def Viable (kinds : List TokenKind) : Prop :=
  ∃ word, Derives word ∧ kinds <+: word ++ [.endOfInput]

-- An error at an index: nothing but the kinds in it could have stood there, and before
-- it nothing was wrong.
structure Exact (tokens : List Token) (index : Nat) (unexpected : Unexpected) : Prop where
  found : tokens[index]? = some unexpected.found
  expected : ∀ kind, kind ∈ unexpected.expected.kinds ↔
    Viable ((tokens.take index).map Token.kind ++ [kind])
  apart : unexpected.found.kind ∉ unexpected.expected.kinds
  nonempty : unexpected.expected.kinds ≠ []
  first : ∀ length, Viable ((tokens.take length).map Token.kind) ↔ length ≤ index

def Finished (word : List Token) : Prop :=
  ∃ (phrase : PatternPhrase) (final : Token), final.kind = .endOfInput ∧
    word = phrase.tokens ++ [final]

theorem Viable.of_prefix {kinds others : List TokenKind} (viable : Viable others)
    (start : kinds <+: others) : Viable kinds := by
  obtain ⟨word, derives, inside⟩ := viable
  exact ⟨word, derives, start.trans inside⟩

theorem Finished.viable {taken rest : List Token} (finished : Finished (taken ++ rest)) :
    Viable (taken.map Token.kind) := by
  obtain ⟨phrase, final, ended, same⟩ := finished
  refine ⟨phrase.tokens.map Token.kind, ⟨phrase, rfl⟩, rest.map Token.kind, ?_⟩
  rw [← List.map_append, same, List.map_append, List.map_singleton, ended]

theorem Continues.viable {taken : List Token} {kind : TokenKind}
    (continues : Continues Finished taken kind) : Viable (taken.map Token.kind ++ [kind]) := by
  obtain ⟨token, rest, same, finished⟩ := continues
  rw [List.append_cons] at finished
  have viable := finished.viable
  rw [List.map_append, List.map_singleton, same] at viable
  exact viable

theorem Viable.spelt {taken : List Token} (token : Token)
    (viable : Viable (taken.map Token.kind ++ [token.kind])) :
    ∃ (rest : List Token) (last : Token), last.kind = .endOfInput ∧ rest.headD last = token ∧
      ∃ phrase : PatternPhrase, phrase.tokens = taken ++ rest := by
  obtain ⟨word, derives, kinds, same⟩ := viable
  rw [List.append_assoc, List.singleton_append] at same
  by_cases atEnd : kinds = []
  · subst atEnd
    obtain ⟨sameWord, sameKind⟩ := List.append_inj' same rfl
    refine ⟨[], token, List.singleton_inj.1 sameKind, rfl, ?_⟩
    rw [← sameWord, ← List.append_nil taken] at derives
    exact derives_iff.1 derives
  · have split : word = taken.map Token.kind ++ token.kind :: kinds.dropLast := by
      have shorter := congrArg List.dropLast same
      rw [List.dropLast_concat, List.dropLast_append_of_ne_nil (List.cons_ne_nil _ _),
        List.dropLast_cons_of_ne_nil atEnd] at shorter
      exact shorter.symm
    refine ⟨token :: kinds.dropLast.map (⟨·, [], .nowhere⟩), ⟨.endOfInput, [], .nowhere⟩, rfl, rfl, ?_⟩
    apply derives_iff.1
    have spelt : (taken ++ token :: kinds.dropLast.map (⟨·, [], .nowhere⟩)).map Token.kind = word := by
      rw [split, List.map_append, List.map_cons, List.map_map]
      simp [Function.comp_def]
    rw [spelt]
    exact derives

def upToEnd (settings : Settings) : Production Described := do
  let top ← (level settings maxNesting).subNode false Relation.root
  let _ ← Production.consume .semicolon
  return top

theorem whole_pattern_eq (settings : Settings) : wholePattern settings =
    (upToEnd settings >>= fun top => Production.consume .endOfInput >>= fun _ => pure top) := by
  unfold wholePattern upToEnd
  simp only [bind_assoc, pure_bind]

theorem up_to_end_local (settings : Settings) : Local (upToEnd settings) := by
  apply ((level_local settings maxNesting).subNode false Relation.root).bind
  intro top
  exact (Local.consume (by decide)).bind fun _ => Local.pure top

theorem up_to_end_offers (settings : Settings) :
    Offers (upToEnd settings) (Spelt PatternPhrase.tokens) := by
  unfold upToEnd
  apply Offers.bind ((level_offers settings maxNesting).subNode false Relation.root)
  · intro word spelt
    obtain ⟨top, same⟩ := spelt
    exact ⟨_, ⟨top, default⟩, by rw [PatternPhrase.tokens, same]⟩
  intro top taken spelt
  obtain ⟨phrase, same⟩ := spelt
  subst same
  apply Offers.consume (by decide) (.leaf default ⟨⟨phrase, default⟩, rfl⟩)
  intro terminator
  exact Offers.pure _ ⟨⟨phrase, terminator⟩, rfl⟩

-- A run that a token stops has asked for nothing but what goes on, and stops as well on
-- whatever looks the same from there.
structure StoppedRun (settings : Settings) (state after : State) (taken : List Token)
    (unexpected : Unexpected) : Prop where
  stopped : Stopped Finished state after taken
  unexpected_eq : unexpected = after.stream.unexpected
  again : ∀ (rest : List Token) (last : Token), Alike after rest last →
    ∃ other behind, wholePattern settings (state.onto (taken ++ rest) last) =
      .error (.unexpectedToken other) behind

theorem Finished.of_spelt (word : List Token) (spelt : Spelt PatternPhrase.tokens word) :
    ∃ rest, Finished (word ++ rest) := by
  obtain ⟨phrase, same⟩ := spelt
  exact ⟨_, phrase, ⟨.endOfInput, [], .nowhere⟩, rfl, by rw [same]⟩

theorem StoppedRun.at_end {settings : Settings} {state middle : State} {taken : List Token}
    {top : Described} (completed : Completed (Spelt PatternPhrase.tokens) state middle taken)
    (inside : ¬ middle.stream.isAny [.endOfInput] = true)
    (again : ∀ (rest : List Token) (last : Token), Alike middle rest last →
      upToEnd settings (state.onto (taken ++ rest) last) = .ok top (middle.onto rest last)) :
    StoppedRun settings state { middle with stream := middle.stream.ask [.endOfInput] } taken
      (middle.stream.ask [.endOfInput]).unexpected := by
  have passed := completed.passed.trans (Passed.ask [.endOfInput])
  rw [List.append_nil] at passed
  obtain ⟨phrase, same⟩ := completed.word
  have ends : Continues (fun word => Finished (taken ++ word)) [] .endOfInput :=
    ⟨⟨.endOfInput, [], .nowhere⟩, [], rfl, phrase, _, rfl, by rw [same]; rfl⟩
  have asked : Accounted (fun word => Finished (taken ++ word)) middle []
      { middle with stream := middle.stream.ask [.endOfInput] } :=
    Accounted.ask (List.forall_mem_singleton.2 ends)
  have accounted := (completed.accounted.widen Finished.of_spelt).trans asked
  rw [List.append_nil] at accounted
  refine ⟨⟨passed, accounted, Finished.of_spelt taken completed.word⟩, rfl, ?_⟩
  intro rest last alike
  have alikeBefore := (Passed.ask [.endOfInput]).alike alike
  rw [List.nil_append] at alikeBefore
  have insideToo : ¬ (middle.onto rest last).stream.isAny [.endOfInput] = true := by
    rw [alike.is_any]
    exact inside
  have run : wholePattern settings (state.onto (taken ++ rest) last) =
      (Production.consume .endOfInput >>= fun _ => pure top) (middle.onto rest last) := by
    rw [whole_pattern_eq, Production.bind_apply, again rest last alikeBefore]
  rw [run, Production.bind_apply, Production.consume_refused insideToo]
  exact ⟨_, _, rfl⟩

theorem whole_pattern_stops (settings : Settings) (state : State)
    (ended : state.stream.last.kind = .endOfInput) :
    Ends (wholePattern settings state) (fun _ _ => True) (fun error after =>
      ∀ unexpected, error = .unexpectedToken unexpected →
        ∃ taken, StoppedRun settings state after taken unexpected) := by
  have offers := up_to_end_offers settings state ended
  have known := up_to_end_local settings state ended
  rw [whole_pattern_eq, Ends.bind]
  unfold OffersAt at offers
  cases run : upToEnd settings state with
  | error error after =>
      rw [run] at offers known
      intro unexpected isUnexpected
      obtain ⟨same, taken, stopped⟩ := offers unexpected isUnexpected
      obtain ⟨others, passed, again⟩ := known unexpected isUnexpected
      cases stopped.passed.unique passed
      obtain ⟨rest, word⟩ := stopped.started
      obtain ⟨more, finished⟩ := Finished.of_spelt _ word
      rw [List.append_assoc] at finished
      refine ⟨taken, ⟨passed, stopped.accounted.widen Finished.of_spelt, _, finished⟩, same, ?_⟩
      intro rest last alike
      obtain ⟨other, failed⟩ := again rest last alike
      exact ⟨other, _, by rw [whole_pattern_eq, Production.bind_apply, failed]⟩
  | ok top middle =>
      rw [run] at offers known
      obtain ⟨taken, completed⟩ := offers
      obtain ⟨others, passed, again⟩ := known
      cases completed.passed.unique passed
      change Ends ((Production.consume .endOfInput >>= fun _ => pure top) middle) (fun _ _ => True) _
      rw [Ends.bind, Production.consume_ends]
      by_cases atEnd : middle.stream.isAny [.endOfInput] = true
      · rw [if_pos atEnd]
        trivial
      · rw [if_neg atEnd]
        intro unexpected isUnexpected
        cases isUnexpected
        exact ⟨taken, StoppedRun.at_end completed atEnd again⟩

def State.start (body : List Token) (final : Token) : State := ⟨⟨body, final, []⟩, Scope.empty⟩

theorem run_tokens_start {settings : Settings} {body : List Token} {final : Token}
    (ended : final.kind = .endOfInput) (before : ∀ token ∈ body, token.kind ≠ .endOfInput) :
    runTokens settings (body ++ [final]) = wholePattern settings (.start body final) := by
  unfold runTokens
  rw [TokenStream.of_tokens_eq ended before]
  rfl

namespace StoppedRun

variable {settings : Settings} {body taken rest : List Token} {final last : Token} {after : State}
  {unexpected : Unexpected} (stops : StoppedRun settings (.start body final) after taken unexpected)

include stops

theorem no_phrase (alike : Alike after rest last) (phrase : PatternPhrase) :
    phrase.tokens ≠ taken ++ rest := by
  intro same
  have here : State.At ((State.start body final).onto (taken ++ rest) last) phrase.tokens last
      Scope.empty := ⟨same.symm, rfl, rfl⟩
  have reads := whole_pattern_reads settings phrase alike.ended here
  obtain ⟨other, behind, failed⟩ := stops.again rest last alike
  rw [failed] at reads
  exact reads

theorem current_not_viable : ¬ Viable (taken.map Token.kind ++ [after.stream.current.kind]) := by
  intro viable
  obtain ⟨rest, last, ended, next, phrase, same⟩ := viable.spelt after.stream.current
  exact stops.no_phrase ⟨ended, .inl next⟩ phrase same

theorem asked_iff (kind : TokenKind) :
    kind ∈ after.stream.asked ↔ Viable (taken.map Token.kind ++ [kind]) := by
  have sound : ∀ kind ∈ after.stream.asked, Viable (taken.map Token.kind ++ [kind]) := by
    intro kind asked
    rcases stops.stopped.accounted kind asked with ⟨_, before⟩ | continues
    · cases before
    · exact continues.viable
  apply Iff.intro (sound kind)
  intro viable
  by_cases asked : kind ∈ after.stream.asked
  · exact asked
  -- A token of a kind that was not asked for is refused like the one that was there.
  · have unasked : after.stream.current.kind ∉ after.stream.asked :=
      fun known => stops.current_not_viable (sound _ known)
    obtain ⟨rest, last, ended, next, phrase, same⟩ :=
      Viable.spelt ⟨kind, [], .nowhere⟩ viable
    have alike : Alike after rest last := ⟨ended, .inr ⟨unasked, by rw [nextKind, next]; exact asked⟩⟩
    exact absurd same (stops.no_phrase alike phrase)

theorem nonempty (before : ∀ token ∈ body, token.kind ≠ .endOfInput) :
    after.stream.asked ≠ [] := by
  obtain ⟨rest, finished⟩ := stops.stopped.started
  have upcoming := stops.stopped.passed.upcoming_eq
  cases rest with
  | nil =>
      obtain ⟨phrase, last, ended, same⟩ := finished
      rw [List.append_nil] at same
      have inside : last ∈ body := by
        rw [show body = taken ++ after.stream.upcoming from upcoming, same]
        simp
      exact absurd ended (before last inside)
  | cons token rest =>
      have viable := Continues.viable ⟨token, rest, rfl, finished⟩
      exact List.ne_nil_of_mem ((stops.asked_iff token.kind).2 viable)

theorem exact (before : ∀ token ∈ body, token.kind ≠ .endOfInput) :
    Exact (body ++ [final]) taken.length unexpected := by
  have split : body ++ [final] = taken ++ (after.stream.upcoming ++ [final]) := by
    rw [show body = taken ++ after.stream.upcoming from stops.stopped.passed.upcoming_eq,
      List.append_assoc]
  have next : ∃ others, after.stream.upcoming ++ [final] = after.stream.current :: others := by
    unfold TokenStream.current
    rw [show after.stream.last = final from stops.stopped.passed.last_eq]
    cases after.stream.upcoming with
    | nil => exact ⟨[], rfl⟩
    | cons token rest => exact ⟨rest ++ [final], rfl⟩
  obtain ⟨others, next⟩ := next
  have same := stops.unexpected_eq
  subst same
  have expected : ∀ kind, kind ∈ after.stream.unexpected.expected.kinds ↔
      Viable (taken.map Token.kind ++ [kind]) :=
    fun kind => (Expected.mem_kinds_of_list _ kind).trans (stops.asked_iff kind)
  rw [split, next]
  constructor
  · rw [List.getElem?_append_right (Nat.le_refl _), Nat.sub_self]
    rfl
  · rw [List.take_left]
    exact expected
  · exact fun known => stops.current_not_viable ((expected _).1 known)
  · obtain ⟨kind, asked⟩ := List.exists_mem_of_ne_nil _ (stops.nonempty before)
    exact List.ne_nil_of_mem ((expected kind).2 ((stops.asked_iff kind).1 asked))
  · intro length
    by_cases within : length ≤ taken.length
    · obtain ⟨rest, finished⟩ := stops.stopped.started
      rw [List.take_append_of_le_length within]
      exact ⟨fun _ => within, fun _ =>
        finished.viable.of_prefix ((List.take_prefix length taken).map Token.kind)⟩
    · have start : taken ++ [after.stream.current] <+:
          (taken ++ after.stream.current :: others).take length := by
        have enough : (taken ++ [after.stream.current]).length ≤ length := by
          rw [List.length_append, List.length_singleton]
          omega
        exact List.prefix_take_iff.2 ⟨⟨others, (List.append_cons _ _ _).symm⟩, enough⟩
      have refused : ¬ Viable (((taken ++ after.stream.current :: others).take length).map Token.kind) := by
        intro viable
        have shorter := viable.of_prefix (start.map Token.kind)
        rw [List.map_append] at shorter
        exact stops.current_not_viable shorter
      exact ⟨fun viable => absurd viable refused, fun bound => absurd bound within⟩

end StoppedRun

/-- Where a token stops the reading of tokens that end in the end of the input and hold no
other, the error is exact: it names that token and just the kinds with which the tokens in
front of it could have gone on, and before it nothing was wrong. -/
theorem parse_tokens_unexpected_exact (resolver : Resolver) (body : List Token) (final : Token)
    (ended : final.kind = .endOfInput) (before : ∀ token ∈ body, token.kind ≠ .endOfInput)
    (unexpected : Unexpected)
    (refused : parseTokens resolver (body ++ [final]) = .error (.unexpectedToken unexpected)) :
    ∃ (index : Nat) (after : State),
      runTokens ⟨resolver, true⟩ (body ++ [final]) = .error (.unexpectedToken unexpected) after ∧
        after.stream.upcoming = body.drop index ∧ Exact (body ++ [final]) index unexpected := by
  obtain ⟨after, run⟩ := parse_tokens_with_eq_error.1 refused
  have stops := whole_pattern_stops ⟨resolver, true⟩ (.start body final) ended
  rw [← run_tokens_start ended before, run] at stops
  obtain ⟨taken, stops⟩ := stops unexpected rfl
  have upcoming : body = taken ++ after.stream.upcoming := stops.stopped.passed.upcoming_eq
  exact ⟨taken.length, after, run, by rw [upcoming, List.drop_left], stops.exact before⟩

theorem parse_tokens_unexpected_exact_relation :
    ∃ (tokens : List Token) (unexpected : Unexpected) (index : Nat),
      parseTokens .standard tokens = .error (.unexpectedToken unexpected) ∧
        unexpected.found.kind = .semicolon ∧ Exact tokens index unexpected := by
  have refused : parseTokens .standard
      ([⟨.identifier, ['S'], .nowhere⟩, ⟨.operator, ['<'], .nowhere⟩,
        ⟨.semicolon, [';'], .nowhere⟩] ++ [⟨.endOfInput, [], .nowhere⟩]) =
      .error (.unexpectedToken ⟨⟨.semicolon, [';'], .nowhere⟩,
        ⟨[.identifier, .number, .blank, .regex, .leftParen, .bang, .atSign, .equals, .tilde]⟩⟩) := by
    rfl
  obtain ⟨index, _, _, _, exactly⟩ :=
    parse_tokens_unexpected_exact .standard _ _ rfl (by decide) _ refused
  exact ⟨_, _, index, refused, rfl, exactly⟩

end Grammar

end TreeQuery
