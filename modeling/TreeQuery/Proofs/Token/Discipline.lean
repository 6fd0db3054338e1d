import TreeQuery.Proofs.Grammar.Derivation
import TreeQuery.Proofs.Token.Cursor
import Mathlib.Data.List.DropRight
import Mathlib.Data.List.Induction

/- What a stream of tokens keeps to, whatever the list and whatever is asked of it. It gives the
   tokens of the list in their order up to the first end of input, and that one ever after; what
   fails takes nothing; and an error tells just the kinds that were asked for since a token was
   taken. -/
set_option autoImplicit false

namespace TreeQuery

def takenTokens (steps : List StreamStep) : List Token :=
  steps.filterMap fun step => step.answer.token?

def askedSince (steps : List StreamStep) : List TokenKind :=
  (steps.rtakeWhile fun step => step.answer.token?.isNone).flatMap fun step => step.operation.kinds

section Steps

variable (steps : List StreamStep) {step : StreamStep}

theorem taken_tokens_concat : takenTokens (steps ++ [step]) =
    takenTokens steps ++ step.answer.token?.toList := by
  cases token : step.answer.token? <;> simp [takenTokens, token]

theorem asked_since_taken (took : step.answer.token? ≠ none) :
    askedSince (steps ++ [step]) = [] := by
  rw [askedSince, List.rtakeWhile_concat_neg _ _ _ (by simpa using took)]
  rfl

theorem asked_since_kept (kept : step.answer.token? = none) :
    askedSince (steps ++ [step]) = askedSince steps ++ step.operation.kinds := by
  rw [askedSince, List.rtakeWhile_concat_pos _ _ _ (by simp [kept])]
  simp [askedSince]

end Steps

theorem Expected.of_list_increasing (kinds : List TokenKind) :
    (Expected.ofList kinds).kinds.Pairwise fun kind later => kind.ctorIdx < later.ctorIdx := by
  have increasing : TokenKind.all.Pairwise fun kind later => kind.ctorIdx < later.ctorIdx := by
    decide
  exact increasing.filter _

namespace TokenCursor

def lastPlace (tokens : List Token) : Nat :=
  (terminated tokens).findIdx fun token => token.kind = .endOfInput

section Start

variable (tokens : List Token)

theorem terminated_split : ∃ more, terminated tokens = tokens ++ more := by
  unfold terminated
  split
  · exact ⟨[], by simp⟩
  · exact ⟨_, rfl⟩

theorem terminated_ahead : ∃ behind, terminated tokens =
    (TokenStream.ofTokens tokens).upcoming ++ (TokenStream.ofTokens tokens).last :: behind := by
  cases found : tokens.find? (fun token => token.kind = .endOfInput) with
  | none =>
      have unended : Grammar.Unended tokens := by
        intro token inside
        simpa using List.find?_eq_none.1 found token inside
      have apart : tokens.getLast?.map Token.kind ≠ some .endOfInput := by
        intro same
        obtain ⟨last, isLast, kind⟩ := Option.map_eq_some_iff.1 same
        exact unended last (List.mem_of_getLast? isLast) kind
      have upcoming := @TokenStream.of_tokens_append tokens [] unended
      rw [List.append_nil] at upcoming
      rw [upcoming]
      exact ⟨[], by simp [terminated, apart, TokenStream.ofTokens, found]⟩
  | some ending =>
      have last : (TokenStream.ofTokens tokens).last = ending := by
        simp [TokenStream.ofTokens, found]
      obtain ⟨isEnd, front, back, rfl, unended⟩ := List.find?_eq_some_iff_append.1 found
      have upcoming : (TokenStream.ofTokens (front ++ ending :: back)).upcoming = front := by
        have atEnd : ending.kind = .endOfInput := by simpa using isEnd
        rw [TokenStream.of_tokens_append (fun token inside => by simpa using unended token inside)]
        simp [atEnd]
      obtain ⟨more, split⟩ := terminated_split (front ++ ending :: back)
      exact ⟨back ++ more, by rw [split, upcoming, last]; simp⟩

theorem of_tokens_reads : (ofTokens tokens).Reads (TokenStream.ofTokens tokens) :=
  ⟨terminated_ahead tokens, TokenStream.of_tokens_unended tokens,
    TokenStream.of_tokens_last_kind tokens, rfl⟩

end Start

theorem respond_at_cases (cursor : TokenCursor) (token : Token) (operation : StreamOperation) :
    ((cursor.respondAt token operation).1.token? = some token ∧
        (cursor.respondAt token operation).2 = cursor.pass token) ∨
      ((cursor.respondAt token operation).1.token? = none ∧
        (cursor.respondAt token operation).2 = cursor.ask operation.kinds) := by
  cases operation with
  | check kind => exact .inr ⟨rfl, rfl⟩
  | checkAny kinds => exact .inr ⟨rfl, rfl⟩
  | accept kind =>
      by_cases found : token.kind = kind
      · simp [respondAt, found, StreamAnswer.token?]
      · simp [respondAt, found, StreamAnswer.token?, StreamOperation.kinds]
  | consume kind =>
      by_cases found : token.kind = kind
      · simp [respondAt, found, StreamAnswer.token?, Except.toOption]
      · simp [respondAt, found, StreamAnswer.token?, StreamOperation.kinds, Except.toOption]
  | advance => exact .inl ⟨rfl, rfl⟩
  | unexpected => simp [respondAt, StreamAnswer.token?, StreamOperation.kinds, ask]

theorem respond_at_error {cursor : TokenCursor} {token : Token} {operation : StreamOperation}
    {error : Unexpected} (failed : (cursor.respondAt token operation).1.error? = some error) :
    (cursor.respondAt token operation).1.token? = none ∧
      error = ⟨token, Expected.ofList (cursor.asked ++ operation.kinds)⟩ := by
  cases operation with
  | accept kind =>
      by_cases found : token.kind = kind <;> simp [respondAt, found, StreamAnswer.error?] at failed
  | consume kind =>
      by_cases found : token.kind = kind
      · simp [respondAt, found, StreamAnswer.error?] at failed
      · simp only [respondAt, if_neg found, StreamAnswer.error?, Option.some.injEq] at failed ⊢
        exact ⟨rfl, failed.symm⟩
  | unexpected =>
      simp only [respondAt, StreamAnswer.error?, Option.some.injEq] at failed ⊢
      exact ⟨rfl, by rw [← failed, StreamOperation.kinds, List.append_nil]; rfl⟩
  | _ => cases failed

theorem is_end_iff {tokens : List Token} {place : Nat} {token : Token}
    (found : (terminated tokens)[place]? = some token) (upTo : place ≤ lastPlace tokens) :
    token.kind = .endOfInput ↔ place = lastPlace tokens := by
  obtain ⟨inside, rfl⟩ := List.getElem?_eq_some_iff.1 found
  refine ⟨fun isEnd => ?_, fun atLast => ?_⟩
  · by_contra apart
    have before : place < lastPlace tokens := by omega
    simpa [isEnd] using List.not_of_lt_findIdx before
  · subst atLast
    exact of_decide_eq_true (List.findIdx_getElem (w := inside))

structure Recorded (tokens : List Token) (steps : List StreamStep)
    (cursor : TokenCursor) : Prop where
  tokens_eq : cursor.tokens = terminated tokens
  place_eq : cursor.place = min (takenTokens steps).length (lastPlace tokens)
  taken : ∀ index < (takenTokens steps).length,
    (takenTokens steps)[index]? = (terminated tokens)[min index (lastPlace tokens)]?
  asked_eq : cursor.asked = askedSince steps

namespace Recorded

variable {tokens : List Token} {steps : List StreamStep} {cursor : TokenCursor} {token : Token}

theorem start (tokens : List Token) : Recorded tokens [] (ofTokens tokens) :=
  ⟨rfl, (Nat.zero_min _).symm, fun _ inside => absurd inside (Nat.not_lt_zero _), rfl⟩

theorem pass (recorded : Recorded tokens steps cursor) (found : cursor.current? = some token)
    {step : StreamStep} (took : step.answer.token? = some token) :
    Recorded tokens (steps ++ [step]) (cursor.pass token) := by
  obtain ⟨tokensEq, placeEq, taken, -⟩ := recorded
  rw [current?, tokensEq] at found
  have isEnd := is_end_iff found (placeEq ▸ Nat.min_le_right _ _)
  have length : (takenTokens (steps ++ [step])).length = (takenTokens steps).length + 1 := by
    simp [taken_tokens_concat, took]
  refine ⟨tokensEq, ?_, ?_, (asked_since_taken steps (by simp [took])).symm⟩
  · change (if token.kind = .endOfInput then cursor.place else cursor.place + 1) = _
    by_cases atLast : cursor.place = lastPlace tokens
    · rw [if_pos (isEnd.2 atLast)]
      omega
    · rw [if_neg (atLast ∘ isEnd.1)]
      omega
  · intro index inside
    rw [taken_tokens_concat, took, Option.toList_some]
    rcases Nat.lt_or_ge index (takenTokens steps).length with before | new
    · rw [List.getElem?_append_left before]
      exact taken index before
    · obtain rfl : index = (takenTokens steps).length := by omega
      rw [List.getElem?_concat_length, ← placeEq]
      exact found.symm

theorem ask (recorded : Recorded tokens steps cursor) {step : StreamStep}
    (kept : step.answer.token? = none) :
    Recorded tokens (steps ++ [step]) (cursor.ask step.operation.kinds) := by
  obtain ⟨tokensEq, placeEq, taken, askedEq⟩ := recorded
  have same : takenTokens (steps ++ [step]) = takenTokens steps := by
    simp [taken_tokens_concat, kept]
  refine ⟨tokensEq, same ▸ placeEq, same ▸ taken, ?_⟩
  rw [asked_since_kept steps kept, ← askedEq]
  rfl

theorem respond_at (recorded : Recorded tokens steps cursor) (found : cursor.current? = some token)
    (operation : StreamOperation) :
    Recorded tokens (steps ++ [⟨operation, (cursor.respondAt token operation).1⟩])
      (cursor.respondAt token operation).2 := by
  obtain ⟨took, next⟩ | ⟨kept, next⟩ := cursor.respond_at_cases token operation
  · rw [next]
    exact recorded.pass found took
  · rw [next]
    exact recorded.ask kept

end Recorded

theorem run_recorded (tokens : List Token) (operations : List StreamOperation) :
    ∃ cursor, (ofTokens tokens).run? operations =
        some (((TokenStream.ofTokens tokens).run operations).1, cursor) ∧
      cursor.Reads ((TokenStream.ofTokens tokens).run operations).2 ∧
        Recorded tokens ((TokenStream.ofTokens tokens).run operations).1 cursor := by
  induction operations using List.reverseRecOn with
  | nil => exact ⟨_, rfl, of_tokens_reads tokens, Recorded.start tokens⟩
  | append_singleton operations operation ih =>
      obtain ⟨cursor, run, reads, recorded⟩ := ih
      obtain ⟨answer, next⟩ := reads.respond_at operation
      rw [TokenStream.run_concat, run_concat, run, ← answer]
      refine ⟨_, ?_, next, recorded.respond_at reads.current operation⟩
      simp [respond?, reads.current]

end TokenCursor

open TokenCursor in
-- What holds of a stream of tokens, and of the cursor that reads them by place, after some steps.
structure Disciplined (tokens : List Token) (steps : List StreamStep) (cursor : TokenCursor)
    (stream : TokenStream) : Prop where
  inside : cursor.place < cursor.tokens.length
  current : cursor.current? = some stream.current
  taken : ∀ index < (takenTokens steps).length,
    (takenTokens steps)[index]? = (terminated tokens)[min index (lastPlace tokens)]?
  kept : ∀ operation, (stream.respond operation).1.token? = none →
    ∃ next, cursor.respond? operation = some ((stream.respond operation).1, next) ∧
      next.place = cursor.place ∧ (stream.respond operation).2.current = stream.current
  told : ∀ operation error, (stream.respond operation).1.error? = some error →
    error.found = stream.current ∧
      error.expected.kinds.Pairwise (fun kind later => kind.ctorIdx < later.ctorIdx) ∧
        ∀ kind, kind ∈ error.expected.kinds ↔
          kind ∈ askedSince (steps ++ [⟨operation, (stream.respond operation).1⟩])

namespace TokenCursor

variable {tokens : List Token} {steps : List StreamStep} {cursor : TokenCursor}
  {stream : TokenStream}

theorem Reads.kept (reads : cursor.Reads stream) {operation : StreamOperation}
    (nothing : (stream.respond operation).1.token? = none) :
    ∃ next, cursor.respond? operation = some ((stream.respond operation).1, next) ∧
      next.place = cursor.place ∧ (stream.respond operation).2.current = stream.current := by
  obtain ⟨answer, after⟩ := reads.respond_at operation
  rw [← answer] at nothing
  obtain ⟨took, -⟩ | ⟨-, next⟩ := cursor.respond_at_cases stream.current operation
  · rw [took] at nothing
    cases nothing
  · rw [next] at after
    refine ⟨cursor.ask operation.kinds, ?_, rfl, ?_⟩
    · rw [respond?, reads.current, Option.map_some, ← answer, ← next]
    · exact Option.some.inj (after.current.symm.trans reads.current)

theorem Reads.told (reads : cursor.Reads stream) (recorded : Recorded tokens steps cursor)
    {operation : StreamOperation} {error : Unexpected}
    (failed : (stream.respond operation).1.error? = some error) :
    error = ⟨stream.current, Expected.ofList
      (askedSince (steps ++ [⟨operation, (stream.respond operation).1⟩]))⟩ := by
  obtain ⟨answer, -⟩ := reads.respond_at operation
  rw [← answer] at failed ⊢
  obtain ⟨kept, rfl⟩ := respond_at_error failed
  rw [asked_since_kept steps kept, recorded.asked_eq]

end TokenCursor

/-- A stream of tokens keeps to its list, whatever the list and whatever is asked of it. Read by
its place in the list it gives the same answers, and never fails, as the place stays inside. The
tokens that are taken are those of the list in their order, up to the first end of input and that
one ever after; what takes no token does not move. An error tells, sorted and each once, just the
kinds that were asked for since the last token was taken. -/
theorem TokenStream.run_disciplined (tokens : List Token) (operations : List StreamOperation) :
    ∃ cursor, (TokenCursor.ofTokens tokens).run? operations =
        some (((ofTokens tokens).run operations).1, cursor) ∧
      Disciplined tokens ((ofTokens tokens).run operations).1 cursor
        ((ofTokens tokens).run operations).2 := by
  obtain ⟨cursor, run, reads, recorded⟩ := TokenCursor.run_recorded tokens operations
  refine ⟨cursor, run, reads.place_lt, reads.current, recorded.taken, ?_, ?_⟩
  · exact fun operation nothing => reads.kept nothing
  · intro operation error failed
    obtain rfl := reads.told recorded failed
    exact ⟨rfl, Expected.of_list_increasing _, Expected.mem_kinds_of_list _⟩

-- The stream stays at an end in the middle of the list.
example :
    let mark : Token := ⟨.bang, ['!'], .start⟩
    let ending : Token := ⟨.endOfInput, [], .start⟩
    let tokens := [mark, ending, ⟨.hash, ['#'], .start⟩]
    takenTokens ((TokenStream.ofTokens tokens).run [.accept .bang, .consume .hash, .advance,
      .check .hash, .advance]).1 = [mark, ending, ending] := by
  decide

end TreeQuery
