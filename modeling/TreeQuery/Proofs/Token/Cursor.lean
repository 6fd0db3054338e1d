import TreeQuery.Token.Stream

/- Streams of tokens, read by a place in the list. An end of input is put behind a list whose last
   token is none, and the place never goes beyond the first end in the list. So there always is a
   token at the place, and a stream answers every operation as the list and the place do. -/
set_option autoImplicit false

namespace TreeQuery

inductive StreamOperation where
  | check (kind : TokenKind)
  | checkAny (kinds : List TokenKind)
  | accept (kind : TokenKind)
  | consume (kind : TokenKind)
  | advance
  | unexpected

def StreamOperation.kinds : StreamOperation → List TokenKind
  | check kind => [kind]
  | checkAny kinds => kinds
  | accept kind => [kind]
  | consume kind => [kind]
  | advance => []
  | unexpected => []

inductive StreamAnswer where
  | checked (found : Bool)
  | accepted (token : Option Token)
  | consumed (result : Except Unexpected Token)
  | advanced (token : Token)
  | refused (error : Unexpected)

namespace StreamAnswer

def token? : StreamAnswer → Option Token
  | checked _ => none
  | accepted token => token
  | consumed result => result.toOption
  | advanced token => some token
  | refused _ => none

def error? : StreamAnswer → Option Unexpected
  | consumed (.error error) => some error
  | refused error => some error
  | _ => none

end StreamAnswer

structure StreamStep where
  operation : StreamOperation
  answer : StreamAnswer

namespace TokenStream

def respond (stream : TokenStream) : StreamOperation → StreamAnswer × TokenStream
  | .check kind => (.checked (stream.isAny [kind]), stream.ask [kind])
  | .checkAny kinds => (.checked (stream.isAny kinds), stream.ask kinds)
  | .accept kind => (.accepted (stream.accept kind).1, (stream.accept kind).2)
  | .consume kind => (.consumed (stream.consume kind).1, (stream.consume kind).2)
  | .advance => (.advanced stream.current, stream.advance)
  | .unexpected => (.refused stream.unexpected, stream)

def run (stream : TokenStream) (operations : List StreamOperation) :
    List StreamStep × TokenStream :=
  operations.foldl (fun (steps, current) operation =>
    let (answer, next) := current.respond operation
    (steps ++ [⟨operation, answer⟩], next)) ([], stream)

theorem run_concat (stream : TokenStream) (operations : List StreamOperation)
    (operation : StreamOperation) : stream.run (operations ++ [operation]) =
      ((stream.run operations).1 ++ [⟨operation, ((stream.run operations).2.respond operation).1⟩],
        ((stream.run operations).2.respond operation).2) := by
  simp [run]

end TokenStream

structure TokenCursor where
  tokens : List Token
  place : Nat
  asked : List TokenKind

namespace TokenCursor

-- An end of input is put behind a list whose last token is none, at the place of that token.
def terminated (tokens : List Token) : List Token :=
  if tokens.getLast?.map Token.kind = some .endOfInput then tokens
  else tokens ++ [⟨.endOfInput, [], (tokens.getLast?.map Token.position).getD .nowhere⟩]

def ofTokens (tokens : List Token) : TokenCursor := ⟨terminated tokens, 0, []⟩

def current? (cursor : TokenCursor) : Option Token := cursor.tokens[cursor.place]?

def ask (cursor : TokenCursor) (kinds : List TokenKind) : TokenCursor :=
  { cursor with asked := cursor.asked ++ kinds }

def pass (cursor : TokenCursor) (token : Token) : TokenCursor :=
  { cursor with
    place := if token.kind = .endOfInput then cursor.place else cursor.place + 1, asked := [] }

def refusal (cursor : TokenCursor) (token : Token) : Unexpected :=
  ⟨token, Expected.ofList cursor.asked⟩

def respondAt (cursor : TokenCursor) (token : Token) : StreamOperation → StreamAnswer × TokenCursor
  | .check kind => (.checked (token.kind = kind), cursor.ask [kind])
  | .checkAny kinds => (.checked (kinds.contains token.kind), cursor.ask kinds)
  | .accept kind =>
      if token.kind = kind then (.accepted (some token), cursor.pass token)
      else (.accepted none, cursor.ask [kind])
  | .consume kind =>
      if token.kind = kind then (.consumed (.ok token), cursor.pass token)
      else (.consumed (.error ((cursor.ask [kind]).refusal token)), cursor.ask [kind])
  | .advance => (.advanced token, cursor.pass token)
  | .unexpected => (.refused (cursor.refusal token), cursor)

-- Every operation looks at the token at the place, and fails if there is none.
def respond? (cursor : TokenCursor) (operation : StreamOperation) :
    Option (StreamAnswer × TokenCursor) :=
  cursor.current?.map fun token => cursor.respondAt token operation

def run? (cursor : TokenCursor) (operations : List StreamOperation) :
    Option (List StreamStep × TokenCursor) :=
  operations.foldlM (fun (steps, current) operation =>
    (current.respond? operation).map fun (answer, next) =>
      (steps ++ [⟨operation, answer⟩], next)) ([], cursor)

theorem run_concat (cursor : TokenCursor) (operations : List StreamOperation)
    (operation : StreamOperation) : cursor.run? (operations ++ [operation]) =
      (cursor.run? operations).bind fun (steps, current) =>
        (current.respond? operation).map fun (answer, next) =>
          (steps ++ [⟨operation, answer⟩], next) := by
  simp [run?, List.foldlM_append]

structure Reads (cursor : TokenCursor) (stream : TokenStream) : Prop where
  ahead : ∃ behind, cursor.tokens.drop cursor.place = stream.upcoming ++ stream.last :: behind
  free : ∀ token ∈ stream.upcoming, token.kind ≠ .endOfInput
  ended : stream.last.kind = .endOfInput
  asked : cursor.asked = stream.asked

namespace Reads

variable {cursor : TokenCursor} {stream : TokenStream}

theorem current (reads : cursor.Reads stream) : cursor.current? = some stream.current := by
  obtain ⟨behind, ahead⟩ := reads.ahead
  rw [current?, ← List.head?_drop, ahead]
  cases upcoming : stream.upcoming <;> simp [TokenStream.current, upcoming]

theorem place_lt (reads : cursor.Reads stream) : cursor.place < cursor.tokens.length := by
  obtain ⟨inside, -⟩ := List.getElem?_eq_some_iff.1 reads.current
  exact inside

theorem ask (reads : cursor.Reads stream) (kinds : List TokenKind) :
    (cursor.ask kinds).Reads (stream.ask kinds) :=
  ⟨reads.ahead, reads.free, reads.ended, congrArg (· ++ kinds) reads.asked⟩

theorem pass (reads : cursor.Reads stream) : (cursor.pass stream.current).Reads stream.advance := by
  obtain ⟨⟨behind, ahead⟩, free, ended, -⟩ := reads
  cases upcoming : stream.upcoming with
  | nil =>
      have atEnd : stream.current.kind = .endOfInput := by
        rw [TokenStream.current, upcoming]
        exact ended
      refine ⟨⟨behind, ?_⟩, by simp [TokenStream.advance, upcoming], ended, rfl⟩
      simpa [TokenCursor.pass, atEnd, TokenStream.advance, upcoming] using ahead
  | cons token rest =>
      rw [upcoming] at ahead free
      have notEnd : stream.current.kind ≠ .endOfInput := by
        rw [TokenStream.current, upcoming]
        exact free token List.mem_cons_self
      refine ⟨⟨behind, ?_⟩, ?_, ended, rfl⟩
      · have further := congrArg List.tail ahead
        rw [List.tail_drop] at further
        simpa [TokenCursor.pass, notEnd, TokenStream.advance, upcoming] using further
      · simpa [TokenStream.advance, upcoming] using (List.forall_mem_cons.1 free).2

theorem refusal (reads : cursor.Reads stream) :
    cursor.refusal stream.current = stream.unexpected := by
  rw [TokenCursor.refusal, TokenStream.unexpected, reads.asked]

theorem respond_at (reads : cursor.Reads stream) (operation : StreamOperation) :
    (cursor.respondAt stream.current operation).1 = (stream.respond operation).1 ∧
      (cursor.respondAt stream.current operation).2.Reads (stream.respond operation).2 := by
  cases operation with
  | check kind =>
      refine ⟨?_, reads.ask [kind]⟩
      simp [respondAt, TokenStream.respond, TokenStream.isAny]
  | checkAny kinds => exact ⟨rfl, reads.ask kinds⟩
  | accept kind =>
      by_cases found : stream.current.kind = kind
      · simpa [respondAt, TokenStream.respond, TokenStream.accept, TokenStream.acceptAny,
          TokenStream.isAny, found] using reads.pass
      · simpa [respondAt, TokenStream.respond, TokenStream.accept, TokenStream.acceptAny,
          TokenStream.isAny, found] using reads.ask [kind]
  | consume kind =>
      by_cases found : stream.current.kind = kind
      · simpa [respondAt, TokenStream.respond, TokenStream.consume, TokenStream.accept,
          TokenStream.acceptAny, TokenStream.isAny, found] using reads.pass
      · have refused := (reads.ask [kind]).refusal
        simpa [respondAt, TokenStream.respond, TokenStream.consume, TokenStream.accept,
          TokenStream.acceptAny, TokenStream.isAny, found] using ⟨refused, reads.ask [kind]⟩
  | advance => exact ⟨rfl, reads.pass⟩
  | unexpected => exact ⟨congrArg StreamAnswer.refused reads.refusal, reads⟩

end Reads

end TokenCursor

end TreeQuery
