import TreeQuery.Token.Basic

/- What can be seen of a run of the parser: which productions are called, which tokens
   are read, and which calls end. From that alone it follows which constructs are open:
   relations whose operator and argument were read and whose node is not finished, and
   parentheses of nodes and brackets that were read and are not yet closed. -/
set_option autoImplicit false

namespace TreeQuery.Grammar

inductive Callee where
  | pattern
  | root
  | node
  | subNode
  | description
  | bareDescription
  | disjunction
  | conjunction
  | constraint
  | plainConstraint
  | related
  | chainArgument
deriving DecidableEq

-- Calls are seen with what the parser takes for the nesting depth, both at their start
-- and at their successful end.
inductive Event where
  | starts (callee : Callee) (depth : Nat)
  | reads (token : Token)
  | ends (callee : Callee) (depth : Nat)

structure Call where
  callee : Callee
  opener : Option Token
  isOpen : Bool

namespace Call

def fresh (callee : Callee) : Call := ⟨callee, none, false⟩

-- The token is read by the call itself, not by one that it makes. The operator of a
-- chain waits for its argument.
def reads (token : Token) (call : Call) : Call :=
  match call.callee, token.kind with
  | .node, .leftParen => ⟨.node, some token, true⟩
  | .node, .rightParen => fresh .node
  | .subNode, .leftParen => ⟨.subNode, some token, true⟩
  | .subNode, .rightParen => fresh .subNode
  | .plainConstraint, .leftBracket => ⟨.plainConstraint, some token, true⟩
  | .plainConstraint, .rightBracket => fresh .plainConstraint
  | .related, .operator => ⟨.related, some token, true⟩
  | .related, .chainOperator => ⟨.related, some token, false⟩
  | _, _ => call

def resumes (ended : Callee) (call : Call) : Call :=
  match call.callee, ended with
  | .related, .chainArgument => { call with isOpen := true }
  | .related, .node => fresh .related
  | _, _ => call

end Call

-- The innermost call comes first.

def Event.observe : Event → List Call → List Call
  | .starts callee _, calls => Call.fresh callee :: calls
  | .reads token, call :: calls => call.reads token :: calls
  | .ends callee _, _ :: call :: calls => call.resumes callee :: calls
  | .ends _ _, _ => []
  | .reads _, [] => []

def running (events : List Event) : List Call := events.foldr Event.observe []

def openers (calls : List Call) : List Token :=
  calls.filterMap fun call => if call.isOpen then call.opener else none

def opened (events : List Event) : List Token := openers (running events)

def Event.token : Event → Option Token
  | .reads token => some token
  | _ => none

def taken (events : List Event) : List Token := (events.filterMap Event.token).reverse

def Event.Exact (event : Event) (before : List Event) : Prop :=
  match event with
  | .starts _ depth => depth = (opened before).length
  | .ends _ depth => depth = (opened before).length
  | .reads _ => True

def Always (holds : Event → List Event → Prop) (events : List Event) : Prop :=
  ∀ event before, event :: before <:+ events → holds event before

theorem always_nil {holds : Event → List Event → Prop} : Always holds [] :=
  fun _ _ suffix => nomatch List.suffix_nil.1 suffix

theorem always_cons {holds : Event → List Event → Prop} {event : Event} {before : List Event} :
    Always holds (event :: before) ↔ holds event before ∧ Always holds before := by
  constructor
  · intro always
    exact ⟨always event before (List.suffix_refl _), fun other earlier suffix =>
      always other earlier (suffix.trans (List.suffix_cons event before))⟩
  · intro both other earlier suffix
    cases List.suffix_cons_iff.1 suffix with
    | inl same =>
        cases same
        exact both.1
    | inr inside => exact both.2 other earlier inside

theorem exact_reads (read : List Token) {events : List Event}
    (exact : Always Event.Exact events) : Always Event.Exact (read.map Event.reads ++ events) := by
  induction read with
  | nil => exact exact
  | cons token read ih => exact always_cons.2 ⟨trivial, ih⟩

theorem taken_reads (read : List Token) (events : List Event) :
    taken (read.reverse.map Event.reads ++ events) = taken events ++ read := by
  have all : (read.map Event.reads).filterMap Event.token = read := by
    rw [List.filterMap_map]
    exact List.filterMap_some
  simp [taken, List.map_reverse, List.filterMap_reverse, all]

end TreeQuery.Grammar
