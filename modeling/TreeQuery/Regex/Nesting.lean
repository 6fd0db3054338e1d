import TreeQuery.Regex.Error

/- How the parts of a regex stand in one another. Only the parts that hold others
   are kept: they are what the limit on nesting counts. -/
set_option autoImplicit false

namespace TreeQuery.Regex

inductive Holder where
  | holding (span : Span) (inside : List Holder)

def maxDepth : Nat := 250

mutual

def tooDeep? (depth : Nat) : Holder → Option Span
  | .holding span inside =>
      match depth with
      | 0 => some span
      | depth + 1 => tooDeepAmong? depth inside

def tooDeepAmong? (depth : Nat) : List Holder → Option Span
  | [] => none
  | holder :: holders => (tooDeep? depth holder).or (tooDeepAmong? depth holders)

end

structure Part where
  span : Span
  holders : List Holder

namespace Part

def leaf (span : Span) : Part := ⟨span, []⟩

def holding (span : Span) (inside : List Part) : Part :=
  ⟨span, [.holding span (inside.flatMap holders)]⟩

def together (span : Span) : List Part → Part
  | [] => leaf span
  | [only] => only
  | parts => holding span parts

def across (place : Nat) (parts : List Part) : Span :=
  match parts.head?, parts.getLast? with
  | some first, some last => ⟨first.span.start, last.span.stop⟩
  | _, _ => ⟨place, place⟩

end Part

-- An item in a sequence of them. What it holds can only be repeated if it stands
-- for something; `lastBefore` is the number of the last group before it.
structure Item where
  part : Part
  repeatable : Bool
  lastBefore : Nat

-- What was read of a group, or of the whole: the branches that are finished and
-- the items of the last one, each with the latest first.
structure Body where
  start : Nat
  branches : List Part
  branchStart : Nat
  items : List Item

namespace Body

def startingAt (place : Nat) : Body := ⟨place, [], place, []⟩

def add (body : Body) (item : Item) : Body := { body with items := item :: body.items }

def operand? (body : Body) : Option Item :=
  match body.items with
  | item :: _ => if item.repeatable then some item else none
  | [] => none

def repeatLast (body : Body) (stop : Nat) : Body :=
  match body.items with
  | [] => body
  | item :: items =>
      let repetition := Part.holding ⟨item.part.span.start, stop⟩ [item.part]
      { body with items := { item with part := repetition } :: items }

def branchUpTo (body : Body) (stop : Nat) : Part :=
  Part.together ⟨body.branchStart, stop⟩ (body.items.reverse.map Item.part)

def nextBranch (body : Body) (bar : Nat) : Body :=
  { body with
    branches := body.branchUpTo bar :: body.branches
    branchStart := bar + 1
    items := [] }

def upTo (body : Body) (stop : Nat) : Part :=
  Part.together ⟨body.start, stop⟩ (body.branchUpTo stop :: body.branches).reverse

end Body

end TreeQuery.Regex
