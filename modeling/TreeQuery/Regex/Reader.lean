import TreeQuery.Text.Blank
import TreeQuery.Regex.Nesting

/- Reading a regex from left to right: the place reached, what is open there, and
   the steps that every part of the reader is made of. -/
set_option autoImplicit false

namespace TreeQuery.Regex

structure Mode where
  verbose : Bool
  -- Classes and escapes speak of characters, not of bytes.
  unicode : Bool

structure OpenGroup where
  place : Nat
  mode : Mode
  outer : Body
  lastBefore : Nat

structure OpenClass where
  span : Span
  negated : Bool
  left : Option Part
  memberStart : Nat
  members : List Part

structure Reading where
  place : Nat
  rest : Text
  mode : Mode
  body : Body
  groups : List OpenGroup
  classes : List OpenClass
  names : List (Text × Span)
  opened : Nat
  -- The number of the last group that can take part in a match.
  last : Nat
  -- The first fault in what a part stands for. Any fault in how the regex is
  -- written goes before it.
  doubt : Option Fault

def Reading.ofText (text : Text) : Reading where
  place := 0
  rest := text
  mode := ⟨false, true⟩
  body := .startingAt 0
  groups := []
  classes := []
  names := []
  opened := 0
  last := 0
  doubt := none

abbrev Reader := StateT Reading (Except Fault)

def fail {α : Type} (problem : Problem) (spans : List Span) : Reader α :=
  throw ⟨problem, spans⟩

namespace Reader

def peek : Reader (Option Char) := return (← get).rest.head?

def place : Reader Nat := return (← get).place

def spanFrom (start : Nat) : Reader Span := return ⟨start, ← place⟩

def charSpan : Reader Span := return ⟨← place, (← place) + 1⟩

def emptySpan : Reader Span := return ⟨← place, ← place⟩

def bump : Reader Unit :=
  modify fun reading => match reading.rest with
    | [] => reading
    | _ :: rest => { reading with place := reading.place + 1, rest }

def addItem (start : Nat) : Reader Unit :=
  modify fun reading =>
    { reading with
      body := reading.body.add ⟨.leaf ⟨start, reading.place⟩, true, reading.last⟩ }

def note (problem : Problem) (span : Span) : Reader Unit :=
  modify fun reading => { reading with doubt := reading.doubt.or (some ⟨problem, [span]⟩) }

def noteAmongBytes (problem : Problem) (span : Span) : Reader Unit := do
  if !(← get).mode.unicode then note problem span

def accept (text : Text) : Reader Bool := do
  let reading ← get
  match text.isPrefixOf? reading.rest with
  | none => return false
  | some rest =>
      set { reading with place := reading.place + text.length, rest }
      return true

def acceptAny : List Text → Reader Bool
  | [] => return false
  | text :: texts => do
      if ← accept text then return true
      acceptAny texts

def behindBlanks (inComment : Bool) (place : Nat) : Text → Nat × Text
  | [] => (place, [])
  | c :: rest =>
      if inComment then behindBlanks (c ≠ '\n') (place + 1) rest
      else if isBlank c then behindBlanks false (place + 1) rest
      else if c = '#' then behindBlanks true (place + 1) rest
      else (place, c :: rest)

def skipBlanks : Reader Unit :=
  modify fun reading =>
    if reading.mode.verbose then
      let (place, rest) := behindBlanks false reading.place reading.rest
      { reading with place, rest }
    else reading

def bumpSkip : Reader Unit := do
  bump
  skipBlanks

-- Repeats the step until it gives nothing. Each step but the last passes a
-- character, so the characters that are left bound the number of steps.
def manyUpTo {α : Type} (step : Reader (Option α)) : Nat → Reader (List α)
  | 0 => return []
  | bound + 1 => do
      match ← step with
      | none => return []
      | some value => return value :: (← manyUpTo step bound)

def many {α : Type} (step : Reader (Option α)) : Reader (List α) := do
  manyUpTo step ((← get).rest.length + 1)

def takeWhile (p : Char → Bool) : Reader Text :=
  many do
    match ← peek with
    | none => return none
    | some c => if p c then bumpSkip; return some c else return none

end Reader

end TreeQuery.Regex
