import TreeQuery.Regex.CharacterClass
import TreeQuery.Regex.Repetition
import TreeQuery.Regex.Group

/- The syntax of a whole regex. Nothing is kept of it but the number of groups
   that capture, or the first fault. Groups repeated no time at all do not count
   unless a later group does. -/
set_option autoImplicit false

namespace TreeQuery.Regex

-- A judgement on a regex: the number of its capture groups, or what is wrong
-- with it.
abbrev Checker := Text → Except Error Nat

namespace Reader

def step : Reader (Option Unit) := do
  skipBlanks
  let some c ← peek | return none
  if c = '(' then openGroup
  else if c = ')' then closeGroup
  else if c = '|' then
    modify fun reading => { reading with body := reading.body.nextBranch reading.place }
    bump
  else if c = '?' || c = '*' || c = '+' then repetition
  else if c = '\x7b' then count
  else if c = '[' then characterClass
  else
    let start ← place
    if c = '\\' then
      let _ ← escape
    else
      if c = '.' then noteAmongBytes .invalidUtf8 (← charSpan)
      bump
    addItem start
  return some ()

def whole : Reader Nat := do
  let _ ← many step
  let reading ← get
  match reading.groups with
  | [] =>
      match tooDeepAmong? maxDepth (reading.body.upTo reading.place).holders with
      | some span => fail (.tooDeep maxDepth) [span]
      | none => return reading.last
  | group :: _ => fail .unclosedGroup [⟨group.place, group.place + 1⟩]

end Reader

/-- Checks the syntax and counts the capture groups. -/
def check : Checker := fun pattern =>
  match Reader.whole.run (.ofText pattern) with
  | .ok (captures, reading) =>
      match reading.doubt with
      | none => .ok captures
      | some fault => .error ⟨pattern, fault⟩
  | .error fault => .error ⟨pattern, fault⟩

end TreeQuery.Regex
