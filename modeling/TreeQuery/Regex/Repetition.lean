import TreeQuery.Text.Numeral
import TreeQuery.Regex.Reader

/- Repetition: the one-character operators and the counts in braces. Both repeat
   the item before them and may be followed by a question mark. -/
set_option autoImplicit false

namespace TreeQuery.Regex.Reader

def requireOperand : Reader Unit := do
  if (← get).body.operand?.isNone then fail .missingOperand [← emptySpan]

def acceptLazy : Reader Unit := do
  if (← peek) = some '?' then bump

def finishRepetition : Reader Unit :=
  modify fun reading => { reading with body := reading.body.repeatLast reading.place }

def repetition : Reader Unit := do
  requireOperand
  bump
  acceptLazy
  finishRepetition

-- A decimal number, or the failure to report once it is known that a number was
-- needed.
def decimal : Reader (Except Fault Nat) := do
  let _ ← many do
    match ← peek with
    | some c => if isBlank c then bump; return some () else return none
    | none => return none
  let start ← place
  let digits ← takeWhile Char.isDigit
  let span ← spanFrom start
  let _ ← takeWhile isBlank
  if digits.isEmpty then return .error ⟨.decimalExpected, [span]⟩
  let value := digitsValue digits
  if value ≤ 0xffffffff then return .ok value else return .error ⟨.decimalTooLarge, [span]⟩

-- What is repeated no time at all is not there, and neither are its groups.
def dropOperand : Reader Unit :=
  modify fun reading =>
    match reading.body.operand? with
    | some item => { reading with last := item.lastBefore }
    | none => reading

def count : Reader Unit := do
  requireOperand
  let start ← place
  let unclosedAtEnd : Reader Unit := do
    if (← peek).isNone then fail .unclosedCount [← spanFrom start]
  bumpSkip
  unclosedAtEnd
  let low ← decimal
  unclosedAtEnd
  let mut ordered := true
  let mut never := false
  if (← peek) = some ',' then
    bumpSkip
    unclosedAtEnd
    let least ← liftM low
    if (← peek) ≠ some '\x7d' then
      let most ← liftM (← decimal)
      ordered := least ≤ most
      never := most = 0
  else
    let exact ← liftM low
    never := exact = 0
  if (← peek) ≠ some '\x7d' then fail .unclosedCount [← spanFrom start]
  bumpSkip
  acceptLazy
  if !ordered then fail .countOrder [← spanFrom start]
  if never then dropOperand
  finishRepetition

end TreeQuery.Regex.Reader
