import TreeQuery.Regex.Reader
import TreeQuery.Text.Letter

/- Groups: capturing ones, named or not, plain ones with flags, and flags that
   hold up to the end of the enclosing group. -/
set_option autoImplicit false

namespace TreeQuery.Regex

def lookAroundOpenings : List Text := ["?=", "?!", "?<=", "?<!"].map String.toList

def flagLetters : Text := "imsUuRx".toList

structure FlagItem where
  letter : Char
  span : Span

-- Whether a flag is set or unset, if it is there. It is unset behind a minus
-- sign.
def flag? (letter : Char) (items : List FlagItem) : Option Bool :=
  if items.any (·.letter = letter) then
    some (!(items.takeWhile (·.letter ≠ letter)).any (·.letter = '-'))
  else none

def Mode.withFlags (mode : Mode) (items : List FlagItem) : Mode where
  verbose := (flag? 'x' items).getD mode.verbose
  unicode := (flag? 'u' items).getD mode.unicode

def isNameStart (c : Char) : Bool := isAlphabetic c || c = '_'

def isNamePart (c : Char) : Bool :=
  isAlphanumeric c || c = '_' || c = '.' || c = '[' || c = ']'

namespace Reader

def groupName : Reader Unit := do
  if (← peek).isNone then fail .unclosedName [← emptySpan]
  let start ← place
  let name ← many do
    match ← peek with
    | none => return none
    | some c =>
        if c = '>' then return none
        let allowed := if (← place) = start then isNameStart c else isNamePart c
        if !allowed then fail .nameCharacter [← charSpan]
        bump
        return some c
  if (← peek).isNone then fail .unclosedName [← emptySpan]
  let span ← spanFrom start
  bump
  if name.isEmpty then fail .emptyName [⟨start, start⟩]
  if let some earlier := (← get).names.lookup name then fail .duplicateName [earlier, span]
  modify fun reading => { reading with names := (name, span) :: reading.names }

def flagsAfter (read : List FlagItem) : Nat → Reader (List FlagItem)
  | 0 => return read
  | bound + 1 => do
      match ← peek with
      | none => return read
      | some c =>
          if c = ':' || c = ')' then return read
          let span ← charSpan
          if c ≠ '-' && !flagLetters.contains c then fail .unknownFlag [span]
          if let some earlier := read.find? (·.letter = c) then
            fail (if c = '-' then .repeatedNegation else .duplicateFlag) [earlier.span, span]
          bump
          if (← peek).isNone then fail .unfinishedFlags [← emptySpan]
          flagsAfter (read ++ [⟨c, span⟩]) bound

-- The flags up to the colon or the parenthesis that ends them. A minus sign
-- must not be last.
def flags : Reader (List FlagItem) := do
  let items ← flagsAfter [] ((← get).rest.length + 1)
  if let some last := items.getLast? then
    if last.letter = '-' then fail .danglingNegation [last.span]
  return items

def enter (start : Nat) (items : List FlagItem) : Reader Unit :=
  modify fun reading =>
    { reading with
      groups := ⟨start, reading.mode, reading.body, reading.last⟩ :: reading.groups
      mode := reading.mode.withFlags items
      body := .startingAt reading.place }

def enterCapture (start : Nat) : Reader Unit := do
  enter start []
  modify fun reading =>
    { reading with opened := reading.opened + 1, last := reading.opened + 1 }

def openGroup : Reader Unit := do
  let start ← place
  bump
  skipBlanks
  if ← acceptAny lookAroundOpenings then fail .lookAround [← spanFrom start]
  let question ← emptySpan
  if ← acceptAny (["?P<", "?<"].map String.toList) then
    groupName
    enterCapture start
  else if ← accept ['?'] then
    if (← peek).isNone then fail .unclosedGroup [⟨start, start + 1⟩]
    let items ← flags
    let closed := (← peek) = some ')'
    bump
    if !closed then enter start items
    else if items.isEmpty then fail .missingOperand [question]
    else
      modify fun reading =>
        { reading with
          mode := reading.mode.withFlags items
          body := reading.body.add ⟨.leaf ⟨start, reading.place⟩, false, reading.last⟩ }
  else enterCapture start

def closeGroup : Reader Unit := do
  let reading ← get
  match reading.groups with
  | [] => fail .unopenedGroup [← charSpan]
  | group :: groups =>
      let inside := reading.body.upTo reading.place
      bump
      let part := Part.holding (← spanFrom group.place) [inside]
      modify fun reading =>
        { reading with
          groups
          mode := group.mode
          body := group.outer.add ⟨part, true, group.lastBefore⟩ }

end Reader

end TreeQuery.Regex
