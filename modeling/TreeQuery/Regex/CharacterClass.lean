import TreeQuery.Regex.Escape

/- Character classes in brackets: items, ranges, named classes, nested classes
   and the set operators between them. -/
set_option autoImplicit false

namespace TreeQuery.Regex

def classNames : List Text :=
  ["alnum", "alpha", "ascii", "blank", "cntrl", "digit", "graph", "lower", "print", "punct",
   "space", "upper", "word", "xdigit"].map String.toList

def classSpellings : List Text :=
  classNames.map fun name => ['[', ':'] ++ name ++ [':', ']']

def negatedClassSpellings : List Text :=
  classNames.map fun name => ['[', ':', '^'] ++ name ++ [':', ']']

def setOperators : List Text := ["&&", "--", "~~"].map String.toList

def nextVisible (verbose : Bool) (text : Text) : Option Char :=
  if verbose then
    match text.dropWhile isBlank with
    | '#' :: rest => (rest.dropWhile isBlank).head?
    | rest => rest.head?
  else text.head?

def OpenClass.content (opened : OpenClass) : Part :=
  let members := opened.members.reverse
  let right := Part.together (Part.across opened.memberStart members) members
  match opened.left with
  | none => right
  | some left => Part.holding ⟨left.span.start, right.span.stop⟩ [left, right]

namespace Reader

-- The failure of a class that is not closed, marked where its innermost open
-- part begins.
def unclosedClass {α : Type} : Reader α := do
  fail .unclosedClass (((← get).classes.take 1).map OpenClass.span)

-- The opening of a class. Dashes right behind it stand for themselves, and so
-- does a closing bracket if there are no dashes.
def openClass : Reader Unit := do
  let start ← place
  let atEnd (span : Reader Span) : Reader Unit := do
    if (← peek).isNone then fail .unclosedClass [← span]
  bumpSkip
  atEnd (spanFrom start)
  let negated := (← peek) = some '^'
  if negated then
    bumpSkip
    atEnd (spanFrom start)
  let memberStart ← place
  let dashes ← many do
    if (← peek) = some '-' then
      let dash ← charSpan
      bumpSkip
      atEnd (return ⟨start, start⟩)
      return some (Part.leaf dash)
    else return none
  let mut members := dashes.reverse
  if dashes.isEmpty && (← peek) = some ']' then
    members := [Part.leaf (← charSpan)]
    bumpSkip
    atEnd (spanFrom start)
  let span ← spanFrom start
  modify fun reading =>
    { reading with classes := ⟨span, negated, none, memberStart, members⟩ :: reading.classes }

def addMember (part : Part) : Reader Unit :=
  modify fun reading =>
    match reading.classes with
    | [] => { reading with body := reading.body.add ⟨part, true, reading.last⟩ }
    | opened :: classes =>
        { reading with classes := { opened with members := part :: opened.members } :: classes }

-- The closing bracket of a class. Among bytes the complement of a class holds
-- some that make up no character.
def closeClass : Reader Unit := do
  bump
  match (← get).classes with
  | [] => return
  | opened :: classes =>
      let span ← spanFrom opened.span.start
      modify fun reading => { reading with classes }
      addMember (Part.holding span [opened.content])
      if opened.negated then noteAmongBytes .invalidUtf8 span

def nextOperand : Reader Unit :=
  modify fun reading =>
    match reading.classes with
    | [] => reading
    | opened :: classes =>
        { reading with
          classes :=
            { opened with left := some opened.content, memberStart := reading.place, members := [] } ::
              classes }

def namedClass : Reader Bool := do
  let start ← place
  if ← acceptAny negatedClassSpellings then
    noteAmongBytes .invalidUtf8 (← spanFrom start)
    addMember (.leaf (← spanFrom start))
    return true
  else if ← acceptAny classSpellings then
    addMember (.leaf (← spanFrom start))
    return true
  else return false

def classAtom : Reader Atom := do
  let start ← place
  let some c ← peek | unclosedClass
  if c = '\\' then escape
  else
    bump
    return ⟨.literal c, ← spanFrom start⟩

-- An atom of a class, which among bytes has to be a byte.
def classMember : Reader Atom := do
  let atom ← classAtom
  if let .literal c := atom.meaning then
    if 0x80 ≤ c.toNat then noteAmongBytes .unicodeNotAllowed atom.span
  return atom

def boundary (atom : Atom) : Reader Char :=
  match atom.meaning with
  | .literal c => return c
  | _ => fail .rangeBoundary [atom.span]

def classItem : Reader Unit := do
  let first ← classMember
  skipBlanks
  if (← peek).isNone then unclosedClass
  let reading ← get
  let next := nextVisible reading.mode.verbose (reading.rest.drop 1)
  if (← peek) ≠ some '-' || next = some ']' || next = some '-' then
    match first.meaning with
    | .assertion => fail .classEscape [first.span]
    | _ => addMember (.leaf first.span)
  else
    bumpSkip
    let last ← classMember
    let low ← boundary first
    let high ← boundary last
    let span : Span := ⟨first.span.start, last.span.stop⟩
    if high < low then fail .rangeOrder [span]
    addMember (.leaf span)

def classStep : Reader (Option Unit) := do
  skipBlanks
  match ← peek with
  | none => unclosedClass
  | some c =>
      if c = '[' then
        if !(← namedClass) then openClass
      else if c = ']' then closeClass
      else if ← acceptAny setOperators then nextOperand
      else classItem
      return if (← get).classes.isEmpty then none else some ()

def characterClass : Reader Unit := do
  openClass
  let _ ← many classStep

end Reader

end TreeQuery.Regex
