import TreeQuery.Regex.Reader
import TreeQuery.Regex.Property

/- What a backslash introduces: a character, a class of characters, or an
   assertion about the place between two characters. -/
set_option autoImplicit false

namespace TreeQuery.Regex

inductive Meaning where
  | literal (c : Char)
  | characters
  | assertion

structure Atom where
  meaning : Meaning
  span : Span

def metaCharacters : Text := "\\.+*?()|[]\x7b\x7d^$#&-~".toList

-- A backslash takes the meaning from any of these; letters and digits are kept
-- for escapes, and the angle brackets for word boundaries.
def isEscapable (c : Char) : Bool :=
  metaCharacters.contains c ||
    (c.toNat < 128 && !c.isAlphanum && c ≠ '<' && c ≠ '>')

def controlEscapes : List (Char × Char) :=
  [('a', '\x07'), ('f', '\x0c'), ('t', '\t'), ('n', '\n'), ('r', '\r'), ('v', '\x0b')]

def hexWidths : List (Char × Nat) := [('x', 2), ('u', 4), ('U', 8)]

def isHexDigit (c : Char) : Bool :=
  c.isDigit || ('a' ≤ c && c ≤ 'f') || ('A' ≤ c && c ≤ 'F')

def hexDigitValue (c : Char) : Nat :=
  if c.isDigit then c.toNat - '0'.toNat
  else if 'a' ≤ c then c.toNat - 'a'.toNat + 10
  else c.toNat - 'A'.toNat + 10

def scalar (digits : Text) (span : Span) : Reader Char :=
  let code := digits.foldl (fun code c => 16 * code + hexDigitValue c) 0
  if code.isValidChar then return Char.ofNat code else fail .hexScalar [span]

namespace Reader

def hexDigits : Nat → Reader Text
  | 0 => return []
  | count + 1 => do
      let some c ← peek | fail .incompleteEscape [← emptySpan]
      if isHexDigit c then
        bumpSkip
        return c :: (← hexDigits count)
      else fail .hexDigit [← charSpan]

def bracedHex : Reader Char := do
  let brace ← place
  let digits ← many do
    bumpSkip
    match ← peek with
    | none => return none
    | some c =>
        if c = '\x7d' then return none
        else if isHexDigit c then return some c
        else fail .hexDigit [← charSpan]
  if (← peek).isNone then fail .incompleteEscape [← spanFrom brace]
  let stop ← place
  bumpSkip
  if digits.isEmpty then fail .emptyHex [← spanFrom brace]
  scalar digits ⟨brace + 1, stop⟩

-- A hexadecimal escape, from its letter on. Two digits name a byte, which alone
-- makes up no character if it is not ASCII.
def hexadecimal (escapeStart width : Nat) : Reader Char := do
  bumpSkip
  let some c ← peek | fail .incompleteEscape [← emptySpan]
  if c = '\x7b' then bracedHex
  else
    let start ← place
    let digits ← hexDigits width
    let value ← scalar digits (← spanFrom start)
    if width = 2 && 0x80 ≤ value.toNat then noteAmongBytes .invalidUtf8 (← spanFrom escapeStart)
    return value

def unicodeClass : Reader (Option Problem) := do
  bumpSkip
  let some c ← peek | fail .incompleteEscape [← emptySpan]
  if c = '\x7b' then
    let braced ← takeWhile (· ≠ '\x7d')
    if (← peek).isNone then fail .incompleteEscape [← emptySpan]
    bump
    return bracedClassProblem? (braced.drop 1)
  else if c = '\\' then fail .unicodeClass [← charSpan]
  else
    bumpSkip
    return classProblem? [c]

def boundaryNames : List Text := ["start", "end", "start-half", "end-half"].map String.toList

def isBoundaryChar (c : Char) : Bool := c.isAlpha || c = '-'

-- The name of a word boundary in braces. Braces that hold something else are
-- left to be read as a count.
def boundaryName (escapeStart : Nat) : Reader Unit := do
  if (← peek) ≠ some '\x7b' then return
  let before ← get
  bumpSkip
  let some c ← peek | fail .unfinishedBoundary [← spanFrom escapeStart]
  if !isBoundaryChar c then set before
  else
    let nameStart ← place
    let name ← takeWhile isBoundaryChar
    if (← peek) ≠ some '\x7d' then fail .boundaryCharacter [← spanFrom before.place]
    if !boundaryNames.contains name then fail .unknownBoundary [← spanFrom nameStart]
    bump

def escape : Reader Atom := do
  let start ← place
  bump
  let some c ← peek | fail .incompleteEscape [← spanFrom start]
  if c.isDigit then fail .backreference [⟨start, (← place) + 1⟩]
  if let some width := hexWidths.lookup c then
    let value ← hexadecimal start width
    return ⟨.literal value, ← spanFrom start⟩
  if c = 'p' || c = 'P' then
    let problem ← unicodeClass
    let span ← spanFrom start
    noteAmongBytes .unicodeNotAllowed span
    if let some problem := problem then note problem span
    return ⟨.characters, span⟩
  bump
  let span ← spanFrom start
  if "DSW".toList.contains c then noteAmongBytes .invalidUtf8 span
  if "dswDSW".toList.contains c then return ⟨.characters, span⟩
  if isEscapable c then return ⟨.literal c, span⟩
  if let some value := controlEscapes.lookup c then return ⟨.literal value, span⟩
  if c = 'b' then
    boundaryName start
    return ⟨.assertion, ← spanFrom start⟩
  if "AzB<>".toList.contains c then return ⟨.assertion, span⟩
  fail .unknownEscape [span]

end Reader

end TreeQuery.Regex
