import TreeQuery.Regex.Error
import TreeQuery.Text.Numeral

/- How a message shows what is wrong with a regex: the regex itself with the
   faulty parts marked below, then the reason. The lines of a regex that has
   several are numbered. -/
set_option autoImplicit false

namespace TreeQuery.Regex

-- The line of marks from the column `column` on: one mark for each character of
-- a span, and one for a span without characters.
def marks (column : Nat) : List Span → Text
  | [] => []
  | span :: spans =>
      let width := max 1 (span.stop - span.start)
      List.replicate (span.start - column) ' ' ++ List.replicate width '^' ++
        marks (max column span.start + width) spans

structure LinePlace where
  line : Nat
  column : Nat

def linePlace (pattern : Text) (place : Nat) : LinePlace :=
  let before := pattern.take place
  ⟨before.count '\n', (before.reverse.takeWhile (· ≠ '\n')).length⟩

def onLine? (pattern : Text) (line : Nat) (span : Span) : Option Span :=
  let first := linePlace pattern span.start
  let last := linePlace pattern span.stop
  if first.line = line ∧ last.line = line then some ⟨first.column, last.column⟩ else none

def withoutReturn (line : Text) : Text :=
  if line.getLast? = some '\r' then line.dropLast else line

def patternLines (pattern : Text) : List Text :=
  let pieces := pattern.pieces '\n'
  let last := (pieces.getLast?.getD [])
  pieces.dropLast.map withoutReturn ++ if last = [] then [] else [last]

-- What stands before the line with the number: blanks alone in front of a single
-- line, otherwise the number at the right of as much room as the greatest takes.
def margin (count line : Nat) : Text :=
  if count ≤ 1 then "    ".toList
  else
    let number := Text.ofNat (line + 1)
    List.replicate ((Text.ofNat count).length - number.length) ' ' ++ number ++ ": ".toList

def markedLine (pattern : Text) (spans : List Span) (count : Nat) (line : Text) (index : Nat) :
    Text :=
  let here := spans.filterMap (onLine? pattern index)
  margin count index ++ line ++ ['\n'] ++
    if here.isEmpty then []
    else List.replicate (margin count index).length ' ' ++ marks 0 here ++ ['\n']

def markedPattern (pattern : Text) (spans : List Span) : Text :=
  let count := (pattern.pieces '\n').length
  (patternLines pattern).zipIdx.flatMap fun (line, index) =>
    markedLine pattern spans count line index

def spanNote? (pattern : Text) (span : Span) : Option String :=
  let first := linePlace pattern span.start
  let last := linePlace pattern span.stop
  if first.line = last.line then none
  else some (s!"on line {first.line + 1} (column {first.column + 1}) " ++
    s!"through line {last.line + 1} (column {last.column})\n")

def Error.message (error : Error) : String :=
  let marked := String.ofList (markedPattern error.pattern error.fault.spans)
  let divider := String.ofList (List.replicate 79 '~') ++ "\n"
  let notes := String.join (error.fault.spans.filterMap (spanNote? error.pattern))
  "regex parse error:\n" ++
    (if error.pattern.contains '\n' then divider ++ marked ++ divider ++ notes else marked) ++
    "error: " ++ error.fault.problem.text

end TreeQuery.Regex
