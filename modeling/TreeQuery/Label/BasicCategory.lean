import TreeQuery.Text.Basic

/- Basic categories: what is left of a label when its annotations are taken off. -/
set_option autoImplicit false

namespace TreeQuery

structure BasicCategory where
  name : Text
  apply : Text → Text

namespace BasicCategory

instance : BEq BasicCategory where
  beq a b := a.name == b.name

def annotationMarks : Text := ['-', '=', '|', '#', '^', '~', '_']

-- Keeps the characters before the first annotation. A mark that repeats the one
-- the label opened with closes it and is kept.
def untilAnnotation (opened : Option Char) : Text → Text
  | [] => []
  | c :: rest =>
      if annotationMarks.contains c then
        if opened = some c then c :: untilAnnotation none rest else []
      else c :: untilAnnotation opened rest

def cutAnnotations : Text → Text
  | [] => []
  | c :: rest =>
      c :: untilAnnotation (if annotationMarks.contains c then some c else none) rest

def pennTreebank : BasicCategory := ⟨"penn-treebank".toList, cutAnnotations⟩

instance : Inhabited BasicCategory := ⟨pennTreebank⟩

end BasicCategory

end TreeQuery
