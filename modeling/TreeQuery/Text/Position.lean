import TreeQuery.Text.Basic

/- Places in a pattern text. A place is reached by walking over the characters
   before it, so its three numbers always belong together. -/
set_option autoImplicit false

namespace TreeQuery

/-- A byte offset with the line and the column it falls on, both counted from 1;
columns are counted in characters. -/
structure Position where
  offset : Nat
  line : Nat
  column : Nat
deriving DecidableEq, Inhabited

namespace Position

def start : Position := ⟨0, 1, 1⟩

def nowhere : Position := ⟨0, 0, 0⟩

-- The place behind the character `c`. Only a line feed ends a line.
def after (here : Position) (c : Char) : Position :=
  if c = '\n' then ⟨here.offset + c.utf8Size, here.line + 1, 1⟩
  else ⟨here.offset + c.utf8Size, here.line, here.column + 1⟩

def afterAll (here : Position) (text : Text) : Position := text.foldl after here

def text (here : Position) : String := s!"line {here.line}, column {here.column}"

@[simp] theorem after_all_nil (here : Position) : here.afterAll [] = here := rfl

@[simp] theorem after_all_cons (here : Position) (c : Char) (rest : Text) :
    here.afterAll (c :: rest) = (here.after c).afterAll rest := rfl

@[simp] theorem after_all_append (here : Position) (a b : Text) :
    here.afterAll (a ++ b) = (here.afterAll a).afterAll b := by
  simp [afterAll]

@[simp] theorem offset_after (here : Position) (c : Char) :
    (here.after c).offset = here.offset + c.utf8Size := by
  unfold after
  split <;> rfl

theorem offset_after_all (here : Position) (text : Text) :
    (here.afterAll text).offset = here.offset + text.byteLength := by
  induction text generalizing here with
  | nil => simp
  | cons c rest ih => simp [ih, Nat.add_assoc]

end Position

end TreeQuery
