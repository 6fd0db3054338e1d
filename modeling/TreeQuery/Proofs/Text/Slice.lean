import Mathlib.Data.List.DropRight
import TreeQuery.Text.Position

/- Parts of a text between byte offsets, and the lines and columns that the characters
   in front of a place lead to. -/
set_option autoImplicit false

namespace TreeQuery

theorem append_split {α : Type} {front back before behind : List α} {item : α}
    (split : front ++ back = before ++ item :: behind) :
    (∃ rest, front = before ++ item :: rest ∧ behind = rest ++ back) ∨
      ∃ rest, before = front ++ rest ∧ back = rest ++ item :: behind := by
  obtain ⟨rest, sameBefore, sameBack⟩ | ⟨rest, sameFront, sameItem⟩ :=
    List.append_eq_append_iff.1 split
  · exact .inr ⟨rest, sameBefore, sameBack⟩
  · cases rest with
    | nil => exact .inr ⟨[], by simpa using sameFront.symm, sameItem.symm⟩
    | cons first rest =>
        obtain ⟨rfl, same⟩ := List.cons.inj sameItem
        exact .inl ⟨rest, sameFront, same⟩

namespace Text

-- The characters that end at or before a byte offset.
def upTo (offset : Nat) : Text → Text
  | [] => []
  | c :: rest => if c.utf8Size ≤ offset then c :: upTo (offset - c.utf8Size) rest else []

def slice (start stop : Nat) (text : Text) : Text :=
  (text.upTo stop).drop (text.upTo start).length

def lastLine (text : Text) : Text := text.rtakeWhile (· ≠ '\n')

theorem byte_length_pos {text : Text} (nonempty : text ≠ []) : 0 < text.byteLength := by
  cases text with
  | nil => exact absurd rfl nonempty
  | cons c rest => exact Nat.add_pos_left c.utf8Size_pos _

theorem shorter_front {front back other behind : Text} (same : front ++ back = other ++ behind)
    (short : front.byteLength ≤ other.byteLength) :
    ∃ inner, other = front ++ inner ∧ back = inner ++ behind := by
  obtain ⟨inner, rfl, rfl⟩ | ⟨inner, rfl, rfl⟩ := List.append_eq_append_iff.1 same
  · exact ⟨inner, rfl, rfl⟩
  · have ends : inner = [] := by
      by_contra wide
      have more := byte_length_pos wide
      rw [byte_length_append] at short
      omega
    exact ⟨[], by simp [ends], by simp [ends]⟩

theorem up_to_append (front back : Text) : (front ++ back).upTo front.byteLength = front := by
  induction front with
  | nil =>
      cases back with
      | nil => rfl
      | cons c back =>
          have wide : ¬ c.utf8Size ≤ 0 := Nat.not_le.2 c.utf8Size_pos
          rw [List.nil_append, byte_length_nil, upTo, if_neg wide]
  | cons c front ih =>
      rw [List.cons_append, byte_length_cons, upTo, if_pos (Nat.le_add_right _ _),
        Nat.add_sub_cancel_left, ih]

theorem slice_append (front word back : Text) :
    (front ++ (word ++ back)).slice front.byteLength (front ++ word).byteLength = word := by
  have stop : (front ++ (word ++ back)).upTo (front ++ word).byteLength = front ++ word := by
    rw [← List.append_assoc, up_to_append]
  rw [slice, stop, up_to_append, List.drop_left]

theorem last_line_concat (text : Text) (c : Char) :
    lastLine (text ++ [c]) = if c = '\n' then [] else text.lastLine ++ [c] := by
  by_cases ends : c = '\n' <;> simp [lastLine, ends]

theorem pieces_concat (separator c : Char) (text : Text) :
    pieces separator (text ++ [c]) =
      if c = separator then pieces separator text ++ [[]]
      else (pieces separator text).dropLast ++ [(pieces separator text).getLastD [] ++ [c]] := by
  induction text with
  | nil => by_cases ends : c = separator <;> simp [pieces, ends]
  | cons first text ih =>
      rw [List.cons_append, pieces, pieces, ih]
      obtain ⟨piece, others, cut⟩ := List.exists_cons_of_ne_nil (pieces_ne_nil separator text)
      rw [cut]
      by_cases ends : c = separator <;> by_cases cuts : first = separator <;>
        cases others <;> simp [ends, cuts]

theorem last_piece (text : Text) : (text.pieces '\n').getLastD [] = text.lastLine := by
  induction text using List.reverseRecOn with
  | nil => rfl
  | append_singleton text c ih =>
      rw [pieces_concat, last_line_concat, ← ih]
      by_cases ends : c = '\n' <;> simp [ends]

end Text

namespace Position

-- The place behind a text, read off the text as a whole.
theorem start_after_all (text : Text) : start.afterAll text =
    ⟨text.byteLength, 1 + text.count '\n', 1 + text.lastLine.length⟩ := by
  induction text using List.reverseRecOn with
  | nil => rfl
  | append_singleton text c ih =>
      rw [after_all_append, ih, Text.last_line_concat]
      by_cases ends : c = '\n' <;> simp [after, ends, Nat.add_assoc]

end Position

end TreeQuery
