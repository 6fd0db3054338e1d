import TreeQuery.Token.Kind

/- The kinds that would have been accepted at some place: sorted and without
   duplicates, whatever the order in which they were asked for. -/
set_option autoImplicit false

namespace TreeQuery

structure Expected where
  kinds : List TokenKind
deriving DecidableEq

namespace Expected

def ofList (asked : List TokenKind) : Expected :=
  ⟨TokenKind.all.filter fun kind => asked.contains kind⟩

def contains (expected : Expected) (kind : TokenKind) : Bool := expected.kinds.contains kind

def size (expected : Expected) : Nat := expected.kinds.length

def isEmpty (expected : Expected) : Bool := expected.kinds.isEmpty

def text (expected : Expected) : String :=
  match expected.kinds with
  | [] => "nothing"
  | [only] => only.name
  | kinds => "one of " ++ ", ".intercalate (kinds.map TokenKind.name)

theorem mem_kinds_of_list (asked : List TokenKind) (kind : TokenKind) :
    kind ∈ (ofList asked).kinds ↔ kind ∈ asked := by
  simp [ofList, TokenKind.mem_all]

end Expected

end TreeQuery
