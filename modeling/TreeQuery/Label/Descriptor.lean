import TreeQuery.Regex.Basic

/- Descriptors: what a pattern asks of the label of one node. -/
set_option autoImplicit false

namespace TreeQuery

inductive Descriptor where
  | identifier (label : Text)
  | regex (regex : Regex)
  | blank
  -- Nothing is asked: the node is given by a link or a back-reference.
  | unspecified
deriving BEq

namespace Descriptor

def alternatives : Descriptor → List Text
  | identifier label => label.pieces '|'
  | _ => []

def render : Descriptor → Text
  | identifier label => label
  | regex r => r.render
  | blank => ['_', '_']
  | unspecified => []

end Descriptor

end TreeQuery
