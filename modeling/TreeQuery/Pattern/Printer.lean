import TreeQuery.Pattern.Node

/- Patterns as text. The printed text of a pattern is its canonical spelling. -/
set_option autoImplicit false

namespace TreeQuery

def GroupCapture.render (group : GroupCapture) : Text :=
  ['#'] ++ Text.ofNat group.group ++ ['='] ++ group.name

def renderNamed (mark : Char) : Option Text → Text
  | none => []
  | some name => mark :: name

def renderModifiers (negated optional : Bool) : Text :=
  (if negated then ['!'] else []) ++ (if optional then ['?'] else [])

def Description.renderLabel (description : Description) : Text :=
  (if description.descriptorNegated then ['!'] else []) ++
    (if description.categoryMatch then ['@'] else []) ++
    description.descriptor.render ++ description.groups.flatMap GroupCapture.render ++
    renderNamed '~' description.link ++ renderNamed '=' description.backreference ++
    renderNamed '=' description.capture

def Description.renderWith (description : Description) (hasChild : Bool) (body : Text) : Text :=
  if description.relation.isRoot then body
  else
    renderModifiers description.negated description.optional ++ description.relation.render ++
      [' '] ++ (if hasChild then ['('] ++ body ++ [')'] else body)

-- Does the coordination need brackets? A plain conjunction needs none, unless
-- it stands directly in another one and would be read as part of it.
def Coordination.isBracketed (coordination : Coordination) (inConjunction : Bool) : Bool :=
  coordination.negated || coordination.optional || !coordination.conjunctive || inConjunction

def Coordination.separator (coordination : Coordination) : Text :=
  if coordination.conjunctive then [' '] else [' ', '|', ' ']

def Coordination.renderWith (coordination : Coordination) (inConjunction : Bool)
    (members : List Text) : Text :=
  let body := Text.join coordination.separator members
  renderModifiers coordination.negated coordination.optional ++
    (if coordination.isBracketed inConjunction then ['['] ++ body ++ [']'] else body)

namespace Node

mutual

def renderIn (inConjunction : Bool) : Node → Text
  | described description child =>
      description.renderWith child.isSome (description.renderLabel ++ renderChild child)
  | coordination c members => c.renderWith inConjunction (renderMembers c.conjunctive members)

def renderChild : Option Node → Text
  | none => []
  | some node => ' ' :: renderIn false node

def renderMembers (inConjunction : Bool) : List Node → List Text
  | [] => []
  | node :: nodes => renderIn inConjunction node :: renderMembers inConjunction nodes

end

def render (node : Node) : Text := node.renderIn false

end Node

end TreeQuery
