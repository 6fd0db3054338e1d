import TreeQuery.Grammar.Production
import TreeQuery.Relation.Resolver
import TreeQuery.Pattern.Node

/- The description of a single node: its label with captures, a link to the label
   of another node, or a reference back to one. -/
set_option autoImplicit false

namespace TreeQuery.Grammar

-- How patterns are read. Without the check of names, every declaration and
-- every reference is taken as it comes.
structure Settings where
  resolver : Resolver
  checkNames : Bool

def labelKinds : List TokenKind := [.identifier, .regex, .blank]

def descriptorOf (checker : Regex.Checker) (label : Token) : Except PatternError Descriptor :=
  match label.kind with
  | .regex =>
      match Regex.ofLiteral checker label.text with
      | .ok regex => .ok (.regex regex)
      | .error cause =>
          .error (.invalidRegex (Text.strip (· = '/') label.text) cause label.position)
  | .blank => .ok .blank
  | _ => .ok (.identifier label.text)

-- The number of a group: in the range of 64 bits, not zero, and on a regex one
-- that it has. What stands behind the digits does not count.
def groupNumber (descriptor : Descriptor) (text : Text) : Except GroupFault Nat :=
  let numeral := Numeral.read text
  if numeral.rest = text ∨ numeral.value < 0 ∨ 0xffffffffffffffff < numeral.value then
    .error .outOfRange
  else if numeral.value = 0 then .error .zero
  else match descriptor with
    | .regex regex =>
        if regex.captures < numeral.value.toNat then
          .error (.noSuchGroup regex.source regex.captures)
        else .ok numeral.value.toNat
    | _ => .ok numeral.value.toNat

namespace Production

def declareCapture (settings : Settings) (underNegation : Bool) (name : Token) :
    Production Unit := do
  if settings.checkNames then
    setScope (← ofScope name.position ((← getScope).declare name.text))
    if underNegation then throw (.captureUnderNegation name.text name.position)

def declareGroup (settings : Settings) (name : Token) : Production Unit := do
  if settings.checkNames then
    setScope (← ofScope name.position ((← getScope).declareGroup name.text))

def reference (settings : Settings) (name : Token) : Production Unit := do
  if settings.checkNames then
    ofScope name.position ((← getScope).reference name.text)

def groupCapture (settings : Settings) (descriptor : Descriptor) : Production GroupCapture := do
  let number ← consume .number
  let _ ← consume .equals
  let name ← consume .identifier
  match groupNumber descriptor number.text with
  | .error fault => throw (.invalidGroupCapture number.text fault number.position)
  | .ok group =>
      declareGroup settings name
      return ⟨group, name.text⟩

def captureName : Production (Option Token) := do
  if ← accepts .equals then
    let name ← consume .identifier
    return some name
  else return none

def declareOptional (settings : Settings) (underNegation : Bool) :
    Option Token → Production (Option Text)
  | none => return none
  | some name => do
      declareCapture settings underNegation name
      return some name.text

def labelled (settings : Settings) (underNegation : Bool) (relation : Relation) (label : Token) :
    Production Description := do
  let descriptor ← ofExcept (descriptorOf settings.resolver.checkRegex label)
  let groups ← many (accepts .hash) (groupCapture settings descriptor)
  let capture ← declareOptional settings underNegation (← captureName)
  return { Description.plain relation descriptor with capture, groups }

def linked (settings : Settings) (underNegation : Bool) (relation : Relation) :
    Production Description := do
  let target ← consume .identifier
  let name ← captureName
  reference settings target
  let capture ← declareOptional settings underNegation name
  return { Description.plain relation .unspecified with link := some target.text, capture }

def backreferenced (settings : Settings) (relation : Relation) : Production Description := do
  let target ← consume .identifier
  reference settings target
  return { Description.plain relation .unspecified with backreference := some target.text }

def bareDescription (settings : Settings) (underNegation : Bool) (relation : Relation) :
    Production Description := do
  if let some label ← acceptAny labelKinds then labelled settings underNegation relation label
  else if ← accepts .tilde then linked settings underNegation relation
  else if ← accepts .equals then backreferenced settings relation
  else unexpected

def description (settings : Settings) (underNegation : Bool) (relation : Relation) :
    Production Description := do
  let descriptorNegated ← accepts .bang
  let categoryMatch ← accepts .atSign
  let bare ← bareDescription settings underNegation relation
  return { bare with descriptorNegated, categoryMatch }

end Production

end TreeQuery.Grammar
