import TreeQuery.Relation.Basic
import TreeQuery.Relation.Error

/- From an operator and its argument to a relation. A resolver holds the
   strategies, and hands them to the relations that need them. -/
set_option autoImplicit false

namespace TreeQuery

structure Resolver where
  basicCategory : BasicCategory
  headFinder : HeadFinder
  checkRegex : Regex.Checker

namespace Resolver

/-- Penn Treebank categories, the leftmost child as head, and the regex syntax of this library. -/
def standard : Resolver := ⟨.pennTreebank, .leftmost, Regex.check⟩

instance : Inhabited Resolver := ⟨standard⟩

end Resolver

def stripMark (mark : Char) : Text → Bool × Text
  | [] => (false, [])
  | c :: rest => if c = mark then (true, rest) else (false, c :: rest)

def isSlashed (text : Text) : Bool :=
  2 ≤ text.length && text.head? = some '/' && text.getLast? = some '/'

def ChainArgument.ofText (checker : Regex.Checker) (symbol text : Text) :
    Except RelationError ChainArgument :=
  let (negated, unmarked) := stripMark '!' text
  let (categoryMatch, body) := stripMark '@' unmarked
  if body = ['_', '_'] then .ok ⟨.blank, negated, categoryMatch⟩
  else if isSlashed body then
    match Regex.ofLiteral checker body with
    | .ok regex => .ok ⟨.regex regex, negated, categoryMatch⟩
    | .error cause => .error (.invalidRegex symbol text cause)
  else if body = [] then .error (.missingArgument symbol)
  else .ok ⟨.identifier body, negated, categoryMatch⟩

-- The number of a child: an optional sign and digits, nothing else, not zero,
-- and in the range of 32 bits with sign.
def childIndex? (text : Text) : Option Int :=
  let numeral := Numeral.read text
  if numeral.rest = [] ∧ numeral.value ≠ 0 ∧ -0x80000000 ≤ numeral.value ∧
      numeral.value ≤ 0x7fffffff then
    some numeral.value
  else none

namespace Resolver

def resolveBare (resolver : Resolver) (symbol : Text) : Except RelationError Relation :=
  if (ChainRelation.ofSymbol? symbol).isSome then .error (.missingArgument symbol)
  else match PlainRelation.ofSymbol? symbol with
    | none => .error (.unknownRelation symbol)
    | some relation =>
        .ok ⟨.plain relation, if relation.isHeadRelation then some resolver.headFinder else none,
          none⟩

def resolveWith (resolver : Resolver) (symbol argument : Text) : Except RelationError Relation :=
  match ChainRelation.ofSymbol? symbol with
  | some chain =>
      match ChainArgument.ofText resolver.checkRegex symbol argument with
      | .error error => .error error
      | .ok parsed =>
          .ok ⟨.chain chain parsed, none,
            if parsed.categoryMatch then some resolver.basicCategory else none⟩
  | none =>
      match PlainRelation.ofSymbol? symbol with
      | some .immediatelyDominates =>
          match childIndex? argument with
          | some index => .ok (.ofKind (.hasChild index))
          | none => .error (.invalidIndex symbol argument)
      | some .immediatelyDominatedBy =>
          match childIndex? argument with
          | some index => .ok (.ofKind (.childOf index))
          | none => .error (.invalidIndex symbol argument)
      | some _ => .error (.unexpectedArgument symbol argument)
      | none => .error (.unknownRelation symbol)

def resolve (resolver : Resolver) (symbol : Text) :
    Option Text → Except RelationError Relation
  | none => resolver.resolveBare symbol
  | some argument => resolver.resolveWith symbol argument

end Resolver

end TreeQuery
