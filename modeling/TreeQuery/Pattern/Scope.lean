import TreeQuery.Text.Basic

/- The names that a pattern has declared so far. Node names and group variables
   share one namespace, but only node names can be referred to. A scope is a
   value: keeping an old one is a snapshot, and going back to it is a restore. -/
set_option autoImplicit false

namespace TreeQuery

-- The known names; neither list holds a name twice.
structure Scope where
  nodes : List Text
  groups : List Text
deriving DecidableEq

inductive ScopeError where
  | duplicate (name : Text)
  | unknown (name : Text)
deriving DecidableEq

def ScopeError.message : ScopeError → String
  | duplicate name => "variable " ++ String.ofList name ++ " has been declared twice"
  | unknown name =>
      "variable " ++ String.ofList name ++ " was referenced before it was declared"

def insertName (name : Text) : List Text → List Text
  | [] => [name]
  | other :: names =>
      if name = other then other :: names
      else if name < other then name :: other :: names
      else other :: insertName name names

namespace Scope

def empty : Scope := ⟨[], []⟩

def knows (scope : Scope) (name : Text) : Bool :=
  scope.nodes.contains name || scope.groups.contains name

def contains (scope : Scope) (name : Text) : Bool := scope.nodes.contains name

def declare (name : Text) (scope : Scope) : Except ScopeError Scope :=
  if scope.knows name then .error (.duplicate name)
  else .ok { scope with nodes := name :: scope.nodes }

def declareGroup (name : Text) (scope : Scope) : Except ScopeError Scope :=
  if scope.knows name then .error (.duplicate name)
  else .ok { scope with groups := name :: scope.groups }

def reference (name : Text) (scope : Scope) : Except ScopeError Unit :=
  if scope.contains name then .ok () else .error (.unknown name)

def union (known added : List Text) : List Text :=
  added.foldl (fun names name => names.insert name) known

def merge (scope other : Scope) : Scope :=
  ⟨union scope.nodes other.nodes, union scope.groups other.groups⟩

def mergeAll (scope : Scope) (others : List Scope) : Scope := others.foldl merge scope

def size (scope : Scope) : Nat := scope.nodes.length + scope.groups.length

def isEmpty (scope : Scope) : Bool := scope.nodes.isEmpty && scope.groups.isEmpty

def sameNames (a b : List Text) : Bool := a.all b.contains && b.all a.contains

def same (a b : Scope) : Bool := sameNames a.nodes b.nodes && sameNames a.groups b.groups

def names (scope : Scope) : List Text :=
  (scope.nodes ++ scope.groups).foldr insertName []

end Scope

end TreeQuery
