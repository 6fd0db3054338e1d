import TreeQuery.Grammar.Level
import Mathlib.Data.Option.Basic
import TreeQuery.Proofs.Strategy.Tree

/- Two readings with different strategies, step by step. The one takes the same tokens and
   declares the same names as the other, fails where the other fails, and gives the same
   tree with its own strategies in it. -/
set_option autoImplicit false

namespace TreeQuery

namespace Resolver

theorem resolve_bare_equip (one other : Resolver) (symbol : Text) :
    other.resolveBare symbol = (one.resolveBare symbol).map (Relation.equip other) := by
  unfold resolveBare
  split
  · rfl
  · split <;> rfl

theorem resolve_with_equip {one other : Resolver} (checkers : one.checkRegex = other.checkRegex)
    (symbol argument : Text) :
    other.resolveWith symbol argument =
      (one.resolveWith symbol argument).map (Relation.equip other) := by
  unfold resolveWith
  rw [checkers]
  split
  · split <;> rfl
  · split
    · split <;> rfl
    · split <;> rfl
    · rfl
    · rfl

theorem resolve_equip {one other : Resolver} (checkers : one.checkRegex = other.checkRegex)
    (symbol : Text) (argument : Option Text) :
    other.resolve symbol argument = (one.resolve symbol argument).map (Relation.equip other) := by
  cases argument with
  | none => exact resolve_bare_equip one other symbol
  | some argument => exact resolve_with_equip checkers symbol argument

end Resolver

namespace Grammar

-- Settings that differ in their strategies alone: what the one resolves to is changed into what
-- the other resolves to.
structure Settings.Mirrors (change : Relation → Relation) (one other : Settings) : Prop where
  checkRegex_eq : other.resolver.checkRegex = one.resolver.checkRegex
  checkNames_eq : other.checkNames = one.checkNames
  resolve_eq : ∀ symbol argument, other.resolver.resolve symbol argument =
    (one.resolver.resolve symbol argument).map change

theorem Settings.equip_mirrors {one other : Resolver} (checkNames : Bool)
    (checkers : one.checkRegex = other.checkRegex) :
    Settings.Mirrors (Relation.equip other) ⟨one, checkNames⟩ ⟨other, checkNames⟩ :=
  ⟨checkers.symm, rfl, Resolver.resolve_equip checkers⟩

structure Level.Mirrors (change : Relation → Relation) (one other : Level) : Prop where
  node : ∀ underNegation relation, other.node underNegation (change relation) =
    Described.mapRelations change <$> one.node underNegation relation
  subNode : ∀ underNegation relation, other.subNode underNegation (change relation) =
    Described.mapRelations change <$> one.subNode underNegation relation
  disjunction : ∀ underNegation, other.disjunction underNegation =
    Node.mapRelations change <$> one.disjunction underNegation

namespace Production

section Combinators

variable {α β γ : Type}

theorem many_up_to_map (more : Production Bool) (item : Production α) (change : α → β)
    (bound : Nat) :
    manyUpTo more (change <$> item) bound = List.map change <$> manyUpTo more item bound := by
  induction bound with
  | zero => simp only [manyUpTo, map_bind, map_pure, List.map_nil]
  | succ bound ih =>
      simp only [manyUpTo, map_bind]
      apply bind_congr
      intro found
      cases found with
      | false => rfl
      | true => simp only [if_true, ih, bind_map_left, map_bind, map_pure, List.map_cons]

theorem many_map (more : Production Bool) (item : Production α) (change : α → β) :
    many more (change <$> item) = List.map change <$> many more item := by
  unfold many
  rw [map_bind]
  exact bind_congr fun bound => many_up_to_map more item change bound

end Combinators

variable {one other : Settings} {change : Relation → Relation}
  (mirrors : one.Mirrors change other)

include mirrors

section Words

theorem reference_mirrors (name : Token) : reference other name = reference one name := by
  unfold reference
  rw [mirrors.checkNames_eq]

theorem declare_optional_mirrors (underNegation : Bool) (name : Option Token) :
    declareOptional other underNegation name = declareOptional one underNegation name := by
  unfold declareOptional declareCapture
  rw [mirrors.checkNames_eq]

theorem group_capture_mirrors (descriptor : Descriptor) :
    groupCapture other descriptor = groupCapture one descriptor := by
  unfold groupCapture declareGroup
  rw [mirrors.checkNames_eq]

theorem labelled_mirrors (underNegation : Bool) (relation : Relation) (label : Token) :
    labelled other underNegation (change relation) label =
      Description.mapRelation change <$> labelled one underNegation relation label := by
  unfold labelled
  simp only [map_bind, map_pure, mirrors.checkRegex_eq, group_capture_mirrors mirrors,
    declare_optional_mirrors mirrors]
  rfl

theorem linked_mirrors (underNegation : Bool) (relation : Relation) :
    linked other underNegation (change relation) =
      Description.mapRelation change <$> linked one underNegation relation := by
  unfold linked
  simp only [map_bind, map_pure, reference_mirrors mirrors, declare_optional_mirrors mirrors]
  rfl

theorem backreferenced_mirrors (relation : Relation) :
    backreferenced other (change relation) =
      Description.mapRelation change <$> backreferenced one relation := by
  unfold backreferenced
  simp only [map_bind, map_pure, reference_mirrors mirrors]
  rfl

theorem bare_mirrors (underNegation : Bool) (relation : Relation) :
    bareDescription other underNegation (change relation) =
      Description.mapRelation change <$> bareDescription one underNegation relation := by
  unfold bareDescription
  rw [map_bind]
  apply bind_congr
  intro label
  cases label with
  | some label => exact labelled_mirrors mirrors underNegation relation label
  | none =>
      rw [map_bind]
      apply bind_congr
      intro tilde
      cases tilde with
      | true => exact linked_mirrors mirrors underNegation relation
      | false =>
          rw [if_neg Bool.false_ne_true, if_neg Bool.false_ne_true, map_bind]
          apply bind_congr
          intro equals
          cases equals with
          | true => exact backreferenced_mirrors mirrors relation
          | false => rfl

theorem description_mirrors (underNegation : Bool) (relation : Relation) :
    description other underNegation (change relation) =
      Description.mapRelation change <$> description one underNegation relation := by
  unfold description
  simp only [map_bind, map_pure, bare_mirrors mirrors, bind_map_left]
  rfl

end Words

section Levels

variable {α β : Type} {deeper deeper' : Option Level}
  (below : Option.Rel (Level.Mirrors change) deeper deeper') (underNegation : Bool)

include below

omit mirrors in
theorem enter_mirrors (opener : Position) {next : Level → Production α}
    {next' : Level → Production β} {result : α → β}
    (others : ∀ level level', level.Mirrors change level' → next' level' = result <$> next level) :
    (enter deeper' opener >>= next') = result <$> (enter deeper opener >>= next) := by
  cases below with
  | none => rfl
  | some levels =>
      unfold enter
      rw [pure_bind, pure_bind]
      exact others _ _ levels

theorem node_mirrors (relation : Relation) :
    node other deeper' underNegation (change relation) =
      Described.mapRelations change <$> node one deeper underNegation relation := by
  unfold node
  rw [map_bind]
  apply bind_congr
  intro opener
  cases opener with
  | some opener =>
      apply enter_mirrors below
      intro level level' levels
      simp only [levels.subNode, bind_map_left, map_bind, map_pure]
  | none =>
      simp only [description_mirrors mirrors, bind_map_left, map_bind, map_pure]
      rfl

theorem related_mirrors : related other deeper' underNegation =
    Node.mapRelations change <$> related one deeper underNegation := by
  unfold related
  rw [map_bind]
  apply bind_congr
  intro written
  rw [mirrors.resolve_eq]
  cases one.resolver.resolve written.symbol written.argument with
  | error cause => rfl
  | ok relation =>
      apply enter_mirrors below
      intro level level' levels
      simp only [levels.node, bind_map_left, map_bind, map_pure]
      rfl

theorem plain_mirrors : plainConstraint other deeper' underNegation =
    Node.mapRelations change <$> plainConstraint one deeper underNegation := by
  unfold plainConstraint
  rw [map_bind]
  apply bind_congr
  intro opener
  cases opener with
  | some opener =>
      apply enter_mirrors below
      intro level level' levels
      simp only [levels.disjunction, bind_map_left, map_bind, map_pure]
  | none => exact related_mirrors mirrors below underNegation

theorem constraint_mirrors : constraint other deeper' underNegation =
    Node.mapRelations change <$> constraint one deeper underNegation := by
  have plain := plain_mirrors mirrors below
  unfold constraint
  rw [map_bind]
  apply bind_congr
  intro bang
  cases bang with
  | true => simp only [if_true, plain, bind_map_left, map_bind, map_pure, Node.map_relations_negate]
  | false =>
      rw [if_neg Bool.false_ne_true, if_neg Bool.false_ne_true, map_bind]
      apply bind_congr
      intro question
      cases question with
      | true =>
          simp only [if_true, plain, bind_map_left, map_bind, map_pure,
            Node.map_relations_make_optional]
      | false => exact plain underNegation

theorem conjunction_mirrors : conjunction other deeper' underNegation =
    Node.mapRelations change <$> conjunction one deeper underNegation := by
  unfold conjunction
  simp only [constraint_mirrors mirrors below, bind_map_left, ← map_bind, many_map]
  simp only [map_bind, map_pure, Node.map_relations_coordinate, List.map_cons]

theorem branch_mirrors : branch other deeper' underNegation =
    Prod.map (Node.mapRelations change) id <$> branch one deeper underNegation := by
  unfold branch
  simp only [conjunction_mirrors mirrors below, bind_map_left, map_bind, map_pure]
  rfl

theorem disjunction_mirrors : disjunction other deeper' underNegation =
    Node.mapRelations change <$> disjunction one deeper underNegation := by
  unfold disjunction
  simp only [branch_mirrors mirrors below, bind_map_left, ← map_bind, many_map]
  simp only [map_bind, map_pure, Node.map_relations_coordinate, List.map_cons, List.map_map]
  rfl

theorem sub_node_mirrors (relation : Relation) :
    subNode other deeper' underNegation (change relation) =
      Described.mapRelations change <$> subNode one deeper underNegation relation := by
  unfold subNode
  rw [node_mirrors mirrors below, bind_map_left, map_bind]
  apply bind_congr
  intro inner
  rw [map_bind]
  apply bind_congr
  intro more
  cases more with
  | false => rfl
  | true =>
      simp only [if_true, disjunction_mirrors mirrors below, bind_map_left, map_bind, map_pure]
      exact bind_congr fun child =>
        congrArg pure (Node.map_relations_attach change inner child).symm

end Levels

end Production

variable {one other : Settings} {change : Relation → Relation}
  (mirrors : one.Mirrors change other)

include mirrors

theorem level_above_mirrors {deeper deeper' : Option Level}
    (below : Option.Rel (Level.Mirrors change) deeper deeper') :
    (levelAbove one deeper).Mirrors change (levelAbove other deeper') :=
  ⟨Production.node_mirrors mirrors below, Production.sub_node_mirrors mirrors below,
    Production.disjunction_mirrors mirrors below⟩

theorem level_mirrors (depth : Nat) : (level one depth).Mirrors change (level other depth) := by
  induction depth with
  | zero => exact level_above_mirrors mirrors .none
  | succ depth ih => exact level_above_mirrors mirrors (.some ih)

theorem whole_pattern_mirrors (root : change Relation.root = Relation.root) :
    wholePattern other = Described.mapRelations change <$> wholePattern one := by
  have top := (level_mirrors mirrors maxNesting).subNode false Relation.root
  rw [root] at top
  unfold wholePattern
  simp only [top, bind_map_left, map_bind, map_pure]

end Grammar

end TreeQuery
