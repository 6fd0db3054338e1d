import TreeQuery.Pattern.Basic
import TreeQuery.Proofs.Strategy.Mirror

/- Strategies do not take part in reading a pattern. What they decide is which head finder
   and which basic categories the relations carry. -/
set_option autoImplicit false

namespace TreeQuery

-- The strategies in the tree are those of the resolver, where one is needed and nowhere else.
def Node.EquippedBy (node : Node) (resolver : Resolver) : Prop :=
  ∀ description ∈ node.descriptions,
    description.relation.Carries resolver.basicCategory resolver.headFinder

theorem Relation.carries_equip (resolver : Resolver) (relation : Relation) :
    (relation.equip resolver).Carries resolver.basicCategory resolver.headFinder := ⟨rfl, rfl⟩

theorem Relation.kind_equip (resolver : Resolver) (relation : Relation) :
    (relation.equip resolver).kind = relation.kind := rfl

theorem Node.map_relations_equipped (resolver : Resolver) (node : Node) :
    (node.mapRelations (Relation.equip resolver)).EquippedBy resolver := by
  intro description inside
  rw [descriptions_map_relations] at inside
  obtain ⟨earlier, _, rfl⟩ := List.mem_map.1 inside
  exact Relation.carries_equip resolver earlier.relation

namespace Pattern

def equip (resolver : Resolver) (pattern : Pattern) : Pattern :=
  { pattern with root := pattern.root.mapRelations (Relation.equip resolver), resolver }

end Pattern

variable {one other : Resolver}

theorem run_tokens_equip (checkers : one.checkRegex = other.checkRegex) (checkNames : Bool)
    (tokens : List Token) :
    runTokens ⟨other, checkNames⟩ tokens =
      match runTokens ⟨one, checkNames⟩ tokens with
      | .ok top state => .ok (top.mapRelations (Relation.equip other)) state
      | .error error state => .error error state := by
  have mirrors := Grammar.Settings.equip_mirrors checkNames checkers
  unfold runTokens
  rw [Grammar.whole_pattern_mirrors mirrors rfl]
  change EStateM.map _ _ _ = _
  unfold EStateM.map EStateM.run
  cases Grammar.wholePattern ⟨one, checkNames⟩ _ <;> rfl

theorem parse_text_equip (checkers : one.checkRegex = other.checkRegex) (text : Text) :
    parseText other text = (parseText one text).map fun parsed =>
      ⟨parsed.top.mapRelations (Relation.equip other), parsed.names⟩ := by
  unfold parseText
  cases tokenize text with
  | error error => rfl
  | ok tokens =>
      change parseTokensWith _ _ = Except.map _ (parseTokensWith _ _)
      unfold parseTokensWith
      rw [run_tokens_equip checkers]
      cases runTokens ⟨one, true⟩ tokens <;> rfl

namespace Pattern

theorem compile_equip (checkers : one.checkRegex = other.checkRegex) (text : Text) :
    compile other text = (compile one text).map (equip other) := by
  unfold compile
  rw [parse_text_equip checkers]
  cases parseText one (terminated text) <;> rfl

theorem equip_compiled {pattern : Pattern} {text : Text}
    (compiled : compile one text = .ok pattern) : pattern.equip one = pattern := by
  have again := compile_equip (Eq.refl one.checkRegex) text
  rw [compiled] at again
  exact (Except.ok.inj again).symm

/-- Strategies make no difference to whether a text is a pattern, to the error if it is none, to
its names or to its printed text. Each relation carries the strategies of its own resolver that it
needs, so that two trees are the same just if the strategies needed agree in their names. -/
theorem compile_strategies (checker : Regex.Checker) (category category' : BasicCategory)
    (finder finder' : HeadFinder) (text : Text) :
    match compile ⟨category, finder, checker⟩ text, compile ⟨category', finder', checker⟩ text with
    | .ok pattern, .ok pattern' =>
        pattern.render = pattern'.render ∧ pattern.names = pattern'.names ∧
          pattern.root.withoutStrategies = pattern'.root.withoutStrategies ∧
          pattern.root.EquippedBy ⟨category, finder, checker⟩ ∧
          pattern'.root.EquippedBy ⟨category', finder', checker⟩ ∧
          ((pattern.root == pattern'.root) = true ↔
            (¬ pattern.root.HasHeadRelation ∨ finder.name = finder'.name) ∧
              (¬ pattern.root.ComparesCategories ∨ category.name = category'.name))
    | .error error, .error error' => error = error'
    | _, _ => False := by
  have checkers : (Resolver.mk category finder checker).checkRegex =
      (Resolver.mk category' finder' checker).checkRegex := rfl
  rw [compile_equip checkers]
  cases compiled : compile ⟨category, finder, checker⟩ text with
  | error error => rfl
  | ok pattern =>
      have own := congrArg root (equip_compiled compiled)
      have equipped := Node.map_relations_equipped ⟨category, finder, checker⟩ pattern.root
      have same := Node.same_equipped ⟨category, finder, checker⟩ ⟨category', finder', checker⟩
        pattern.root
      change pattern.root.mapRelations _ = pattern.root at own
      rw [own] at equipped same
      have sameKind := Relation.kind_equip ⟨category', finder', checker⟩
      refine ⟨?_, rfl, ?_, equipped, Node.map_relations_equipped _ _, same⟩
      · exact congrArg (· ++ [';']) (Node.render_map_relations sameKind pattern.root false).symm
      · apply Eq.symm
        exact Node.map_relations_comp (fun relation => .ofKind relation.kind)
          (fun relation => congrArg Relation.ofKind (sameKind relation)) pattern.root

end Pattern

end TreeQuery
