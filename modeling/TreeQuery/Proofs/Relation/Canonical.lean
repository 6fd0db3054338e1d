import TreeQuery.Proofs.Printing.Alike
import TreeQuery.Proofs.Printing.Relation

/- The canonical spelling of a relation: its symbol and its argument. Resolving the spelling
   gives the relation again, and the argument of a chain has no other spelling. -/
set_option autoImplicit false

namespace TreeQuery

def RelationKind.argument? : RelationKind → Option Text
  | hasChild index => some (Text.ofInt index)
  | childOf index => some (Text.ofInt index)
  | chain _ argument => some argument.render
  | _ => none

theorem ChainRelation.symbol_of_symbol {symbol : Text} {chain : ChainRelation}
    (found : ofSymbol? symbol = some chain) : chain.symbol = symbol := by
  have holds := List.find?_some found
  exact of_decide_eq_true holds

namespace Resolver

variable {resolver : Resolver} {symbol : Text} {argument : Option Text} {relation : Relation}

theorem resolve_chain_argument {chain : ChainRelation} {parsed : ChainArgument}
    (found : resolver.resolve symbol argument = .ok relation)
    (isChain : relation.kind = .chain chain parsed) : argument = some parsed.render := by
  cases argument with
  | none =>
      obtain ⟨plain, kind, -⟩ := resolve_bare_again found
      cases kind.symm.trans isChain
  | some written =>
      cases named : ChainRelation.ofSymbol? symbol with
      | none =>
          obtain ⟨index, -, rfl | rfl⟩ := resolve_with_index named found
          · cases isChain
          · cases isChain
      | some other =>
          obtain ⟨read, kind, same⟩ := resolve_with_chain named found
          cases kind.symm.trans isChain
          exact congrArg some same.symm

theorem resolve_symbol_argument (found : resolver.resolve symbol argument = .ok relation) :
    resolver.resolve relation.kind.symbol relation.kind.argument? = .ok relation := by
  cases argument with
  | none =>
      obtain ⟨plain, kind, again⟩ := resolve_bare_again found
      rw [kind]
      exact again
  | some written =>
      cases named : ChainRelation.ofSymbol? symbol with
      | none =>
          obtain ⟨index, read, rfl | rfl⟩ := resolve_with_index named found
          · have again : resolver.resolveWith ['<'] (Text.ofInt index) = _ :=
              (resolve_child_index (child_index_again read)).1
            exact again
          · have again : resolver.resolveWith ['>'] (Text.ofInt index) = _ :=
              (resolve_child_index (child_index_again read)).2
            exact again
      | some chain =>
          obtain ⟨parsed, kind, same⟩ := resolve_with_chain named found
          rw [kind, RelationKind.symbol, RelationKind.argument?, same,
            ChainRelation.symbol_of_symbol named]
          exact found

theorem chain_argument_of_same {resolver' : Resolver} {symbol' : Text} {argument' : Option Text}
    {relation' : Relation} {chain : ChainRelation} {parsed : ChainArgument}
    (found : resolver.resolve symbol argument = .ok relation)
    (isChain : relation.kind = .chain chain parsed)
    (found' : resolver'.resolve symbol' argument' = .ok relation')
    (same : (relation' == relation) = true) : argument' = argument := by
  obtain ⟨kind, finder, category⟩ := relation
  obtain ⟨kind', finder', category'⟩ := relation'
  change (kind' == kind && (finder' == finder && category' == category)) = true at same
  simp only [Bool.and_eq_true] at same
  obtain ⟨kinds, -, -⟩ := same
  cases isChain
  cases kind' with
  | chain chain' parsed' =>
      change (chain' == chain && parsed' == parsed) = true at kinds
      rw [Bool.and_eq_true] at kinds
      rw [resolve_chain_argument found rfl, resolve_chain_argument found' rfl,
        parsed'.render_of_same kinds.2]
  | _ => cases kinds

/-- The symbol of a relation and its canonical argument resolve to the relation again. The
canonical argument of a chain is the one it was written with, character for character, so chains
with distinct arguments are distinct relations. -/
theorem resolve_canonical (found : resolver.resolve symbol argument = .ok relation) :
    resolver.resolve relation.kind.symbol relation.kind.argument? = .ok relation ∧
      ∀ chain parsed, relation.kind = .chain chain parsed →
        argument = some parsed.render ∧
          ∀ (resolver' : Resolver) (symbol' : Text) (argument' : Option Text)
            (relation' : Relation), resolver'.resolve symbol' argument' = .ok relation' →
              argument' ≠ argument → (relation' == relation) = false := by
  refine ⟨resolve_symbol_argument found, fun chain parsed isChain => ?_⟩
  refine ⟨resolve_chain_argument found isChain, ?_⟩
  intro resolver' symbol' argument' relation' found' distinct
  rw [Bool.eq_false_iff]
  intro same
  exact distinct (chain_argument_of_same found isChain found' same)

-- A marked argument whose label looks like a mark again, a number with a sign and zeros, and a
-- second spelling of a symbol.
theorem resolve_canonical_spellings :
    ∃ chained indexed plain : Relation,
      standard.resolve "<+".toList (some "!@!/".toList) = .ok chained ∧
      standard.resolve ">".toList (some "-02147483648".toList) = .ok indexed ∧
      standard.resolve "$..".toList none = .ok plain ∧
      chained.kind.argument? = some "!@!/".toList ∧
      indexed.kind.argument? = some "-2147483648".toList ∧ plain.kind.symbol = "$++".toList ∧
      standard.resolve chained.kind.symbol (some "!@!/".toList) = .ok chained ∧
      standard.resolve indexed.kind.symbol (some "-2147483648".toList) = .ok indexed ∧
      standard.resolve "$++".toList none = .ok plain := by
  have chained : standard.resolve "<+".toList (some "!@!/".toList) =
      .ok ⟨.chain .dominates ⟨.identifier "!/".toList, true, true⟩, none, some .pennTreebank⟩ := rfl
  have indexed : standard.resolve ">".toList (some "-02147483648".toList) =
      .ok (.ofKind (.childOf (-2147483648))) := rfl
  have plain : standard.resolve "$..".toList none =
      .ok (.ofKind (.plain .leftSisterOf)) := rfl
  exact ⟨_, _, _, chained, indexed, plain, rfl, rfl, rfl, (resolve_canonical chained).1,
    (resolve_canonical indexed).1, (resolve_canonical plain).1⟩

end Resolver

end TreeQuery
