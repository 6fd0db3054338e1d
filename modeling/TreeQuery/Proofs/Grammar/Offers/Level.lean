import TreeQuery.Proofs.Grammar.Offers.Word
import TreeQuery.Proofs.Grammar.Reads.Level

/- The phrases that nest, level by level: whatever is asked for on the way through one
   can come next in one. How deep it may still be nested plays no part. -/
set_option autoImplicit false

namespace TreeQuery.Grammar

instance : Inhabited OperationPhrase := ⟨.plain default none⟩

instance : Inhabited NodePhrase := ⟨.label ⟨none, none, default⟩⟩

instance : Inhabited SubNodePhrase := ⟨.alone default⟩

instance : Inhabited PlainPhrase := ⟨.related default default⟩

instance : Inhabited ConstraintPhrase := ⟨.plain default⟩

instance : Inhabited ConjunctionPhrase := ⟨.of default .nil⟩

instance : Inhabited DisjunctionPhrase := ⟨.of default .nil⟩

structure LevelOffers (settings : Settings) (depth : Nat) : Prop where
  node : ∀ (underNegation : Bool) (relation : Relation),
    Offers ((level settings depth).node underNegation relation) (Spelt NodePhrase.tokens)
  subNode : ∀ (underNegation : Bool) (relation : Relation),
    Offers ((level settings depth).subNode underNegation relation) (Spelt SubNodePhrase.tokens)
  disjunction : ∀ underNegation : Bool,
    Offers ((level settings depth).disjunction underNegation) (Spelt DisjunctionPhrase.tokens)

theorem constraint_starts :
    ∀ kind ∈ constraintStart, Continues (Spelt ConstraintPhrase.tokens) [] kind := by
  intro kind inside
  simp only [constraintStart, List.mem_cons, List.not_mem_nil, or_false] at inside
  rcases inside with same | same | same | same | same
  · subst same
    exact .leaf default ⟨.plain (.related (.plain default none) default), rfl⟩
  · subst same
    exact .leaf default ⟨.plain (.related (.chain default default) default), rfl⟩
  · subst same
    exact .leaf default ⟨.negated default default, rfl⟩
  · subst same
    exact .leaf default ⟨.optional default default, rfl⟩
  · subst same
    exact .leaf default ⟨.plain (.group default default default), rfl⟩

theorem conjunct_starts :
    ∀ kind ∈ conjunctStart, Continues (Spelt ConjunctsPhrase.tokens) [] kind := by
  intro kind inside
  rcases List.mem_append.1 inside with start | joint
  · apply (constraint_starts kind start).widen
    intro word spelt
    obtain ⟨constraint, same⟩ := spelt
    exact ⟨[], .cons none constraint .nil, by simp [ConjunctsPhrase.tokens, optionalTokens, same]⟩
  · rw [List.mem_singleton.1 joint]
    exact .leaf default ⟨.cons (some default) default .nil, rfl⟩

namespace Offers

open Production

variable {settings : Settings} {depth : Nat} (underNegation : Bool) (relation : Relation)

theorem enter {β : Type} {language : List Token → Prop} {next : Level → Production β}
    {position : Position}
    (others : ∀ lower, depth = lower + 1 → Offers (next (level settings lower)) language) :
    Offers (enter (levelBelow settings depth) position >>= next) language := by
  cases depth with
  | zero => exact fun _ _ _ same => nomatch same
  | succ lower => exact others lower rfl

variable (below : ∀ lower, depth = lower + 1 → LevelOffers settings lower)

include below

theorem node : Offers (node settings (levelBelow settings depth) underNegation relation)
    (Spelt NodePhrase.tokens) := by
  unfold Production.node
  apply accept (by decide) (.leaf default ⟨.enclosed default default default, rfl⟩)
  intro opener
  cases opener with
  | some opener =>
      apply enter
      intro lower same
      apply bind ((below lower same).subNode underNegation relation)
      · intro word spelt
        obtain ⟨inner, same⟩ := spelt
        exact ⟨_, .enclosed opener inner default, by rw [NodePhrase.tokens, same]; rfl⟩
      intro top taken spelt
      obtain ⟨inner, same⟩ := spelt
      subst same
      apply consume (by decide) (.leaf default ⟨.enclosed opener inner default, rfl⟩)
      intro closer
      exact pure _ ⟨.enclosed opener inner closer, rfl⟩
  | none =>
      apply map
      apply (description settings underNegation relation).mono
      intro word spelt
      obtain ⟨description, same⟩ := spelt
      exact ⟨.label description, same⟩

theorem related : Offers (related settings (levelBelow settings depth) underNegation)
    (Spelt PlainPhrase.tokens) := by
  unfold Production.related
  apply bind operation
  · intro word spelt
    obtain ⟨operation, same⟩ := spelt
    exact ⟨_, .related operation default, by rw [PlainPhrase.tokens, same]⟩
  intro written taken spelt
  obtain ⟨operation, same⟩ := spelt
  subst same
  cases settings.resolver.resolve written.symbol written.argument with
  | error cause => exact throw _ (by simp)
  | ok relation =>
      apply enter
      intro lower same
      apply map
      apply ((below lower same).node underNegation relation).mono
      intro word spelt
      obtain ⟨node, same⟩ := spelt
      exact ⟨.related operation node, by rw [PlainPhrase.tokens, same]⟩

theorem plain : Offers (plainConstraint settings (levelBelow settings depth) underNegation)
    (Spelt PlainPhrase.tokens) := by
  unfold plainConstraint
  apply accept (by decide) (.leaf default ⟨.group default default default, rfl⟩)
  intro opener
  cases opener with
  | some opener =>
      apply enter
      intro lower same
      apply bind ((below lower same).disjunction underNegation)
      · intro word spelt
        obtain ⟨members, same⟩ := spelt
        exact ⟨_, .group opener members default, by rw [PlainPhrase.tokens, same]; rfl⟩
      intro group taken spelt
      obtain ⟨members, same⟩ := spelt
      subst same
      apply consume (by decide) (.leaf default ⟨.group opener members default, rfl⟩)
      intro closer
      exact pure _ ⟨.group opener members closer, rfl⟩
  | none => exact related underNegation below

theorem constraint : Offers (constraint settings (levelBelow settings depth) underNegation)
    (Spelt ConstraintPhrase.tokens) := by
  unfold Production.constraint
  apply accepts (by decide) (.leaf default ⟨.negated default default, rfl⟩)
  intro bang
  cases bang with
  | some bang =>
      apply map
      apply (plain true below).mono
      intro word spelt
      obtain ⟨constraint, same⟩ := spelt
      exact ⟨.negated bang constraint, by rw [ConstraintPhrase.tokens, same]; rfl⟩
  | none =>
      apply accepts (by decide) (.leaf default ⟨.optional default default, rfl⟩)
      intro question
      cases question with
      | some question =>
          apply map
          apply (plain underNegation below).mono
          intro word spelt
          obtain ⟨constraint, same⟩ := spelt
          exact ⟨.optional question constraint, by rw [ConstraintPhrase.tokens, same]; rfl⟩
      | none =>
          apply (plain underNegation below).mono
          intro word spelt
          obtain ⟨constraint, same⟩ := spelt
          exact ⟨.plain constraint, same⟩

theorem conjuncts :
    Offers
      (Production.many (checkAny conjunctStart) (Production.accept .ampersand >>= fun _ =>
        Production.constraint settings (levelBelow settings depth) underNegation))
      (Spelt ConjunctsPhrase.tokens) := by
  apply Offers.many
    (fun word => ∃ joint next, optionalTokens joint ++ ConstraintPhrase.tokens next = word)
    (.check (by decide) conjunct_starts)
  · intro taken led
    subst led
    apply accept (by decide) (.leaf default ⟨some default, default, rfl⟩)
    intro joint
    apply (constraint underNegation below).mono
    intro word spelt
    obtain ⟨next, same⟩ := spelt
    exact ⟨joint, next, by rw [same, List.nil_append]⟩
  · exact ⟨.nil, rfl⟩
  · intro word spelt
    obtain ⟨joint, next, same⟩ := spelt
    have nonempty := Opens.length_pos (constraint_opens next) (by decide)
    rw [← same, ← List.length_pos_iff, List.length_append]
    omega
  · intro first others spelt speltOthers
    obtain ⟨joint, next, same⟩ := spelt
    obtain ⟨conjuncts, sameOthers⟩ := speltOthers
    exact ⟨.cons joint next conjuncts, by
      rw [ConjunctsPhrase.tokens, sameOthers, ← same, List.append_assoc]⟩

theorem conjunction : Offers (conjunction settings (levelBelow settings depth) underNegation)
    (Spelt ConjunctionPhrase.tokens) := by
  unfold Production.conjunction
  apply bind (constraint underNegation below)
  · intro word spelt
    obtain ⟨first, same⟩ := spelt
    exact ⟨[], .of first .nil, by rw [ConjunctionPhrase.tokens, same]; rfl⟩
  intro node taken spelt
  obtain ⟨first, same⟩ := spelt
  subst same
  apply map
  apply (conjuncts underNegation below).mono
  intro word spelt
  obtain ⟨others, same⟩ := spelt
  exact ⟨.of first others, by rw [ConjunctionPhrase.tokens, same]⟩

theorem branch : Offers (branch settings (levelBelow settings depth) underNegation)
    (Spelt ConjunctionPhrase.tokens) := by
  unfold Production.branch
  apply bind (conjunction underNegation below)
  · exact fun word spelt => ⟨[], by rw [List.append_nil]; exact spelt⟩
  intro node taken spelt
  apply act Acts.get_scope
  intro names
  exact pure _ (by rw [List.append_nil]; exact spelt)

theorem disjuncts (before : Scope) :
    Offers
      (Production.many (Production.accepts .pipe) (setScope before >>= fun _ =>
        Production.branch settings (levelBelow settings depth) underNegation))
      (Spelt DisjunctsPhrase.tokens) := by
  have starts : Continues (Spelt DisjunctsPhrase.tokens) [] .pipe :=
    .leaf default ⟨.cons default default .nil, rfl⟩
  apply Offers.many
    (fun word => ∃ bar : Leaf [.pipe], ∃ next, bar.token :: ConjunctionPhrase.tokens next = word)
    (.accepts (by decide) starts)
  · intro taken led
    obtain ⟨bar, same⟩ := led
    subst same
    apply act fun scope => Acts.set_scope scope before
    intro done
    apply (branch underNegation below).mono
    intro word spelt
    obtain ⟨next, same⟩ := spelt
    exact ⟨bar, next, by rw [same]; rfl⟩
  · exact ⟨.nil, rfl⟩
  · intro word spelt
    obtain ⟨bar, next, same⟩ := spelt
    rw [← same]
    exact List.cons_ne_nil _ _
  · intro first others spelt speltOthers
    obtain ⟨bar, next, same⟩ := spelt
    obtain ⟨disjuncts, sameOthers⟩ := speltOthers
    exact ⟨.cons bar next disjuncts, by
      rw [DisjunctsPhrase.tokens, sameOthers, ← same, List.cons_append]⟩

theorem disjunction : Offers (disjunction settings (levelBelow settings depth) underNegation)
    (Spelt DisjunctionPhrase.tokens) := by
  unfold Production.disjunction
  apply act Acts.get_scope
  intro before
  apply bind (branch underNegation below)
  · intro word spelt
    obtain ⟨first, same⟩ := spelt
    exact ⟨[], .of first .nil, by rw [DisjunctionPhrase.tokens, same]; rfl⟩
  intro found taken spelt
  obtain ⟨first, same⟩ := spelt
  subst same
  apply bind (disjuncts underNegation below before)
  · intro word spelt
    obtain ⟨others, same⟩ := spelt
    exact ⟨[], .of first others, by rw [DisjunctionPhrase.tokens, same, List.append_nil]⟩
  intro others taken spelt
  obtain ⟨others, same⟩ := spelt
  subst same
  apply act Acts.get_scope
  intro names
  apply act fun scope => Acts.set_scope scope _
  intro done
  exact pure _ ⟨.of first others, by rw [DisjunctionPhrase.tokens, List.append_nil]⟩

theorem subNode : Offers (subNode settings (levelBelow settings depth) underNegation relation)
    (Spelt SubNodePhrase.tokens) := by
  unfold Production.subNode
  apply bind (node underNegation relation below)
  · intro word spelt
    obtain ⟨node, same⟩ := spelt
    exact ⟨[], .alone node, by rw [SubNodePhrase.tokens, same, List.append_nil]⟩
  intro inner taken spelt
  obtain ⟨node, same⟩ := spelt
  subst same
  apply check
  · intro kind start
    apply (constraint_starts kind start).widen
    intro word spelt
    obtain ⟨constraint, same⟩ := spelt
    exact ⟨[], .above node (.of (.of constraint .nil) .nil), by
      simp [SubNodePhrase.tokens, DisjunctionPhrase.tokens, ConjunctionPhrase.tokens,
        DisjunctsPhrase.tokens, ConjunctsPhrase.tokens, same]⟩
  intro more
  cases more with
  | false => exact pure _ ⟨.alone node, by rw [SubNodePhrase.tokens, List.append_nil]⟩
  | true =>
      apply map
      apply (disjunction underNegation below).mono
      intro word spelt
      obtain ⟨children, same⟩ := spelt
      exact ⟨.above node children, by rw [SubNodePhrase.tokens, same]⟩

end Offers

theorem level_offers (settings : Settings) (depth : Nat) : LevelOffers settings depth := by
  apply level_induction ?_ depth
  intro depth below
  constructor
  · intro underNegation relation
    rw [level_eq]
    exact Offers.node underNegation relation below
  · intro underNegation relation
    rw [level_eq]
    exact Offers.subNode underNegation relation below
  · intro underNegation
    rw [level_eq]
    exact Offers.disjunction underNegation below

end TreeQuery.Grammar
