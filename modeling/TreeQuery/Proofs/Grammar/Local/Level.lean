import TreeQuery.Proofs.Grammar.Local.Basic
import TreeQuery.Proofs.Grammar.Takes.Level

/- The productions of the grammar, from words to whole levels, know no more of the
   tokens than those that they took. -/
set_option autoImplicit false

namespace TreeQuery.Grammar

namespace Advances

open Production

variable {settings : Settings} {depth : Nat}

theorem groups (descriptor : Descriptor) :
    Advances (accepts .hash) (groupCapture settings descriptor) := by
  apply of_takes (Asks.accepts (by decide))
  intro scope taken led
  obtain ⟨hash, same⟩ := led
  subst same
  exact (Takes.group_capture settings descriptor).mono fun _ _ _ _ => by simp

variable (underNegation : Bool)

theorem conjuncts : Advances (checkAny conjunctStart)
    (accept .ampersand >>= fun _ => constraint settings (levelBelow settings depth) underNegation) := by
  apply of_takes (Asks.check (by decide))
  intro scope taken led
  apply Takes.accept_optional (by decide)
  intro joint
  apply (Takes.constraint underNegation fun lower _ => level_takes settings lower).mono
  intro tokens node names found
  obtain ⟨next, same, _⟩ := found
  subst same
  have nonempty := Opens.length_pos (constraint_opens next) (by decide)
  rw [← List.length_pos_iff]
  simp only [List.length_append]
  omega

theorem disjuncts (before : Scope) : Advances (accepts .pipe)
    (setScope before >>= fun _ => branch settings (levelBelow settings depth) underNegation) := by
  apply of_takes (Asks.accepts (by decide))
  intro scope taken led
  obtain ⟨bar, same⟩ := led
  subst same
  apply Takes.set_scope
  exact (Takes.branch underNegation fun lower _ => level_takes settings lower).mono
    fun _ _ _ _ => by simp

end Advances

structure LevelLocal (settings : Settings) (depth : Nat) : Prop where
  node : ∀ (underNegation : Bool) (relation : Relation),
    Local ((level settings depth).node underNegation relation)
  subNode : ∀ (underNegation : Bool) (relation : Relation),
    Local ((level settings depth).subNode underNegation relation)
  disjunction : ∀ underNegation : Bool, Local ((level settings depth).disjunction underNegation)

namespace Local

open Production

theorem argument_mark (kind : TokenKind) (mark : Char) (within : .endOfInput ≠ kind) :
    Local (argumentMark kind mark) := by
  apply (accepts within).bind
  intro found
  cases found <;> exact pure _

theorem chain_argument : Local chainArgument := by
  apply (accepts (by decide)).bind
  intro enclosed
  cases enclosed with
  | true =>
      apply (argument_mark .bang '!' (by decide)).bind
      intro negation
      apply (argument_mark .atSign '@' (by decide)).bind
      intro category
      apply (accept_any (by decide)).bind
      intro label
      cases label with
      | none => exact unexpected
      | some label => exact (consume (by decide)).bind fun closer => pure _
  | false =>
      apply check_any.bind
      intro found
      cases found with
      | false => exact unexpected
      | true =>
          apply (argument_mark .bang '!' (by decide)).bind
          intro negation
          exact (consume (by decide)).bind fun regex => pure _

theorem operation : Local operation := by
  apply (accept (by decide)).bind
  intro operator
  cases operator with
  | some operator =>
      apply (accept (by decide)).bind
      intro number
      cases number <;> exact pure _
  | none =>
      apply (accept (by decide)).bind
      intro operator
      cases operator with
      | none => exact unexpected
      | some operator => exact chain_argument.bind fun argument => pure _

theorem capture_name : Local captureName := by
  apply (accepts (by decide)).bind
  intro found
  cases found with
  | false => exact pure _
  | true => exact (consume (by decide)).bind fun name => pure _

variable {settings : Settings} {depth : Nat}

theorem group_capture (descriptor : Descriptor) : Local (groupCapture settings descriptor) := by
  apply (consume (by decide)).bind
  intro number
  apply (consume (by decide)).bind
  intro equals
  apply (consume (by decide)).bind
  intro name
  cases groupNumber descriptor number.text with
  | error fault => exact throw _ (by simp)
  | ok group =>
      exact (act fun _ => Acts.declare_group settings name).bind fun declared => pure _

variable (underNegation : Bool) (relation : Relation)

theorem labelled (label : Token) :
    Local (Production.labelled settings underNegation relation label) := by
  apply (act fun _ => Acts.descriptor settings.resolver.checkRegex label).bind
  intro descriptor
  apply (many (accepts (by decide)) (group_capture descriptor) (Advances.groups descriptor)).bind
  intro groups
  apply capture_name.bind
  intro name
  exact (act fun _ => Acts.declare_optional settings underNegation name).bind fun capture => pure _

theorem linked : Local (Production.linked settings underNegation relation) := by
  apply (consume (by decide)).bind
  intro target
  apply capture_name.bind
  intro name
  apply (act fun _ => Acts.reference settings target).bind
  intro known
  exact (act fun _ => Acts.declare_optional settings underNegation name).bind fun capture => pure _

theorem backreferenced : Local (Production.backreferenced settings relation) := by
  apply (consume (by decide)).bind
  intro target
  exact (act fun _ => Acts.reference settings target).bind fun known => pure _

theorem bare : Local (bareDescription settings underNegation relation) := by
  apply (accept_any (by decide)).bind
  intro label
  cases label with
  | some label => exact labelled underNegation relation label
  | none =>
      apply (accepts (by decide)).bind
      intro tilde
      cases tilde with
      | true => exact linked underNegation relation
      | false =>
          apply (accepts (by decide)).bind
          intro equals
          cases equals with
          | true => exact backreferenced relation
          | false => exact unexpected

theorem description : Local (Production.description settings underNegation relation) := by
  apply (accepts (by decide)).bind
  intro negation
  apply (accepts (by decide)).bind
  intro category
  exact (bare underNegation relation).bind fun bare => pure _

theorem enter {β : Type} {next : Level → Production β} {position : Position}
    (others : ∀ lower, depth = lower + 1 → Local (next (level settings lower))) :
    Local (enter (levelBelow settings depth) position >>= next) := by
  cases depth with
  | zero => exact fun _ _ _ same => nomatch same
  | succ lower => exact others lower rfl

variable (below : ∀ lower, depth = lower + 1 → LevelLocal settings lower)

include below

theorem node : Local (node settings (levelBelow settings depth) underNegation relation) := by
  apply (accept (by decide)).bind
  intro opener
  cases opener with
  | some opener =>
      apply enter
      intro lower same
      apply ((below lower same).subNode underNegation relation).bind
      intro inner
      exact (consume (by decide)).bind fun closer => pure _
  | none => exact (description underNegation relation).bind fun label => pure _

theorem related : Local (related settings (levelBelow settings depth) underNegation) := by
  apply operation.bind
  intro written
  cases settings.resolver.resolve written.symbol written.argument with
  | error cause => exact throw _ (by simp)
  | ok relation =>
      apply enter
      intro lower same
      exact ((below lower same).node underNegation relation).bind fun target => pure _

theorem plain : Local (plainConstraint settings (levelBelow settings depth) underNegation) := by
  apply (accept (by decide)).bind
  intro opener
  cases opener with
  | some opener =>
      apply enter
      intro lower same
      apply ((below lower same).disjunction underNegation).bind
      intro group
      exact (consume (by decide)).bind fun closer => pure _
  | none => exact related underNegation below

theorem constraint : Local (constraint settings (levelBelow settings depth) underNegation) := by
  apply (accepts (by decide)).bind
  intro bang
  cases bang with
  | true => exact (plain true below).bind fun negated => pure _
  | false =>
      apply (accepts (by decide)).bind
      intro question
      cases question with
      | true => exact (plain underNegation below).bind fun optional => pure _
      | false => exact plain underNegation below

theorem conjunction : Local (conjunction settings (levelBelow settings depth) underNegation) := by
  apply (constraint underNegation below).bind
  intro first
  have conjunct : Local (Production.accept .ampersand >>= fun _ =>
      Production.constraint settings (levelBelow settings depth) underNegation) :=
    (accept (by decide)).bind fun _ => constraint underNegation below
  exact (many check_any conjunct (Advances.conjuncts underNegation)).bind fun others => pure _

theorem branch : Local (branch settings (levelBelow settings depth) underNegation) := by
  apply (conjunction underNegation below).bind
  intro node
  exact (act Acts.get_scope).bind fun names => pure _

theorem disjunction : Local (disjunction settings (levelBelow settings depth) underNegation) := by
  apply (act Acts.get_scope).bind
  intro before
  apply (branch underNegation below).bind
  intro first
  have later := (act fun scope => Acts.set_scope scope before).bind
    fun _ => branch underNegation below
  apply (many (accepts (by decide)) later (Advances.disjuncts underNegation before)).bind
  intro others
  apply (act Acts.get_scope).bind
  intro names
  exact (act fun scope => Acts.set_scope scope _).bind fun _ => pure _

theorem subNode : Local (subNode settings (levelBelow settings depth) underNegation relation) := by
  apply (node underNegation relation below).bind
  intro inner
  apply check_any.bind
  intro more
  cases more with
  | false => exact pure _
  | true => exact (disjunction underNegation below).bind fun children => pure _

end Local

theorem level_local (settings : Settings) (depth : Nat) : LevelLocal settings depth := by
  apply level_induction ?_ depth
  intro depth below
  constructor
  · intro underNegation relation
    rw [level_eq]
    exact Local.node underNegation relation below
  · intro underNegation relation
    rw [level_eq]
    exact Local.subNode underNegation relation below
  · intro underNegation
    rw [level_eq]
    exact Local.disjunction underNegation below

end TreeQuery.Grammar
