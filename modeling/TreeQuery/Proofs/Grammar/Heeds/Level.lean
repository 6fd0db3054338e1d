import TreeQuery.Proofs.Grammar.Derivation
import TreeQuery.Proofs.Grammar.Heeds.Word

/- The rules that nest: a level heeds the numbers if the one below it does. -/
set_option autoImplicit false

namespace TreeQuery.Grammar

structure Level.Heeds (resolver : Resolver) (level : Level) : Prop where
  node : ∀ underNegation relation read, Ready resolver read →
    Grammar.Heeds resolver read (level.node underNegation relation)
      fun read' _ => Sound resolver read'
  subNode : ∀ underNegation relation read, Ready resolver read →
    Grammar.Heeds resolver read (level.subNode underNegation relation)
      fun read' _ => Sound resolver read'
  disjunction : ∀ underNegation read, Sound resolver read →
    Grammar.Heeds resolver read (level.disjunction underNegation)
      fun read' _ => Sound resolver read'

namespace Heeds

open Production

variable {settings : Settings} {deeper : Option Level}
  (below : ∀ level, deeper = some level → level.Heeds settings.resolver) {underNegation : Bool}
  {read : List Token}

include below

theorem enter {β : Type} {opener : Position} {next : Level → Production β}
    {good : List Token → β → Prop} (sound : Sound settings.resolver read)
    (others : ∀ level, level.Heeds settings.resolver → Heeds settings.resolver read (next level) good) :
    Heeds settings.resolver read (Production.enter deeper opener >>= next) good := by
  cases deeper with
  | none => exact throw (.elsewhere sound trivial)
  | some level => exact others level (below level rfl)

theorem node {relation : Relation} (ready : Ready settings.resolver read) :
    Heeds settings.resolver read (Production.node settings deeper underNegation relation)
      fun read' _ => Sound settings.resolver read' := by
  unfold Production.node
  apply accept (by decide)
  intro opener
  have behind := ready.optional opener (by decide) (by decide)
  cases opener with
  | some opener =>
      apply enter below behind.sound
      intro level heeds
      apply (heeds.subNode underNegation relation _ behind).bind
      intro read' inner sound
      apply consume (by decide) sound.unexpected
      exact fun closer => pure (sound.leaf closer (by decide))
  | none => exact (description behind).bind fun _ _ sound => pure sound

theorem related (sound : Sound settings.resolver read) :
    Heeds settings.resolver read (Production.related settings deeper underNegation)
      fun read' _ => Sound settings.resolver read' := by
  unfold Production.related
  apply (operation sound).bind
  rintro _ written ⟨phrase, rfl, rfl⟩
  cases resolved :
      settings.resolver.resolve phrase.operation.symbol phrase.operation.argument with
  | error cause => exact throw (.relation sound resolved)
  | ok relation =>
      have behind := Ready.operation sound resolved
      apply enter below behind.sound
      intro level heeds
      exact (heeds.node underNegation relation _ behind).bind fun _ _ sound => pure sound

theorem plain (sound : Sound settings.resolver read) :
    Heeds settings.resolver read (plainConstraint settings deeper underNegation)
      fun read' _ => Sound settings.resolver read' := by
  unfold plainConstraint
  apply accept (by decide)
  intro opener
  have behind := sound.optional opener (by decide)
  cases opener with
  | some opener =>
      apply enter below behind
      intro level heeds
      apply (heeds.disjunction underNegation _ behind).bind
      intro read' group sound
      apply consume (by decide) sound.unexpected
      exact fun closer => pure (sound.leaf closer (by decide))
  | none => exact related below behind

theorem constraint (sound : Sound settings.resolver read) :
    Heeds settings.resolver read (Production.constraint settings deeper underNegation)
      fun read' _ => Sound settings.resolver read' := by
  unfold Production.constraint
  apply accepts (by decide)
  intro bang
  have behindBang := sound.optional bang (by decide)
  cases bang with
  | some bang => exact (plain below behindBang).bind fun _ _ sound => pure sound
  | none =>
      apply accepts (by decide)
      intro question
      have behind := behindBang.optional question (by decide)
      cases question with
      | some question => exact (plain below behind).bind fun _ _ sound => pure sound
      | none => exact plain below behind

theorem conjunction (sound : Sound settings.resolver read) :
    Heeds settings.resolver read (Production.conjunction settings deeper underNegation)
      fun read' _ => Sound settings.resolver read' := by
  unfold Production.conjunction
  apply (constraint below sound).bind
  intro read' first sound
  refine (many (fun _ => True) ?_ ?_ sound).bind fun _ _ sound => pure sound
  · intro read sound
    refine more_check.mono ?_
    rintro _ found rfl
    exact ⟨sound, fun _ => trivial⟩
  · intro read sound _
    apply accept (by decide)
    exact fun joint => constraint below (sound.optional joint (by decide))

theorem branch (sound : Sound settings.resolver read) :
    Heeds settings.resolver read (Production.branch settings deeper underNegation)
      fun read' _ => Sound settings.resolver read' := by
  unfold Production.branch
  apply (conjunction below sound).bind
  exact fun read' node sound => get_scope fun scope => pure sound

theorem disjunction (sound : Sound settings.resolver read) :
    Heeds settings.resolver read (Production.disjunction settings deeper underNegation)
      fun read' _ => Sound settings.resolver read' := by
  unfold Production.disjunction
  apply get_scope
  intro before
  apply (branch below sound).bind
  intro read' first sound
  refine (many (fun _ => True) ?_ ?_ sound).bind ?_
  · intro read sound
    refine (more_accepts (by decide)).mono ?_
    rintro _ found ⟨bar, rfl, rfl⟩
    exact ⟨sound.optional bar (by decide), fun _ => trivial⟩
  · exact fun read sound _ => set_scope (branch below sound)
  · exact fun read' others sound => get_scope fun scope => set_scope (pure sound)

theorem subNode {relation : Relation} (ready : Ready settings.resolver read) :
    Heeds settings.resolver read (Production.subNode settings deeper underNegation relation)
      fun read' _ => Sound settings.resolver read' := by
  unfold Production.subNode
  apply (node below ready).bind
  intro read' inner sound
  apply check
  intro more
  cases more with
  | false => exact pure sound
  | true => exact (disjunction below sound).bind fun _ _ sound => pure sound

end Heeds

theorem level_heeds (settings : Settings) (depth : Nat) :
    (level settings depth).Heeds settings.resolver := by
  induction depth using level_induction with
  | step depth lower =>
      have below : ∀ deeper, levelBelow settings depth = some deeper →
          deeper.Heeds settings.resolver := by
        intro deeper same
        cases depth with
        | zero => cases same
        | succ depth =>
            cases same
            exact lower depth rfl
      rw [level_eq]
      exact ⟨fun _ _ _ => Heeds.node below, fun _ _ _ => Heeds.subNode below,
        fun _ _ => Heeds.disjunction below⟩

theorem whole_pattern_heeds (settings : Settings) {state : State}
    (ended : state.stream.last.kind = .endOfInput) :
    Ends (wholePattern settings state)
      (fun _ after => ∃ read, state.stream.upcoming = read ++ after.stream.upcoming ∧
        Sound settings.resolver read)
      (fun error after => ∃ read, state.stream.upcoming = read ++ after.stream.upcoming ∧
        Halted settings.resolver error read) := by
  have heeds : Heeds settings.resolver []
      ((level settings maxNesting).subNode false Relation.root >>= fun top =>
        Production.consume .semicolon >>= fun _ => pure top)
      fun read' _ => Sound settings.resolver read' := by
    apply ((level_heeds settings maxNesting).subNode false Relation.root [] .nil).bind
    intro read' top sound
    apply Heeds.consume (by decide) sound.unexpected
    exact fun leaf => Heeds.pure (sound.leaf leaf (by decide))
  have split : wholePattern settings =
      ((level settings maxNesting).subNode false Relation.root >>= fun top =>
        Production.consume .semicolon >>= fun _ => pure top) >>= fun top =>
          Production.consume .endOfInput >>= fun _ => pure top := by
    unfold wholePattern
    simp only [bind_assoc, pure_bind]
  rw [split, Ends.bind]
  apply (heeds state ended).mono
  · rintro top after ⟨taken, passed, sound⟩
    rw [Ends.bind, Production.consume_ends]
    split
    · rename_i atEnd
      change ∃ read, _ = read ++ after.stream.upcoming.tail ∧ _
      rw [passed.upcoming_eq]
      cases next : after.stream.upcoming with
      | nil => exact ⟨taken, rfl, sound⟩
      | cons token rest =>
          have isEnd : token.kind = .endOfInput := by
            simpa [TokenStream.isAny, TokenStream.current, next] using atEnd
          refine ⟨taken ++ [token], by simp, sound.snoc fun isNumber => ?_⟩
          cases isEnd.symm.trans isNumber
    · exact ⟨taken, passed.upcoming_eq, sound.unexpected _⟩
  · rintro error after ⟨taken, passed, halted⟩
    exact ⟨taken, passed.upcoming_eq, halted⟩

def leftBy {α : Type} : EStateM.Result PatternError State α → List Token
  | .ok _ state => state.stream.upcoming
  | .error _ state => state.stream.upcoming

theorem run_tokens_heeds (resolver : Resolver) (tokens : List Token) :
    ∃ read, (TokenStream.ofTokens tokens).upcoming = read ++ leftBy (runTokens ⟨resolver, true⟩ tokens) ∧
      ((∃ parsed, parseTokens resolver tokens = .ok parsed ∧ Sound resolver read) ∨
        ∃ error, parseTokens resolver tokens = .error error ∧ Halted resolver error read) := by
  have ended := TokenStream.of_tokens_last_kind tokens
  have heeds := @whole_pattern_heeds ⟨resolver, true⟩ ⟨TokenStream.ofTokens tokens, Scope.empty⟩ ended
  change Ends (runTokens ⟨resolver, true⟩ tokens) _ _ at heeds
  unfold parseTokens parseTokensWith
  cases run : runTokens ⟨resolver, true⟩ tokens with
  | ok top after =>
      rw [run] at heeds
      obtain ⟨read, split, sound⟩ := heeds
      exact ⟨read, split, .inl ⟨_, rfl, sound⟩⟩
  | error error after =>
      rw [run] at heeds
      obtain ⟨read, split, halted⟩ := heeds
      exact ⟨read, split, .inr ⟨error, rfl, halted⟩⟩

end TreeQuery.Grammar
