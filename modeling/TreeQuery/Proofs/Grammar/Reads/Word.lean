import TreeQuery.Proofs.Grammar.Reads.Basic

/- Reading of the phrases that do not nest: operators with their arguments, and
   descriptions. -/
set_option autoImplicit false

namespace TreeQuery.Grammar.Reads

open Production

variable {β : Type} {scope : Scope} {tokens : List Token} {follow follow' : List TokenKind}
  {fits : Prop} {outcome : Option (β × Scope)} {kind : TokenKind}

theorem argument_mark {next : Text → Production β} (mark : Char) (leaf : Option (Leaf [kind]))
    (opens : Opens tokens follow follow') (apart : kind ∉ follow')
    (others : Reads (next (optionalMark mark leaf)) scope tokens follow fits outcome) :
    Reads (argumentMark kind mark >>= next) scope (optionalTokens leaf ++ tokens) follow fits
      outcome := by
  unfold argumentMark
  rw [bind_assoc]
  refine accepts_optional leaf opens apart ?_
  cases leaf <;> exact others

theorem chain_argument (phrase : ArgumentPhrase) :
    Reads chainArgument scope phrase.tokens follow True (some (phrase.text, scope)) := by
  unfold chainArgument
  cases phrase with
  | enclosed opener negation category label closer =>
      refine accepts_leaf opener ?_
      rw [if_pos rfl]
      refine argument_mark '!' negation
        (Opens.optional category (Opens.cons label.kind_mem)) (by decide) ?_
      refine argument_mark '@' category (Opens.cons label.kind_mem) (by decide) ?_
      refine accept_leaf label ?_
      refine consume_leaf closer ?_
      exact Reads.pure trivial rfl
  | unenclosed negation regex =>
      have regexOpens : Opens [regex.token] follow [.regex] := Opens.cons regex.kind_mem
      have opens := Opens.optional negation regexOpens
      refine accepts_other opens (by decide) ?_
      rw [if_neg Bool.false_ne_true]
      refine check_true opens (by decide) ?_
      rw [if_pos rfl]
      refine argument_mark '!' negation regexOpens (by decide) ?_
      refine consume_leaf regex ?_
      exact Reads.pure trivial rfl

theorem operation (phrase : OperationPhrase) (apart : .number ∉ follow) :
    Reads operation scope phrase.tokens follow True (some (phrase.operation, scope)) := by
  unfold Production.operation
  cases phrase with
  | plain operator number =>
      refine accept_leaf operator ?_
      rw [← List.append_nil (optionalTokens number)]
      refine accept_optional number (Opens.stay follow) apart ?_
      cases number <;> exact Reads.pure trivial rfl
  | chain operator argument =>
      have opens : Opens (operator.token :: argument.tokens) follow [.chainOperator] :=
        Opens.cons operator.kind_mem
      refine accept_other opens (by decide) ?_
      refine accept_leaf operator ?_
      refine bind_last (chain_argument argument) id (by simp) ?_
      rintro value names _ found
      cases found
      exact Reads.pure trivial rfl

theorem capture_name (capture : Option CapturePhrase) (apart : .equals ∉ follow) :
    Reads captureName scope (captureTokens capture) follow True
      (some (capture.map (·.name.token), scope)) := by
  unfold captureName
  cases capture with
  | none =>
      refine accepts_other (Opens.stay follow) apart ?_
      exact Reads.pure trivial rfl
  | some capture =>
      refine accepts_leaf capture.equals ?_
      refine consume_leaf capture.name ?_
      exact Reads.pure trivial rfl

variable (settings : Settings) (underNegation : Bool) (relation : Relation)

theorem group_capture (descriptor : Descriptor) (group : GroupPhrase) :
    Reads (groupCapture settings descriptor) scope
      [group.number.token, group.equals.token, group.name.token] follow True
      (outcomeOf (group.denote descriptor)
        (fun group scope => scope.behindGroup settings.checkNames group.name) scope) := by
  unfold groupCapture
  refine consume_leaf group.number (consume_leaf group.equals (consume_leaf group.name ?_))
  unfold GroupPhrase.denote
  cases groupNumber descriptor group.number.token.text with
  | error fault => exact fun _ _ _ _ _ => rfl
  | ok number =>
      refine act (Acts.declare_group settings group.name.token) ?_ ?_
      · intro missing
        simpa [outcomeOf, Except.toOption] using missing
      · intro value names found
        refine Reads.pure trivial ?_
        simpa [outcomeOf, Except.toOption] using found

theorem groups (descriptor : Descriptor) (apart : .hash ∉ follow) :
    ∀ (phrases : List GroupPhrase) (scope : Scope) (bound : Nat),
      (phrases.flatMap GroupPhrase.tokens).length ≤ bound →
      Reads (manyUpTo (accepts .hash) (groupCapture settings descriptor) bound) scope
        (phrases.flatMap GroupPhrase.tokens) follow True
        (outcomeOf (phrases.mapM (GroupPhrase.denote descriptor))
          (Scope.behindGroups settings.checkNames) scope) := by
  intro phrases
  induction phrases with
  | nil =>
      intro scope bound _
      exact many_stop (fun _ => accepts_other (Opens.stay follow) apart) trivial rfl
  | cons phrase phrases ih =>
      intro scope bound enough
      cases bound with
      | zero => simp [GroupPhrase.tokens] at enough
      | succ bound =>
          have shorter : (phrases.flatMap GroupPhrase.tokens).length ≤ bound := by
            simp only [List.flatMap_cons, List.length_append, GroupPhrase.tokens,
              List.length_cons] at enough
            omega
          have opens : Opens (phrases.flatMap GroupPhrase.tokens) follow (.hash :: follow) := by
            cases phrases with
            | nil => exact Opens.nil (List.subset_cons_self _ _)
            | cons next others => exact Opens.cons (by simpa using .inl (by simpa using next.hash.kind_mem))
          refine accepts_leaf phrase.hash ?_
          rw [if_pos rfl]
          simp only [List.mapM_cons, Option.bind_eq_bind, Option.pure_def]
          rw [outcome_of_bind _ _ List.cons scope fun _ _ _ => rfl]
          exact join List.cons (group_capture settings descriptor phrase) opens
            (fun names => ih names bound shorter) (by simp)

theorem capture_opens (capture : Option CapturePhrase) (follow : List TokenKind) :
    Opens (captureTokens capture) follow (.equals :: follow) := by
  cases capture with
  | none => exact Opens.nil (List.subset_cons_self _ _)
  | some capture =>
      exact (Opens.cons capture.equals.kind_mem).mono (List.Subset.refl _) (by simp)

theorem labelled (label : Leaf labelKinds) (groupPhrases : List GroupPhrase)
    (capture : Option CapturePhrase) (noHash : .hash ∉ follow) (noEquals : .equals ∉ follow) :
    Reads (Production.labelled settings underNegation relation label.token) scope
      (groupPhrases.flatMap GroupPhrase.tokens ++ captureTokens capture) follow True
      (outcomeOf
        ((BarePhrase.labelled label groupPhrases capture).denote settings.resolver.checkRegex relation)
        (Description.scopeBehind settings.checkNames underNegation) scope) := by
  unfold Production.labelled
  simp only [BarePhrase.denote, Option.bind_eq_bind, Option.pure_def]
  refine act (Acts.descriptor settings.resolver.checkRegex label.token) (fun missing => ?_) ?_
  · rw [Option.map_eq_none_iff] at missing
    rw [missing]
    rfl
  intro descriptor names found
  simp only [Option.map_eq_some_iff, Prod.mk.injEq] at found
  obtain ⟨_, meant, rfl, rfl⟩ := found
  simp only [meant, Option.bind_some]
  have hashApart : .hash ∉ TokenKind.equals :: follow := by simpa using noHash
  refine bind (many fun bound enough => groups settings _ hashApart groupPhrases _ bound enough)
    (capture_opens capture follow) id (fun missing => ?_) ?_
  · rw [outcome_of_eq_none] at missing ⊢
    intro description found
    simp only [Option.bind_eq_some_iff, Option.some.injEq] at found
    obtain ⟨groups, denoted, rfl⟩ := found
    simp only [Description.scopeBehind, missing groups denoted, Option.bind_none]
  intro groups names _ found
  rw [outcome_of_eq_some] at found
  obtain ⟨denoted, declared⟩ := found
  simp only [denoted, Option.bind_some]
  refine bind_last (capture_name capture noEquals) id (by simp) ?_
  rintro name names _ ⟨⟩
  refine act (Acts.declare_optional settings underNegation _) (fun missing => ?_) ?_
  · rw [Option.map_eq_none_iff] at missing
    simpa [outcomeOf, Description.scopeBehind, declared, captureText, Description.plain,
      Function.comp_def] using missing
  · intro name names found
    refine Reads.pure trivial ?_
    simp only [Option.map_eq_some_iff, Prod.mk.injEq] at found
    obtain ⟨_, declaredName, rfl, rfl⟩ := found
    rw [outcome_of_eq_some]
    refine ⟨by simp [captureText, Function.comp_def], ?_⟩
    simpa [Description.scopeBehind, declared, Description.plain] using declaredName

theorem linked (tilde : Leaf [.tilde]) (target : Leaf [.identifier])
    (capture : Option CapturePhrase) (noEquals : .equals ∉ follow) :
    Reads (Production.linked settings underNegation relation) scope
      (target.token :: captureTokens capture) follow True
      (outcomeOf
        ((BarePhrase.linked tilde target capture).denote settings.resolver.checkRegex relation)
        (Description.scopeBehind settings.checkNames underNegation) scope) := by
  unfold Production.linked
  refine consume_leaf target ?_
  refine bind_last (capture_name capture noEquals) id (by simp) ?_
  rintro name names _ ⟨⟩
  refine act (Acts.reference settings target.token) (fun missing => ?_) ?_
  · rw [Option.map_eq_none_iff] at missing
    simp [outcomeOf, BarePhrase.denote, Description.scopeBehind, Description.plain, missing]
  intro value names found
  simp only [Option.map_eq_some_iff, Prod.mk.injEq] at found
  obtain ⟨_, known, -, rfl⟩ := found
  refine act (Acts.declare_optional settings underNegation _) (fun missing => ?_) ?_
  · rw [Option.map_eq_none_iff] at missing
    simpa [outcomeOf, BarePhrase.denote, Description.scopeBehind, known, captureText,
      Description.plain, Function.comp_def] using missing
  · intro name names found
    refine Reads.pure trivial ?_
    simp only [Option.map_eq_some_iff, Prod.mk.injEq] at found
    obtain ⟨_, declaredName, rfl, rfl⟩ := found
    rw [outcome_of_eq_some]
    refine ⟨by simp [BarePhrase.denote, captureText, Function.comp_def], ?_⟩
    simpa [Description.scopeBehind, known, Description.plain] using declaredName

theorem backreferenced (equals : Leaf [.equals]) (target : Leaf [.identifier]) :
    Reads (Production.backreferenced settings relation) scope [target.token] follow True
      (outcomeOf
        ((BarePhrase.backreferenced equals target).denote settings.resolver.checkRegex relation)
        (Description.scopeBehind settings.checkNames underNegation) scope) := by
  unfold Production.backreferenced
  refine consume_leaf target ?_
  refine act (Acts.reference settings target.token) (fun missing => ?_) ?_
  · rw [Option.map_eq_none_iff] at missing
    simp [outcomeOf, BarePhrase.denote, Description.scopeBehind, Description.plain, missing]
  · intro value names found
    simp only [Option.map_eq_some_iff, Prod.mk.injEq] at found
    obtain ⟨_, known, -, rfl⟩ := found
    refine Reads.pure trivial ?_
    rw [outcome_of_eq_some]
    exact ⟨rfl, by simp [Description.scopeBehind, Description.plain, known]⟩

theorem bare (phrase : BarePhrase) (noHash : .hash ∉ follow) (noEquals : .equals ∉ follow) :
    Reads (bareDescription settings underNegation relation) scope phrase.tokens follow True
      (outcomeOf (phrase.denote settings.resolver.checkRegex relation)
        (Description.scopeBehind settings.checkNames underNegation) scope) := by
  unfold bareDescription
  cases phrase with
  | labelled label groups capture =>
      refine accept_leaf label ?_
      exact labelled settings underNegation relation label groups capture noHash noEquals
  | linked tilde target capture =>
      have opens : Opens (tilde.token :: target.token :: captureTokens capture) follow [.tilde] :=
        Opens.cons tilde.kind_mem
      refine accept_other opens (by decide) ?_
      refine accepts_leaf tilde ?_
      rw [if_pos rfl]
      exact linked settings underNegation relation tilde target capture noEquals
  | backreferenced equals target =>
      have opens : Opens [equals.token, target.token] follow [.equals] :=
        Opens.cons equals.kind_mem
      refine accept_other opens (by decide) ?_
      refine accepts_other opens (by decide) ?_
      rw [if_neg Bool.false_ne_true]
      refine accepts_leaf equals ?_
      rw [if_pos rfl]
      exact backreferenced settings underNegation relation equals target

theorem bare_opens (phrase : BarePhrase) (follow : List TokenKind) :
    Opens phrase.tokens follow [.identifier, .regex, .blank, .tilde, .equals] := by
  cases phrase with
  | labelled label groups capture =>
      exact (Opens.cons label.kind_mem).mono (List.Subset.refl _) (by decide)
  | linked tilde target capture =>
      exact (Opens.cons tilde.kind_mem).mono (List.Subset.refl _) (by decide)
  | backreferenced equals target =>
      exact (Opens.cons equals.kind_mem).mono (List.Subset.refl _) (by decide)

theorem description (phrase : DescriptionPhrase) (noHash : .hash ∉ follow)
    (noEquals : .equals ∉ follow) :
    Reads (Production.description settings underNegation relation) scope phrase.tokens follow True
      (outcomeOf (phrase.denote settings.resolver.checkRegex relation)
        (Description.scopeBehind settings.checkNames underNegation) scope) := by
  unfold Production.description
  refine accepts_optional phrase.negation
    (Opens.optional phrase.category (bare_opens phrase.bare follow)) (by decide) ?_
  refine accepts_optional phrase.category (bare_opens phrase.bare follow) (by decide) ?_
  unfold DescriptionPhrase.denote
  rw [outcome_of_map _ _ scope fun _ _ => rfl]
  exact map _ (bare settings underNegation relation phrase.bare noHash noEquals) Iff.rfl

end TreeQuery.Grammar.Reads
