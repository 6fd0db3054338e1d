import TreeQuery.Proofs.Grammar.Takes.Basic

/- The phrases that do not nest, found again in what a production has taken. -/
set_option autoImplicit false

namespace TreeQuery.Grammar.Takes

open Production

variable {β : Type} {scope : Scope} {meaning : List Token → β → Scope → Prop} {kind : TokenKind}

theorem accept_optional {next : Option Token → Production β} (within : .endOfInput ≠ kind)
    (others : ∀ leaf : Option (Leaf [kind]),
      Takes (next (leaf.map Leaf.token)) scope fun tokens => meaning (optionalTokens leaf ++ tokens)) :
    Takes (accept kind >>= next) scope meaning :=
  accept_any (by simpa using within) (fun leaf => others (some leaf)) (others none)

theorem accepts_optional {next : Bool → Production β} (within : .endOfInput ≠ kind)
    (others : ∀ leaf : Option (Leaf [kind]),
      Takes (next leaf.isSome) scope fun tokens => meaning (optionalTokens leaf ++ tokens)) :
    Takes (Production.accepts kind >>= next) scope meaning :=
  accepts within (fun leaf => others (some leaf)) (others none)

theorem argument_mark {next : Text → Production β} (mark : Char) (within : .endOfInput ≠ kind)
    (others : ∀ leaf : Option (Leaf [kind]),
      Takes (next (optionalMark mark leaf)) scope fun tokens =>
        meaning (optionalTokens leaf ++ tokens)) :
    Takes (argumentMark kind mark >>= next) scope meaning := by
  unfold argumentMark
  rw [bind_assoc]
  refine accepts_optional within fun leaf => ?_
  cases leaf with
  | none => exact others none
  | some leaf => exact others (some leaf)

theorem chain_argument : Takes chainArgument scope fun taken text names =>
    ∃ phrase : ArgumentPhrase, phrase.tokens = taken ∧ phrase.text = text ∧ names = scope := by
  unfold chainArgument
  refine accepts (by decide) (fun opener => ?_) ?_
  · rw [if_pos rfl]
    refine argument_mark '!' (by decide) fun negation => ?_
    refine argument_mark '@' (by decide) fun category => ?_
    refine accept_any (by decide) (fun label => ?_) unexpected
    refine consume (by decide) fun closer => ?_
    exact pure ⟨.enclosed opener negation category label closer, rfl, rfl, rfl⟩
  · rw [if_neg Bool.false_ne_true]
    refine check fun found => ?_
    cases found with
    | false => exact unexpected
    | true =>
        rw [if_pos rfl]
        refine argument_mark '!' (by decide) fun negation => ?_
        refine consume (by decide) fun regex => ?_
        exact pure ⟨.unenclosed negation regex, rfl, rfl, rfl⟩

theorem operation : Takes operation scope fun taken written names =>
    ∃ phrase : OperationPhrase, phrase.tokens = taken ∧ phrase.operation = written ∧
      names = scope := by
  unfold Production.operation
  refine accept_any (by decide) (fun operator => ?_) ?_
  · refine accept_any (by decide) (fun number => ?_) ?_
    · exact pure ⟨.plain operator (some number), rfl, rfl, rfl⟩
    · exact pure ⟨.plain operator none, rfl, rfl, rfl⟩
  · refine accept_any (by decide) (fun operator => ?_) unexpected
    refine bind chain_argument ?_
    rintro taken text names ⟨argument, rfl, rfl, rfl⟩
    exact pure ⟨.chain operator argument, by simp [OperationPhrase.tokens], rfl, rfl⟩

theorem capture_name : Takes captureName scope fun taken name names =>
    ∃ capture : Option CapturePhrase, captureTokens capture = taken ∧
      capture.map (·.name.token) = name ∧ names = scope := by
  unfold captureName
  refine accepts (by decide) (fun equals => ?_) ?_
  · rw [if_pos rfl]
    refine consume (by decide) fun name => ?_
    exact pure ⟨some ⟨equals, name⟩, rfl, rfl, rfl⟩
  · exact pure ⟨none, rfl, rfl, rfl⟩

variable (settings : Settings) (underNegation : Bool) (relation : Relation)

theorem group_capture (descriptor : Descriptor) :
    Takes (groupCapture settings descriptor) scope fun taken group names =>
      ∃ (number : Leaf [.number]) (equals : Leaf [.equals]) (name : Leaf [.identifier]),
        taken = [number.token, equals.token, name.token] ∧
        (groupNumber descriptor number.token.text).toOption.map (⟨·, name.token.text⟩) =
          some group ∧
        scope.behindGroup settings.checkNames group.name = some names := by
  unfold groupCapture
  refine consume (by decide) fun number => consume (by decide) fun equals =>
    consume (by decide) fun name => ?_
  cases found : groupNumber descriptor number.token.text with
  | error fault => exact throw _
  | ok group =>
      refine act (Acts.declare_group settings name.token) fun value names declared => ?_
      simp only [Option.map_eq_some_iff, Prod.mk.injEq] at declared
      obtain ⟨_, declared, -, rfl⟩ := declared
      exact pure ⟨number, equals, name, rfl, by rw [found]; rfl, declared⟩

theorem groups (descriptor : Descriptor) :
    Takes (Production.many (Production.accepts .hash) (groupCapture settings descriptor)) scope
      fun taken groups names => ∃ phrases : List GroupPhrase,
        phrases.flatMap GroupPhrase.tokens = taken ∧
        phrases.mapM (GroupPhrase.denote descriptor) = some groups ∧
        scope.behindGroups settings.checkNames groups = some names := by
  refine Takes.many (fun scope taken groups names => ∃ phrases : List GroupPhrase,
      phrases.flatMap GroupPhrase.tokens = taken ∧
      phrases.mapM (GroupPhrase.denote descriptor) = some groups ∧
      scope.behindGroups settings.checkNames groups = some names)
    (Asks.accepts (by decide)) (fun scope => ⟨[], rfl, rfl, rfl⟩) ?_ scope
  rintro scope taken ⟨hash, rfl⟩
  refine (group_capture settings descriptor).mono ?_
  rintro taken group names ⟨number, equals, name, rfl, denoted, declared⟩
  refine ⟨by simp, ?_⟩
  rintro others groups final ⟨phrases, rfl, denotedOthers, declaredOthers⟩
  refine ⟨⟨hash, number, equals, name⟩ :: phrases, rfl, ?_, ?_⟩
  · have first : GroupPhrase.denote descriptor ⟨hash, number, equals, name⟩ = some group := denoted
    simp [List.mapM_cons, first, denotedOthers]
  · simp [Scope.behindGroups, declared, declaredOthers]

-- What a production for descriptions has taken: the tokens of a phrase, if those in
-- front of them are added.
theorem labelled (label : Leaf labelKinds) :
    Takes (Production.labelled settings underNegation relation label.token) scope
      fun taken description names => ∃ phrase : BarePhrase,
        phrase.tokens = label.token :: taken ∧
        phrase.denote settings.resolver.checkRegex relation = some description ∧
        description.scopeBehind settings.checkNames underNegation scope = some names := by
  unfold Production.labelled
  refine act (Acts.descriptor settings.resolver.checkRegex label.token)
    fun descriptor names found => ?_
  simp only [Option.map_eq_some_iff, Prod.mk.injEq] at found
  obtain ⟨_, meant, rfl, rfl⟩ := found
  refine bind (groups settings _) ?_
  rintro _ groups names ⟨phrases, rfl, denoted, declared⟩
  refine bind capture_name ?_
  rintro _ _ names ⟨capture, rfl, rfl, rfl⟩
  refine act (Acts.declare_optional settings underNegation _) fun name names found => ?_
  simp only [Option.map_eq_some_iff, Prod.mk.injEq] at found
  obtain ⟨_, declaredName, rfl, rfl⟩ := found
  refine pure ⟨.labelled label phrases capture, by simp [BarePhrase.tokens], ?_, ?_⟩
  · simp [BarePhrase.denote, meant, denoted, captureText, Function.comp_def]
  · simpa [Description.scopeBehind, Description.plain, declared] using declaredName

theorem linked (tilde : Leaf [.tilde]) :
    Takes (Production.linked settings underNegation relation) scope
      fun taken description names => ∃ phrase : BarePhrase,
        phrase.tokens = tilde.token :: taken ∧
        phrase.denote settings.resolver.checkRegex relation = some description ∧
        description.scopeBehind settings.checkNames underNegation scope = some names := by
  unfold Production.linked
  refine consume (by decide) fun target => ?_
  refine bind capture_name ?_
  rintro _ _ names ⟨capture, rfl, rfl, rfl⟩
  refine act (Acts.reference settings target.token) fun value names found => ?_
  simp only [Option.map_eq_some_iff, Prod.mk.injEq] at found
  obtain ⟨_, known, -, rfl⟩ := found
  refine act (Acts.declare_optional settings underNegation _) fun name names found => ?_
  simp only [Option.map_eq_some_iff, Prod.mk.injEq] at found
  obtain ⟨_, declaredName, rfl, rfl⟩ := found
  refine pure ⟨.linked tilde target capture, by simp [BarePhrase.tokens], ?_, ?_⟩
  · simp [BarePhrase.denote, captureText, Function.comp_def]
  · simpa [Description.scopeBehind, Description.plain, known] using declaredName

theorem backreferenced (equals : Leaf [.equals]) :
    Takes (Production.backreferenced settings relation) scope
      fun taken description names => ∃ phrase : BarePhrase,
        phrase.tokens = equals.token :: taken ∧
        phrase.denote settings.resolver.checkRegex relation = some description ∧
        description.scopeBehind settings.checkNames underNegation scope = some names := by
  unfold Production.backreferenced
  refine consume (by decide) fun target => ?_
  refine act (Acts.reference settings target.token) fun value names found => ?_
  simp only [Option.map_eq_some_iff, Prod.mk.injEq] at found
  obtain ⟨_, known, -, rfl⟩ := found
  refine pure ⟨.backreferenced equals target, rfl, rfl, ?_⟩
  simp [Description.scopeBehind, Description.plain, known]

theorem bare : Takes (bareDescription settings underNegation relation) scope
    fun taken description names => ∃ phrase : BarePhrase, phrase.tokens = taken ∧
      phrase.denote settings.resolver.checkRegex relation = some description ∧
      description.scopeBehind settings.checkNames underNegation scope = some names := by
  unfold bareDescription
  refine accept_any (by decide)
    (fun label => labelled settings underNegation relation label) ?_
  refine accepts (by decide) (fun tilde => ?_) ?_
  · rw [if_pos rfl]
    exact linked settings underNegation relation tilde
  · rw [if_neg Bool.false_ne_true]
    refine accepts (by decide) (fun equals => ?_) unexpected
    rw [if_pos rfl]
    exact backreferenced settings underNegation relation equals

theorem description : Takes (Production.description settings underNegation relation) scope
    fun taken description names => ∃ phrase : DescriptionPhrase, phrase.tokens = taken ∧
      phrase.denote settings.resolver.checkRegex relation = some description ∧
      description.scopeBehind settings.checkNames underNegation scope = some names := by
  unfold Production.description
  refine accepts_optional (by decide) fun negation => ?_
  refine accepts_optional (by decide) fun category => ?_
  refine bind (bare settings underNegation relation) ?_
  rintro _ description names ⟨phrase, rfl, denoted, declared⟩
  refine pure ⟨⟨negation, category, phrase⟩, by simp [DescriptionPhrase.tokens], ?_, declared⟩
  simp [DescriptionPhrase.denote, denoted]

end TreeQuery.Grammar.Takes
