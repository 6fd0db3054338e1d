import TreeQuery.Proofs.Grammar.Offers.Basic

/- The phrases that do not nest: whatever is asked for on the way through one can
   come next in one. -/
set_option autoImplicit false

namespace TreeQuery.Grammar

-- Where a phrase has been begun, any one will do to end it.

instance {kind : TokenKind} {kinds : List TokenKind} : Inhabited (Leaf (kind :: kinds)) :=
  ⟨⟨kind, [], .nowhere⟩, List.mem_cons_self⟩

instance : Inhabited (Leaf labelKinds) := inferInstanceAs (Inhabited (Leaf (_ :: _)))

instance : Inhabited ArgumentPhrase := ⟨.unenclosed none default⟩

instance : Inhabited BarePhrase := ⟨.labelled default [] none⟩

def Spelt {α : Type} (tokens : α → List Token) (word : List Token) : Prop :=
  ∃ phrase, tokens phrase = word

theorem Continues.leaf {language : List Token → Prop} {kind : TokenKind} {rest : List Token}
    (leaf : Leaf [kind]) (word : language (leaf.token :: rest)) : Continues language [] kind :=
  ⟨leaf.token, rest, leaf.kind_eq, word⟩

namespace Offers

open Production

variable {α β : Type} {language : List Token → Prop} {kind : TokenKind}

theorem argument_mark {next : Text → Production β} (mark : Char) (within : .endOfInput ≠ kind)
    (starts : Continues language [] kind)
    (others : ∀ leaf : Option (Leaf [kind]),
      Offers (next (optionalMark mark leaf)) fun tokens => language (optionalTokens leaf ++ tokens)) :
    Offers (argumentMark kind mark >>= next) language := by
  unfold argumentMark
  rw [bind_assoc]
  apply accepts within starts
  intro leaf
  cases leaf with
  | none => exact others none
  | some leaf => exact others (some leaf)

theorem chain_argument : Offers chainArgument (Spelt ArgumentPhrase.tokens) := by
  unfold chainArgument
  apply accepts (by decide) (.leaf default ⟨.enclosed default none none default default, rfl⟩)
  intro opener
  cases opener with
  | some opener =>
      apply argument_mark '!' (by decide)
        (.leaf default ⟨.enclosed opener (some default) none default default, rfl⟩)
      intro negation
      apply argument_mark '@' (by decide)
        (.leaf default ⟨.enclosed opener negation (some default) default default, rfl⟩)
      intro category
      apply accept_any (by decide)
      · intro kind inside
        exact ⟨_, _, rfl,
          .enclosed opener negation category ⟨⟨kind, [], .nowhere⟩, inside⟩ default, rfl⟩
      · intro label
        apply consume (by decide)
          (.leaf default ⟨.enclosed opener negation category label default, rfl⟩)
        intro closer
        exact pure _ ⟨.enclosed opener negation category label closer, rfl⟩
      · exact unexpected ⟨_, .enclosed opener negation category default default, rfl⟩
  | none =>
      apply check
      · intro kind inside
        simp only [List.mem_cons, List.not_mem_nil, or_false] at inside
        rcases inside with same | same
        · subst same
          exact .leaf default ⟨.unenclosed none default, rfl⟩
        · subst same
          exact .leaf default ⟨.unenclosed (some default) default, rfl⟩
      intro found
      cases found with
      | false => exact unexpected ⟨_, default, rfl⟩
      | true =>
          apply argument_mark '!' (by decide) (.leaf default ⟨.unenclosed (some default) default, rfl⟩)
          intro negation
          apply consume (by decide) (.leaf default ⟨.unenclosed negation default, rfl⟩)
          intro regex
          exact pure _ ⟨.unenclosed negation regex, rfl⟩

theorem operation : Offers operation (Spelt OperationPhrase.tokens) := by
  unfold Production.operation
  apply accept (by decide) (.leaf default ⟨.plain default none, rfl⟩)
  intro operator
  cases operator with
  | some operator =>
      apply accept (by decide) (.leaf default ⟨.plain operator (some default), rfl⟩)
      intro number
      cases number with
      | none => exact pure _ ⟨.plain operator none, rfl⟩
      | some number => exact pure _ ⟨.plain operator (some number), rfl⟩
  | none =>
      apply accept (by decide) (.leaf default ⟨.chain default default, rfl⟩)
      intro operator
      cases operator with
      | none => exact unexpected ⟨_, .plain default none, rfl⟩
      | some operator =>
          apply map
          apply chain_argument.mono
          intro word spelt
          obtain ⟨argument, same⟩ := spelt
          exact ⟨.chain operator argument, congrArg _ same⟩

theorem capture_name : Offers captureName (Spelt captureTokens) := by
  unfold captureName
  apply accepts (by decide) (.leaf default ⟨some ⟨default, default⟩, rfl⟩)
  intro equals
  cases equals with
  | none => exact pure _ ⟨none, rfl⟩
  | some equals =>
      apply consume (by decide) (.leaf default ⟨some ⟨equals, default⟩, rfl⟩)
      intro name
      exact pure _ ⟨some ⟨equals, name⟩, rfl⟩

variable (settings : Settings) (underNegation : Bool) (relation : Relation)

theorem group_capture (descriptor : Descriptor) (hash : Leaf [.hash]) :
    Offers (groupCapture settings descriptor) fun tokens =>
      Spelt GroupPhrase.tokens (hash.token :: tokens) := by
  unfold groupCapture
  apply consume (by decide) (.leaf default ⟨⟨hash, default, default, default⟩, rfl⟩)
  intro number
  apply consume (by decide) (.leaf default ⟨⟨hash, number, default, default⟩, rfl⟩)
  intro equals
  apply consume (by decide) (.leaf default ⟨⟨hash, number, equals, default⟩, rfl⟩)
  intro name
  cases groupNumber descriptor number.token.text with
  | error fault => exact throw _ (by simp)
  | ok group =>
      apply act fun _ => Acts.declare_group settings name.token
      intro declared
      exact pure _ ⟨⟨hash, number, equals, name⟩, rfl⟩

theorem groups (descriptor : Descriptor) :
    Offers (Production.many (Production.accepts .hash) (groupCapture settings descriptor))
      (Spelt (List.flatMap GroupPhrase.tokens)) := by
  have starts : Continues (Spelt (List.flatMap GroupPhrase.tokens)) [] .hash :=
    .leaf default ⟨[⟨default, default, default, default⟩], rfl⟩
  apply Offers.many (Spelt GroupPhrase.tokens) (.accepts (by decide) starts)
  · intro taken led
    obtain ⟨hash, same⟩ := led
    subst same
    exact group_capture settings descriptor hash
  · exact ⟨[], rfl⟩
  · intro first spelt
    obtain ⟨group, same⟩ := spelt
    subst same
    simp [GroupPhrase.tokens]
  · intro first others spelt speltOthers
    obtain ⟨group, same⟩ := spelt
    obtain ⟨groups, sameOthers⟩ := speltOthers
    exact ⟨group :: groups, by rw [List.flatMap_cons, same, sameOthers]⟩

theorem labelled (label : Leaf labelKinds) :
    Offers (Production.labelled settings underNegation relation label.token) fun tokens =>
      Spelt BarePhrase.tokens (label.token :: tokens) := by
  unfold Production.labelled
  apply act fun _ => Acts.descriptor settings.resolver.checkRegex label.token
  intro descriptor
  apply bind (groups settings descriptor)
  · intro word spelt
    obtain ⟨groups, same⟩ := spelt
    exact ⟨[], .labelled label groups none, by rw [BarePhrase.tokens, same]; rfl⟩
  intro values taken spelt
  obtain ⟨groups, same⟩ := spelt
  apply bind capture_name
  · intro word spelt
    obtain ⟨capture, sameCapture⟩ := spelt
    exact ⟨[], .labelled label groups capture, by simp [BarePhrase.tokens, same, sameCapture]⟩
  intro name word spelt
  obtain ⟨capture, sameCapture⟩ := spelt
  apply act fun _ => Acts.declare_optional settings underNegation name
  intro captured
  exact pure _ ⟨.labelled label groups capture, by simp [BarePhrase.tokens, same, sameCapture]⟩

theorem linked (tilde : Leaf [.tilde]) :
    Offers (Production.linked settings underNegation relation) fun tokens =>
      Spelt BarePhrase.tokens (tilde.token :: tokens) := by
  unfold Production.linked
  apply consume (by decide) (.leaf default ⟨.linked tilde default none, rfl⟩)
  intro target
  apply bind capture_name
  · intro word spelt
    obtain ⟨capture, same⟩ := spelt
    exact ⟨[], .linked tilde target capture, by simp [BarePhrase.tokens, same]⟩
  intro name word spelt
  obtain ⟨capture, same⟩ := spelt
  apply act fun _ => Acts.reference settings target.token
  intro known
  apply act fun _ => Acts.declare_optional settings underNegation name
  intro captured
  exact pure _ ⟨.linked tilde target capture, by simp [BarePhrase.tokens, same]⟩

theorem backreferenced (equals : Leaf [.equals]) :
    Offers (Production.backreferenced settings relation) fun tokens =>
      Spelt BarePhrase.tokens (equals.token :: tokens) := by
  unfold Production.backreferenced
  apply consume (by decide) (.leaf default ⟨.backreferenced equals default, rfl⟩)
  intro target
  apply act fun _ => Acts.reference settings target.token
  intro known
  exact pure _ ⟨.backreferenced equals target, rfl⟩

theorem bare : Offers (bareDescription settings underNegation relation)
    (Spelt BarePhrase.tokens) := by
  unfold bareDescription
  apply accept_any (by decide)
  · intro kind inside
    exact ⟨_, _, rfl, .labelled ⟨⟨kind, [], .nowhere⟩, inside⟩ [] none, rfl⟩
  · exact fun label => labelled settings underNegation relation label
  apply accepts (by decide) (.leaf default ⟨.linked default default none, rfl⟩)
  intro tilde
  cases tilde with
  | some tilde => exact linked settings underNegation relation tilde
  | none =>
      apply accepts (by decide) (.leaf default ⟨.backreferenced default default, rfl⟩)
      intro equals
      cases equals with
      | some equals => exact backreferenced settings relation equals
      | none => exact unexpected ⟨_, default, rfl⟩

theorem description : Offers (Production.description settings underNegation relation)
    (Spelt DescriptionPhrase.tokens) := by
  unfold Production.description
  apply accepts (by decide) (.leaf default ⟨⟨some default, none, default⟩, rfl⟩)
  intro negation
  apply accepts (by decide) (.leaf default ⟨⟨negation, some default, default⟩, rfl⟩)
  intro category
  apply map
  apply (bare settings underNegation relation).mono
  intro word spelt
  obtain ⟨bare, same⟩ := spelt
  exact ⟨⟨negation, category, bare⟩, by rw [DescriptionPhrase.tokens, same]⟩

end Offers

end TreeQuery.Grammar
