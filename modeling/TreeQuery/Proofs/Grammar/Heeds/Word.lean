import Mathlib.Data.List.Basic
import TreeQuery.Proofs.Grammar.Heeds.Basic
import TreeQuery.Proofs.Grammar.Kinds

/- Operators and labels: a number of a relation is looked at when its node is read, a number of
   a group when the name of the group is read. -/
set_option autoImplicit false

namespace TreeQuery.Grammar

variable {α β : Type} {resolver : Resolver} {read : List Token} {good : List Token → β → Prop}
  {kinds : List TokenKind} {kind : TokenKind}

namespace Sound

theorem leaf (sound : Sound resolver read) (leaf : Leaf kinds) (free : .number ∉ kinds) :
    Sound resolver (read ++ [leaf.token]) :=
  sound.snoc fun isNumber => absurd (isNumber ▸ leaf.kind_mem) free

theorem optional (sound : Sound resolver read) (leaf : Option (Leaf kinds))
    (free : .number ∉ kinds) : Sound resolver (read ++ optionalTokens leaf) := by
  cases leaf with
  | none => rwa [optionalTokens, List.append_nil]
  | some leaf => exact sound.leaf leaf free

theorem unexpected (sound : Sound resolver read) (found : Unexpected) :
    Halted resolver (.unexpectedToken found) read := .elsewhere sound trivial

theorem operation {operation : OperationPhrase} {relation : Relation} (sound : Sound resolver read)
    (resolves : resolver.resolve operation.operation.symbol operation.operation.argument =
      .ok relation) : Sound resolver (read ++ operation.tokens) := by
  cases operation with
  | plain operator number =>
      have behind := sound.leaf operator (by decide)
      cases number with
      | none => exact behind
      | some number =>
          rw [OperationPhrase.tokens, List.append_cons]
          exact behind.snoc fun _ => .index operator.kind_eq resolves
  | chain operator argument =>
      rw [OperationPhrase.tokens, List.append_cons]
      apply (sound.leaf operator (by decide)).append
      intro token inside isNumber
      exact absurd (isNumber ▸ argument.within token inside) (by decide)

theorem group {group : GroupPhrase} {label : Token} {descriptor : Descriptor} {n : Nat}
    (sound : Sound resolver read) (inFront : labelInFront read = some label)
    (meant : descriptorOf resolver.checkRegex label = .ok descriptor)
    (has : groupNumber descriptor group.number.token.text = .ok n) :
    Sound resolver (read ++ group.tokens) := by
  have behindHash := sound.leaf group.hash (by decide)
  have behindNumber : Sound resolver (read ++ [group.hash.token] ++ [group.number.token]) :=
    behindHash.snoc fun _ => .group group.hash.kind_eq inFront meant has
  have behindEquals := behindNumber.leaf group.equals (by decide)
  have behindName := behindEquals.leaf group.name (by decide)
  simpa [GroupPhrase.tokens] using behindName

end Sound

theorem label_in_front_group (group : GroupPhrase) :
    labelInFront (read ++ group.tokens) = labelInFront read := by
  have split : read ++ group.tokens = read ++ [group.hash.token] ++ [group.number.token] ++
      [group.equals.token] ++ [group.name.token] := by simp [GroupPhrase.tokens]
  have noNumber : group.number.token.kind ∉ labelKinds := by
    rw [group.number.kind_eq]
    decide
  have noHash : group.hash.token.kind ∉ labelKinds := by
    rw [group.hash.kind_eq]
    decide
  rw [split, label_in_front_name group.equals.kind_eq, label_in_front_other noNumber,
    label_in_front_other noHash]

theorem operation_apart (read : List Token) (operation : OperationPhrase) :
    (read ++ operation.tokens).getLast?.map Token.kind ≠ some .equals := by
  intro same
  obtain ⟨last, isLast, equals⟩ := Option.map_eq_some_iff.1 same
  have nonempty : operation.tokens ≠ [] := by cases operation <;> simp [OperationPhrase.tokens]
  rw [List.getLast?_append_of_ne_nil _ nonempty] at isLast
  have inside := List.mem_of_getLast? isLast
  exact absurd (equals ▸ operation.within last inside) (by decide)

-- A node may come next, whose label is not taken for the name behind an equals sign.
structure Ready (resolver : Resolver) (read : List Token) : Prop where
  sound : Sound resolver read
  apart : read.getLast?.map Token.kind ≠ some .equals

namespace Ready

theorem nil : Ready resolver [] := ⟨.nil, by simp⟩

theorem leaf (ready : Ready resolver read) (leaf : Leaf kinds) (free : .number ∉ kinds)
    (apart : .equals ∉ kinds) : Ready resolver (read ++ [leaf.token]) := by
  refine ⟨ready.sound.leaf leaf free, ?_⟩
  rw [List.getLast?_concat]
  intro same
  exact apart (Option.some.inj same ▸ leaf.kind_mem)

theorem optional (ready : Ready resolver read) (leaf : Option (Leaf kinds))
    (free : .number ∉ kinds) (apart : .equals ∉ kinds) :
    Ready resolver (read ++ optionalTokens leaf) := by
  cases leaf with
  | none => rwa [optionalTokens, List.append_nil]
  | some leaf => exact ready.leaf leaf free apart

theorem operation {operation : OperationPhrase} {relation : Relation} (sound : Sound resolver read)
    (resolves : resolver.resolve operation.operation.symbol operation.operation.argument =
      .ok relation) : Ready resolver (read ++ operation.tokens) :=
  ⟨sound.operation resolves, operation_apart read operation⟩

end Ready

theorem descriptor_unrelated {checker : Regex.Checker} {label : Token} {error : PatternError}
    (failed : descriptorOf checker label = .error error) : error.Unrelated := by
  unfold descriptorOf at failed
  split at failed
  · split at failed
    · cases failed
    · cases failed
      trivial
  · cases failed
  · cases failed

namespace Heeds

open Production

theorem argument_mark {next : Text → Production β} (mark : Char) (within : .endOfInput ≠ kind)
    (others : ∀ leaf : Option (Leaf [kind]),
      Heeds resolver (read ++ optionalTokens leaf) (next (optionalMark mark leaf)) good) :
    Heeds resolver read (argumentMark kind mark >>= next) good := by
  unfold argumentMark
  rw [bind_assoc]
  apply accepts within
  intro leaf
  cases leaf with
  | none => exact others none
  | some leaf => exact others (some leaf)

theorem chain_argument (sound : Sound resolver read) :
    Heeds resolver read chainArgument fun read' text =>
      ∃ argument : ArgumentPhrase, read' = read ++ argument.tokens ∧ argument.text = text := by
  unfold chainArgument
  apply accepts (by decide)
  intro opener
  have behindOpener := sound.optional opener (by decide)
  cases opener with
  | some opener =>
      apply argument_mark '!' (by decide)
      intro negation
      have behindNegation := behindOpener.optional negation (by decide)
      apply argument_mark '@' (by decide)
      intro category
      have behindCategory := behindNegation.optional category (by decide)
      apply accept_any (by decide)
      · intro label
        apply consume (by decide) (behindCategory.leaf label (by decide)).unexpected
        intro closer
        refine pure ⟨.enclosed opener negation category label closer, ?_, rfl⟩
        simp [ArgumentPhrase.tokens, optionalTokens]
      · exact unexpected behindCategory.unexpected
  | none =>
      apply check
      intro found
      cases found with
      | false => exact unexpected behindOpener.unexpected
      | true =>
          apply argument_mark '!' (by decide)
          intro negation
          apply consume (by decide) (behindOpener.optional negation (by decide)).unexpected
          intro regex
          refine pure ⟨.unenclosed negation regex, ?_, rfl⟩
          simp [ArgumentPhrase.tokens, optionalTokens]

theorem operation (sound : Sound resolver read) :
    Heeds resolver read Production.operation fun read' written =>
      ∃ phrase : OperationPhrase, read' = read ++ phrase.tokens ∧ phrase.operation = written := by
  unfold Production.operation
  apply accept_any (by decide)
  · intro operator
    apply accept_any (by decide)
    · intro number
      exact pure ⟨.plain operator (some number), by simp [OperationPhrase.tokens, optionalTokens], rfl⟩
    · exact pure ⟨.plain operator none, rfl, rfl⟩
  · apply accept_any (by decide)
    · intro operator
      apply (chain_argument (sound.leaf operator (by decide))).bind
      rintro _ text ⟨argument, rfl, rfl⟩
      exact pure ⟨.chain operator argument, by simp [OperationPhrase.tokens], rfl⟩
    · exact unexpected sound.unexpected

theorem capture_name (sound : Sound resolver read) :
    Heeds resolver read captureName fun read' _ => Sound resolver read' := by
  unfold captureName
  apply accepts (by decide)
  intro equals
  have behind := sound.optional equals (by decide)
  cases equals with
  | none => exact pure behind
  | some equals =>
      apply consume (by decide) behind.unexpected
      intro name
      exact pure (behind.leaf name (by decide))

section Names

variable {settings : Settings} {next : Unit → Production β}

theorem of_scope {position : Position} {result : Except ScopeError α} {next : α → Production β}
    (sound : Sound resolver read) (others : ∀ value, Heeds resolver read (next value) good) :
    Heeds resolver read (ofScope position result >>= next) good := by
  apply of_except
  · intro error failed
    cases result with
    | ok value => cases failed
    | error cause =>
        cases failed
        exact .elsewhere sound (by cases cause <;> trivial)
  · exact fun value _ => others value

theorem declare_group {name : Token} (sound : Sound resolver read)
    (others : Heeds resolver read (next ()) good) :
    Heeds resolver read (declareGroup settings name >>= next) good := by
  unfold declareGroup
  split
  · rw [bind_assoc]
    apply get_scope
    intro scope
    rw [bind_assoc]
    exact of_scope sound fun known => set_scope others
  · exact others

theorem reference {name : Token} (sound : Sound resolver read)
    (others : Heeds resolver read (next ()) good) :
    Heeds resolver read (Production.reference settings name >>= next) good := by
  unfold Production.reference
  split
  · rw [bind_assoc]
    apply get_scope
    intro scope
    exact of_scope sound fun _ => others
  · exact others

theorem declare_optional {underNegation : Bool} {name : Option Token}
    {next : Option Text → Production β} (sound : Sound resolver read)
    (others : ∀ text, Heeds resolver read (next text) good) :
    Heeds resolver read (declareOptional settings underNegation name >>= next) good := by
  cases name with
  | none => exact others none
  | some name =>
      unfold declareOptional declareCapture
      rw [bind_assoc]
      split
      · rw [bind_assoc]
        apply get_scope
        intro scope
        rw [bind_assoc]
        apply of_scope sound
        intro known
        rw [bind_assoc]
        apply set_scope
        cases underNegation with
        | false => exact others _
        | true => exact throw (.elsewhere sound trivial)
      · exact others _

end Names

variable {settings : Settings} {underNegation : Bool} {relation : Relation}

structure Labelled (resolver : Resolver) (label : Token) (read : List Token) : Prop where
  sound : Sound resolver read
  inFront : labelInFront read = some label

theorem group_capture {front : List Token} {label : Token} {descriptor : Descriptor}
    (labelled : Labelled settings.resolver label front) (hash : Leaf [.hash])
    (meant : descriptorOf settings.resolver.checkRegex label = .ok descriptor) :
    Heeds settings.resolver (front ++ [hash.token]) (groupCapture settings descriptor)
      fun read' _ => Labelled settings.resolver label read' := by
  unfold groupCapture
  apply consume (by decide) (labelled.sound.leaf hash (by decide)).unexpected
  intro number
  have unfinished : ∀ (equals : Option (Leaf [.equals])) found,
      Halted settings.resolver (.unexpectedToken found)
        (front ++ hash.token :: number.token :: optionalTokens equals) :=
    fun _ _ => .unfinished labelled.sound trivial
  rw [List.append_assoc]
  apply consume (by decide) (unfinished none)
  intro equals
  rw [List.append_assoc]
  apply consume (by decide) (unfinished (some equals))
  intro name
  rw [List.append_assoc]
  let group : GroupPhrase := ⟨hash, number, equals, name⟩
  change Heeds settings.resolver (front ++ group.tokens) _ _
  cases checked : groupNumber descriptor group.number.token.text with
  | error fault => exact throw (.group labelled.sound labelled.inFront meant checked)
  | ok n =>
      have sound := labelled.sound.group labelled.inFront meant checked
      apply declare_group sound
      exact pure ⟨sound, (label_in_front_group group).trans labelled.inFront⟩

theorem groups {label : Token} {descriptor : Descriptor}
    (labelled : Labelled settings.resolver label read)
    (meant : descriptorOf settings.resolver.checkRegex label = .ok descriptor) :
    Heeds settings.resolver read
      (Production.many (Production.accepts .hash) (groupCapture settings descriptor))
      fun read' _ => Labelled settings.resolver label read' := by
  have noLabel : ∀ hash : Leaf [.hash], hash.token.kind ∉ labelKinds := by
    intro hash
    rw [hash.kind_eq]
    decide
  apply many (fun read => ∃ front, Labelled settings.resolver label front ∧
    ∃ hash : Leaf [.hash], read = front ++ [hash.token]) _ _ labelled
  · intro front labelled
    refine (more_accepts (by decide)).mono ?_
    rintro read' found ⟨hash, rfl, rfl⟩
    cases hash with
    | none =>
        rw [optionalTokens, List.append_nil]
        exact ⟨labelled, nofun⟩
    | some hash =>
        have inFront : labelInFront (front ++ [hash.token]) = labelInFront front :=
          label_in_front_other (noLabel hash)
        exact ⟨⟨labelled.sound.leaf hash (by decide), inFront.trans labelled.inFront⟩,
          fun _ => ⟨front, labelled, hash, rfl⟩⟩
  · rintro _ - ⟨front, labelled, hash, rfl⟩
    exact group_capture labelled hash meant

theorem labelled (ready : Ready settings.resolver read) (label : Leaf labelKinds) :
    Heeds settings.resolver (read ++ [label.token])
      (Production.labelled settings underNegation relation label.token)
      fun read' _ => Sound settings.resolver read' := by
  have behindLabel := ready.sound.leaf label (by decide)
  unfold Production.labelled
  apply of_except
  · exact fun error failed => .elsewhere behindLabel (descriptor_unrelated failed)
  · intro descriptor meant
    have start : Labelled settings.resolver label.token (read ++ [label.token]) :=
      ⟨behindLabel, label_in_front_label label.kind_mem ready.apart⟩
    apply (groups start meant).bind
    intro read' groups labelled
    apply (capture_name labelled.sound).bind
    intro read' name sound
    exact declare_optional sound fun _ => pure sound

theorem linked (sound : Sound settings.resolver read) :
    Heeds settings.resolver read (Production.linked settings underNegation relation)
      fun read' _ => Sound settings.resolver read' := by
  unfold Production.linked
  apply consume (by decide) sound.unexpected
  intro target
  apply (capture_name (sound.leaf target (by decide))).bind
  intro read' name sound
  exact reference sound (declare_optional sound fun _ => pure sound)

theorem backreferenced (sound : Sound settings.resolver read) :
    Heeds settings.resolver read (Production.backreferenced settings relation)
      fun read' _ => Sound settings.resolver read' := by
  unfold Production.backreferenced
  apply consume (by decide) sound.unexpected
  intro target
  have behind := sound.leaf target (by decide)
  exact reference behind (pure behind)

theorem bare (ready : Ready settings.resolver read) :
    Heeds settings.resolver read (bareDescription settings underNegation relation)
      fun read' _ => Sound settings.resolver read' := by
  unfold bareDescription
  apply accept_any (by decide)
  · exact fun label => labelled ready label
  · apply accepts (by decide)
    intro tilde
    have behindTilde := ready.sound.optional tilde (by decide)
    cases tilde with
    | some tilde => exact linked behindTilde
    | none =>
        apply accepts (by decide)
        intro equals
        have behindEquals := behindTilde.optional equals (by decide)
        cases equals with
        | some equals => exact backreferenced behindEquals
        | none => exact unexpected behindEquals.unexpected

theorem description (ready : Ready settings.resolver read) :
    Heeds settings.resolver read (Production.description settings underNegation relation)
      fun read' _ => Sound settings.resolver read' := by
  unfold Production.description
  apply accepts (by decide)
  intro negation
  apply accepts (by decide)
  intro category
  have behind := (ready.optional negation (by decide) (by decide)).optional category (by decide)
    (by decide)
  exact (bare behind).bind fun _ _ sound => pure sound

end Heeds

end TreeQuery.Grammar
