import TreeQuery.Proofs.Grammar.Heeds.Word
import TreeQuery.Proofs.Grammar.Piece

/- Where the groups of an accepted pattern are written: a hash sign opens a group of the
   description in whose stretch it stands, behind the label of that description. -/
set_option autoImplicit false

namespace TreeQuery.Grammar

def isHash (token : Token) : Bool := token.kind == .hash

variable {tokens before rest : List Token} {hash : Token} {checker : Regex.Checker}
  {relation : Relation} {description : Description}

theorem Within.hash_free {kinds : List TokenKind} (within : Within kinds tokens)
    (apart : .hash ∉ kinds) : ∀ token ∈ tokens, isHash token = false := by
  intro token inside
  rw [isHash, beq_eq_false_iff_ne]
  intro same
  exact apart (same ▸ within token inside)

-- What a hash sign leads in on: a group of the description, behind its label and other groups.
-- No equals sign stands in front of the label in what is written of the description.
structure OpensGroup (checker : Regex.Checker) (description : Description) (before tokens : List Token) :
    Prop where
  labelled : ∃ (front : List Token) (label : Leaf labelKinds) (earlier : List GroupPhrase),
    before = front ++ label.token :: earlier.flatMap GroupPhrase.tokens ∧
      (∀ token ∈ front, token.kind ≠ .equals) ∧
        descriptorOf checker label.token = .ok description.descriptor
  denoted : ∃ (group : GroupPhrase) (behind : List Token), tokens = group.tokens ++ behind ∧
    ∃ capture ∈ description.groups, group.denote description.descriptor = some capture

theorem label_in_front_groups (groups : List GroupPhrase) :
    labelInFront (before ++ groups.flatMap GroupPhrase.tokens) = labelInFront before := by
  induction groups generalizing before with
  | nil => rw [List.flatMap_nil, List.append_nil]
  | cons group groups ih =>
      rw [List.flatMap_cons, ← List.append_assoc, ih, label_in_front_group]

theorem groups_split {groups : List GroupPhrase} {descriptor : Descriptor}
    {captures : List GroupCapture}
    (denoted : groups.mapM (GroupPhrase.denote descriptor) = some captures)
    (starts : isHash hash = true)
    (split : groups.flatMap GroupPhrase.tokens = before ++ hash :: rest) :
    ∃ (earlier : List GroupPhrase) (group : GroupPhrase) (behind : List Token),
      before = earlier.flatMap GroupPhrase.tokens ∧ hash :: rest = group.tokens ++ behind ∧
        ∃ capture ∈ captures, group.denote descriptor = some capture := by
  induction groups generalizing before captures with
  | nil => simp at split
  | cons group groups ih =>
      simp only [List.mapM_cons, Option.bind_eq_bind, Option.bind_eq_some_iff, Option.pure_def,
        Option.some.injEq] at denoted
      obtain ⟨capture, here, others, later, rfl⟩ := denoted
      cases before with
      | nil => exact ⟨[], group, _, rfl, split.symm, capture, List.mem_cons_self, here⟩
      | cons first before =>
          obtain ⟨rfl, inside⟩ := List.cons.inj split
          have inner : Within [.number, .equals, .identifier]
              [group.number.token, group.equals.token, group.name.token] := by
            simp [group.number.kind_eq, group.equals.kind_eq, group.name.kind_eq]
          obtain ⟨between, rfl, further⟩ := split_behind (inner.hash_free (by decide)) starts inside
          obtain ⟨earlier, found, behind, rfl, same, capture, among, there⟩ := ih later further
          exact ⟨group :: earlier, found, behind, rfl, same, capture,
            List.mem_cons_of_mem _ among, there⟩

theorem capture_kinds (capture : Option CapturePhrase) :
    Within [.tilde, .equals, .identifier] (captureTokens capture) := by
  cases capture with
  | none => exact within_nil
  | some capture => simp [captureTokens, capture.equals.kind_eq, capture.name.kind_eq]

theorem BarePhrase.opens_group {phrase : BarePhrase}
    (denoted : phrase.denote checker relation = some description) (starts : isHash hash = true)
    (split : phrase.tokens = before ++ hash :: rest) :
    OpensGroup checker description before (hash :: rest) := by
  have inside : hash ∈ phrase.tokens := by simp [split]
  cases phrase with
  | labelled label groups capture =>
      simp only [denote, Option.bind_eq_bind, Option.pure_def, Option.bind_eq_some_iff,
        Option.some.injEq] at denoted
      obtain ⟨descriptor, meant, captures, each, rfl⟩ := denoted
      have front : Within labelKinds [label.token] := within_cons.2 ⟨label.kind_mem, within_nil⟩
      have last := (capture_kinds capture).hash_free (by decide)
      rw [tokens, ← List.singleton_append] at split
      obtain ⟨between, rfl, further⟩ := split_behind (front.hash_free (by decide)) starts split
      obtain ⟨inner, rfl, within⟩ := split_ahead last starts further
      obtain ⟨earlier, group, behind, rfl, same, found⟩ := groups_split each starts within
      refine ⟨⟨[], label, earlier, rfl, List.forall_mem_nil _, to_option_eq_some.1 meant⟩,
        group, behind ++ captureTokens capture, ?_, found⟩
      rw [← List.cons_append, same, List.append_assoc]
  | linked tilde target capture =>
      have free : Within [.tilde, .equals, .identifier] (linked tilde target capture).tokens := by
        simp [tokens, tilde.kind_eq, target.kind_eq, capture_kinds]
      exact absurd ((free.hash_free (by decide) hash inside).symm.trans starts) Bool.false_ne_true
  | backreferenced equals target =>
      have free : Within [.equals, .identifier] (backreferenced equals target).tokens := by
        simp [tokens, equals.kind_eq, target.kind_eq]
      exact absurd ((free.hash_free (by decide) hash inside).symm.trans starts) Bool.false_ne_true

theorem OpensGroup.around {kinds : List TokenKind} {front : List Token}
    (opens : OpensGroup checker description before tokens) (within : Within kinds front)
    (apart : .equals ∉ kinds) (behind : List Token) :
    OpensGroup checker description (front ++ before) (tokens ++ behind) := by
  obtain ⟨⟨inner, label, earlier, rfl, free, meant⟩, group, others, rfl, found⟩ := opens
  refine ⟨⟨front ++ inner, label, earlier, by simp, ?_, meant⟩, group, others ++ behind, by simp,
    found⟩
  refine List.forall_mem_append.2 ⟨?_, free⟩
  intro token inside same
  exact apart (same ▸ within token inside)

theorem Writes.opens_group (writes : Writes checker relation tokens description)
    (starts : isHash hash = true) (split : tokens = before ++ hash :: rest) :
    OpensGroup checker description before (hash :: rest) := by
  obtain ⟨-, openers, label, joints, rfl, parens, between, denoted⟩ := writes
  have front : Within [.leftParen] openers := fun token inside => by simp [parens token inside]
  have last : Within jointKinds joints := between
  have marks : Within [.bang, .atSign]
      (optionalTokens label.negation ++ optionalTokens label.category) := by
    simp +decide [optional_within]
  obtain ⟨_, rfl, further⟩ := split_behind (front.hash_free (by decide)) starts split
  obtain ⟨inner, rfl, within⟩ := split_ahead (last.hash_free (by decide)) starts further
  rw [DescriptionPhrase.tokens, ← List.append_assoc] at within
  obtain ⟨_, rfl, bare⟩ := split_behind (marks.hash_free (by decide)) starts within
  simp only [DescriptionPhrase.denote, Option.map_eq_some_iff] at denoted
  obtain ⟨named, found, same⟩ := denoted
  have opens := (BarePhrase.opens_group found starts bare).around marks (by decide) joints
  obtain ⟨labelled, denoted⟩ := opens.around front (by decide) []
  -- The marks in front of the label change neither its descriptor nor its groups.
  have descriptor : description.descriptor = named.descriptor := by
    have kept : description.descriptor = description.unmodified.descriptor := rfl
    rw [kept, ← same]
  have groups : description.groups = named.groups := by
    have kept : description.groups = description.unmodified.groups := rfl
    rw [kept, ← same]
  rw [List.append_nil, List.cons_append] at denoted
  exact ⟨descriptor ▸ labelled, by rw [descriptor, groups]; exact denoted⟩

theorem OpensGroup.label_in_front (opens : OpensGroup checker description before tokens)
    (outer : List Token) (apart : outer.getLast?.map Token.kind ≠ some .equals) :
    ∃ label, labelInFront (outer ++ before) = some label ∧
      descriptorOf checker label = .ok description.descriptor := by
  obtain ⟨⟨front, label, earlier, rfl, free, meant⟩, -⟩ := opens
  have behindFront : (outer ++ front).getLast?.map Token.kind ≠ some .equals := by
    cases front using List.reverseRecOn with
    | nil => rwa [List.append_nil]
    | append_singleton front last _ =>
        rw [← List.append_assoc, List.getLast?_concat]
        intro same
        exact free last (by simp) (Option.some.inj same)
  refine ⟨label.token, ?_, meant⟩
  rw [← List.append_assoc, List.append_cons, label_in_front_groups]
  exact label_in_front_label label.kind_mem behindFront

theorem WritesRelated.opens_group {resolver : Resolver}
    (writes : WritesRelated resolver tokens description) (starts : isHash hash = true)
    (split : tokens = before ++ hash :: rest) :
    ∃ (operation : OperationPhrase) (between : List Token),
      before = operation.tokens ++ between ∧ before.countP Token.isOperator = 1 ∧
        OpensGroup resolver.checkRegex description between (hash :: rest) := by
  obtain ⟨operation, relation, written, rfl, -, writes⟩ := writes
  obtain ⟨between, rfl, rfl⟩ := split_behind (operation.within.hash_free (by decide)) starts split
  have free := writes.operator_free
  rw [operator_free_append] at free
  refine ⟨operation, between, rfl, ?_, writes.opens_group starts rfl⟩
  rw [List.countP_append, operation.led.count_operators, count_operators_free free.1]

-- What is opened is a group of the description that the operators in front of it count out, and the
-- label in front of it is the label of that description.
def OpensGroupOf (checker : Regex.Checker) (descriptions : List Description)
    (before tokens : List Token) : Prop :=
  ∃ label description, labelInFront before = some label ∧
    descriptions[before.countP Token.isOperator]? = some description ∧
      descriptorOf checker label = .ok description.descriptor ∧
        ∃ (group : GroupPhrase) (behind : List Token), tokens = group.tokens ++ behind ∧
          ∃ capture ∈ description.groups, group.denote description.descriptor = some capture

theorem OpensGroup.counted {descriptions : List Description} {outer : List Token}
    (opens : OpensGroup checker description before tokens)
    (apart : outer.getLast?.map Token.kind ≠ some .equals)
    (there : descriptions[(outer ++ before).countP Token.isOperator]? = some description)
    (behind : List Token) :
    OpensGroupOf checker descriptions (outer ++ before) (tokens ++ behind) := by
  obtain ⟨label, inFront, meant⟩ := opens.label_in_front outer apart
  obtain ⟨group, others, rfl, found⟩ := opens.denoted
  exact ⟨label, description, inFront, there, meant, group, others ++ behind, by simp, found⟩

theorem parse_tokens_group {resolver : Resolver} {parsed : Parsed}
    (accepted : parseTokens resolver tokens = .ok parsed) (starts : isHash hash = true)
    (split : (TokenStream.ofTokens tokens).upcoming = before ++ hash :: rest) :
    OpensGroupOf resolver.checkRegex parsed.root.descriptions before (hash :: rest) := by
  obtain ⟨first, pieces, top, later, whole, listed, writes, each⟩ := parse_tokens_pieces accepted
  have free := writes.operator_free
  rw [listed]
  have further : ∀ between, before = first ++ between → pieces.flatten = between ++ hash :: rest →
      OpensGroupOf resolver.checkRegex (top :: later) before (hash :: rest) := by
    rintro between rfl further
    obtain ⟨earlier, inner, outer, others, description, rfl, rfl, holds, there⟩ :=
      split_stretches (fun _ _ => WritesRelated.stretch) each further
    obtain ⟨operation, between, rfl, counted, opens⟩ := holds.opens_group starts rfl
    have listed : (top :: later)[(first ++ earlier ++ operation.tokens ++ between).countP
        Token.isOperator]? = some description := by
      rw [List.append_assoc _ operation.tokens, List.append_assoc first, List.countP_append,
        List.countP_append, counted, count_operators_free free, Nat.zero_add]
      exact there
    have opened := opens.counted (operation_apart _ operation) listed others
    simpa using opened
  rcases List.append_eq_append_iff.1 (whole.symm.trans split) with
    ⟨between, same, behind⟩ | ⟨inner, same, behind⟩
  · exact further between same behind
  · cases inner with
    | nil => exact further [] (by simpa using same.symm) behind.symm
    | cons token inner =>
        obtain ⟨rfl, rfl⟩ := List.cons.inj behind
        rw [same, operator_free_append] at free
        have listed : (top :: later)[([] ++ before).countP Token.isOperator]? = some top := by
          rw [List.nil_append, count_operators_free free.1]
          rfl
        exact (writes.opens_group starts same).counted (by simp) listed pieces.flatten

end TreeQuery.Grammar
