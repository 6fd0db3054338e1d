import TreeQuery.Proofs.Printing.Relation
import TreeQuery.Pattern.Printer

/- Descriptions that were read from a text are printed in a way that reads back as the
   same description, whatever relation it hangs from. -/
set_option autoImplicit false

namespace TreeQuery

open Grammar

theorem group_number_again {descriptor : Descriptor} {text : Text} {n : Nat}
    (found : groupNumber descriptor text = .ok n) :
    groupNumber descriptor (Text.ofNat n) = .ok n := by
  have again : ∀ value : Int, value = n → 0 < value → value ≤ 0xffffffffffffffff →
      (∀ regex, descriptor = .regex regex → n ≤ regex.captures) →
        groupNumber descriptor (Text.ofNat n) = .ok n := by
    rintro _ rfl positive small exists?
    simp only [groupNumber, Numeral.read_of_nat]
    rw [if_neg, if_neg]
    · cases descriptor with
      | regex regex => simpa using exists? regex rfl
      | _ => rfl
    · omega
    · rintro (rest | negative | large)
      · exact Text.of_nat_ne_nil n rest.symm
      · omega
      · omega
  simp only [groupNumber] at found
  split at found
  · cases found
  · rename_i inRange
    simp only [not_or, Int.not_lt] at inRange
    split at found
    · cases found
    · rename_i notZero
      cases descriptor with
      | regex regex =>
          simp only at found
          split at found
          · cases found
          · cases found
            refine again _ (by omega) (by omega) inRange.2.2 ?_
            rintro _ ⟨⟩
            omega
      | _ =>
          cases found
          exact again _ (by omega) (by omega) inRange.2.2 (fun _ same => by cases same)

theorem descriptor_of_same {checker : Regex.Checker} {one other : Token}
    (sameKind : one.kind = other.kind) (sameText : one.text = other.text) :
    (descriptorOf checker one).toOption = (descriptorOf checker other).toOption := by
  unfold descriptorOf
  rw [sameKind, sameText]
  cases other.kind <;> try rfl
  cases Regex.ofLiteral checker other.text <;> rfl

theorem render_descriptor_of {checker : Regex.Checker} (label : Leaf labelKinds)
    {descriptor : Descriptor} (lexed : label.token.Lexed) (found : descriptorOf checker label.token = .ok descriptor) :
    descriptor.render = label.token.text := by
  obtain ⟨⟨kind, text, position⟩, isLabel⟩ := label
  obtain ⟨source, read⟩ := lexed
  simp only [labelKinds, List.mem_cons, List.not_mem_nil, or_false] at isLabel
  rcases isLabel with rfl | rfl | rfl
  · cases found
    rfl
  · obtain ⟨body, rfl, closed⟩ := (lexeme_read_by read).is_regex.opened
    simp only [descriptorOf] at found
    split at found
    · rename_i regex same
      cases found
      exact Regex.render_of_literal closed same
    · cases found
  · cases found
    exact (lexeme_read_by read).is_blank.symm

namespace Spells

variable {checker : Regex.Checker} {text : Text} {follow : Text → Prop} {spelt : List Token → Prop}

theorem capture (capture : Option CapturePhrase)
    (lexed : ∀ token ∈ captureTokens capture, token.Lexed) :
    Spells (renderNamed '=' (captureText capture)) Boundary fun tokens =>
      ∃ other, captureTokens other = tokens ∧ captureText other = captureText capture := by
  cases capture with
  | none => exact nil ⟨none, rfl, rfl⟩
  | some capture =>
      have isName := (lexed capture.name.token (by simp [captureTokens])).is_name
      refine equals isName.starts fun equals => ?_
      change Spells capture.name.token.text _ _
      rw [← List.append_nil capture.name.token.text]
      refine name isName (fun _ boundary => boundary) fun name same => ?_
      exact nil ⟨some ⟨equals, name⟩, rfl, congrArg some same⟩

theorem boundary_capture (capture : Option Text) {rest : Text} (boundary : Boundary rest) :
    Boundary (renderNamed '=' capture ++ rest) := by
  cases capture with
  | none => exact boundary
  | some name => exact boundary_cons _ rfl (by decide)

theorem boundary_groups (groups : List GroupCapture) {rest : Text} (boundary : Boundary rest) :
    Boundary (groups.flatMap GroupCapture.render ++ rest) := by
  cases groups with
  | nil => exact boundary
  | cons group groups => exact boundary_cons _ rfl (by decide)

theorem groups {descriptor : Descriptor} (apart : ∀ rest, follow rest → Boundary (text ++ rest)) :
    (phrases : List GroupPhrase) → ∀ {groups : List GroupCapture} {spelt : List Token → Prop},
      (∀ token ∈ phrases.flatMap GroupPhrase.tokens, token.Lexed) →
      phrases.mapM (GroupPhrase.denote descriptor) = some groups →
      (∀ others : List GroupPhrase, others.mapM (GroupPhrase.denote descriptor) = some groups →
        Spells text follow fun tokens => spelt (others.flatMap GroupPhrase.tokens ++ tokens)) →
      Spells (groups.flatMap GroupCapture.render ++ text) follow spelt
  | [], groups, spelt, lexed, denoted, others => by
      cases denoted
      exact others [] rfl
  | phrase :: phrases, groups, spelt, lexed, denoted, onSpelt => by
      simp only [List.mapM_cons, Option.bind_eq_bind, Option.bind_eq_some_iff, Option.pure_def,
        Option.some.injEq] at denoted
      obtain ⟨group, first, more, others, rfl⟩ := denoted
      obtain ⟨n, found, rfl⟩ := Option.map_eq_some_iff.1 first
      have again := group_number_again (to_option_eq_some.1 found)
      rw [List.flatMap_cons, List.forall_mem_append] at lexed
      have isName := (lexed.1 phrase.name.token (by simp [GroupPhrase.tokens])).is_name
      rw [List.flatMap_cons]
      simp only [GroupCapture.render, List.append_assoc, List.cons_append, List.nil_append]
      refine mark (by decide : (.hash, '#') ∈ marks) (by decide) fun hash => ?_
      refine number n (fun _ _ => boundary_cons _ rfl (by decide)) fun number sameNumber => ?_
      refine equals (starts_name_of_starts isName.starts _) fun equals => ?_
      refine name isName (fun rest behind => ?_) fun name sameName => ?_
      · rw [List.append_assoc]
        exact boundary_groups more (apart rest behind)
      refine groups apart phrases lexed.2 others ?_
      intro phrases' same
      refine (onSpelt (⟨hash, number, equals, name⟩ :: phrases') ?_).mono ?_
      · simp [GroupPhrase.denote, sameNumber, sameName, again, same, Except.toOption]
      · intro tokens holds
        simpa [GroupPhrase.tokens] using holds

end Spells

def Description.renderBare (description : Description) : Text :=
  description.descriptor.render ++ (description.groups.flatMap GroupCapture.render ++
    (renderNamed '~' description.link ++
      (renderNamed '=' description.backreference ++ renderNamed '=' description.capture)))

section Spelt

variable (checker : Regex.Checker) (description : Description)

def SpeltLabel (tokens : List Token) : Prop :=
  ∃ phrase : DescriptionPhrase, phrase.tokens = tokens ∧ ∀ relation,
    phrase.denote checker relation =
      some { description with relation, negated := false, optional := false }

def SpeltBare (tokens : List Token) : Prop :=
  ∃ phrase : BarePhrase, phrase.tokens = tokens ∧ ∀ relation,
    phrase.denote checker relation =
      some { description with relation, negated := false, optional := false }

end Spelt

namespace Spells

variable {checker : Regex.Checker} {relation : Relation} {description : Description}

theorem labelledBare {label : Leaf labelKinds} {groups : List GroupPhrase}
    {capture : Option CapturePhrase}
    (lexed : ∀ token ∈ (BarePhrase.labelled label groups capture).tokens, token.Lexed)
    (denoted : (BarePhrase.labelled label groups capture).denote checker relation =
      some description) :
    Spells description.renderBare Boundary (SpeltBare checker description) := by
  rw [BarePhrase.tokens, List.forall_mem_cons, List.forall_mem_append] at lexed
  obtain ⟨lexedLabel, lexedGroups, lexedCapture⟩ := lexed
  simp only [BarePhrase.denote, Option.bind_eq_bind, Option.pure_def, Option.bind_eq_some_iff,
    Option.some.injEq] at denoted
  obtain ⟨descriptor, read, captures, grouped, rfl⟩ := denoted
  have same := render_descriptor_of label lexedLabel (to_option_eq_some.1 read)
  simp only [Description.renderBare, Description.plain, renderNamed, List.nil_append, same]
  refine Spells.label label lexedLabel ?_ fun label' sameKind sameText => ?_
  · intro rest boundary
    rw [List.append_assoc]
    exact boundary_groups _ (boundary_capture _ boundary)
  refine Spells.groups (fun _ => boundary_capture _) groups lexedGroups grouped
    fun groups' sameGroups => ?_
  refine (Spells.capture capture lexedCapture).mono ?_
  rintro tokens ⟨capture', rfl, sameCapture⟩
  refine ⟨.labelled label' groups' capture', rfl, fun relation => ?_⟩
  simp [BarePhrase.denote, descriptor_of_same sameKind sameText, read, sameGroups, sameCapture,
    Description.plain]

theorem linkedBare {tilde : Leaf [.tilde]} {target : Leaf [.identifier]}
    {capture : Option CapturePhrase}
    (lexed : ∀ token ∈ (BarePhrase.linked tilde target capture).tokens, token.Lexed)
    (denoted : (BarePhrase.linked tilde target capture).denote checker relation =
      some description) :
    Spells description.renderBare Boundary (SpeltBare checker description) := by
  rw [BarePhrase.tokens, List.forall_mem_cons, List.forall_mem_cons] at lexed
  obtain ⟨-, lexedTarget, lexedCapture⟩ := lexed
  have isName := lexedTarget.is_name
  cases denoted
  simp only [Description.renderBare, Description.plain, Descriptor.render, renderNamed,
    List.flatMap_nil, List.nil_append, List.cons_append]
  refine mark (by decide : (.tilde, '~') ∈ marks) (by decide) fun tilde' => ?_
  refine name isName (fun _ => boundary_capture _) fun target' sameTarget => ?_
  refine (Spells.capture capture lexedCapture).mono ?_
  rintro tokens ⟨capture', rfl, sameCapture⟩
  refine ⟨.linked tilde' target' capture', rfl, fun relation => ?_⟩
  simp [BarePhrase.denote, sameTarget, sameCapture, Description.plain]

theorem backreferencedBare {sign : Leaf [.equals]} {target : Leaf [.identifier]}
    (lexed : ∀ token ∈ (BarePhrase.backreferenced sign target).tokens, token.Lexed)
    (denoted : (BarePhrase.backreferenced sign target).denote checker relation =
      some description) :
    Spells description.renderBare Boundary (SpeltBare checker description) := by
  rw [BarePhrase.tokens, List.forall_mem_cons, List.forall_mem_singleton] at lexed
  have isName := lexed.2.is_name
  cases denoted
  simp only [Description.renderBare, Description.plain, Descriptor.render, renderNamed,
    List.flatMap_nil, List.nil_append, List.append_nil]
  rw [← List.append_nil target.token.text]
  refine equals (starts_name_of_starts isName.starts []) fun sign' => ?_
  refine name isName (fun _ boundary => boundary) fun target' sameTarget => nil ?_
  refine ⟨.backreferenced sign' target', rfl, fun relation => ?_⟩
  simp [BarePhrase.denote, sameTarget, Description.plain]

theorem bare {phrase : BarePhrase} (lexed : ∀ token ∈ phrase.tokens, token.Lexed)
    (denoted : phrase.denote checker relation = some description) :
    Spells description.renderBare Boundary (SpeltBare checker description) := by
  cases phrase with
  | labelled label groups capture => exact labelledBare lexed denoted
  | linked tilde target capture => exact linkedBare lexed denoted
  | backreferenced sign target => exact backreferencedBare lexed denoted

theorem described {phrase : DescriptionPhrase} (lexed : ∀ token ∈ phrase.tokens, token.Lexed)
    (denoted : phrase.denote checker relation = some description) :
    Spells description.renderLabel Boundary (SpeltLabel checker description) := by
  obtain ⟨inner, found, rfl⟩ := Option.map_eq_some_iff.1 denoted
  rw [DescriptionPhrase.tokens, List.forall_mem_append, List.forall_mem_append] at lexed
  simp only [Description.renderLabel, List.append_assoc]
  refine optional (by decide : (.bang, '!') ∈ marks) (by decide) _ fun negation sameNegation => ?_
  refine optional (by decide : (.atSign, '@') ∈ marks) (by decide) _
    fun category sameCategory => ?_
  refine (bare lexed.2.2 found).mono ?_
  rintro tokens ⟨other, rfl, again⟩
  refine ⟨⟨negation, category, other⟩, rfl, fun relation => ?_⟩
  simp [DescriptionPhrase.denote, again, sameNegation, sameCategory]

end Spells

end TreeQuery
