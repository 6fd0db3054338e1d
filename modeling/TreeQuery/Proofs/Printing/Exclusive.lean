import TreeQuery.Proofs.Grammar.Modifiers
import TreeQuery.Proofs.Grammar.Separate

/- Patterns with a node that is both negated and optional. They come from texts with a
   modifier before a group whose only member carries the other modifier. Printed, the two
   modifiers stand before one constraint, and no pattern is read from such a text. -/
set_option autoImplicit false

namespace TreeQuery

open Grammar

-- What a list of tokens tells of the tree if no question mark is directly behind a bang.
def Tells (told : Prop) (tokens : List Token) : Prop := Separate tokens → told

namespace Spells

variable {text : Text} {told : Prop}

theorem tells_behind {word : Text} {followWord : Text → Prop} {spelt : List Token → Prop}
    (spells : Spells word followWord spelt)
    (apart : ∀ rest, Boundary rest → followWord (text ++ rest))
    (below : Spells text Boundary (Tells told)) : Spells (word ++ text) Boundary (Tells told) := by
  refine spells.append apart fun tokens _ => below.mono ?_
  intro more tells separate
  exact tells separate.right_of_append

theorem tells_marked {kind : TokenKind} {c : Char} (inside : (kind, c) ∈ marks) (notEquals : c ≠ '=')
    (below : Spells text Boundary (Tells told)) : Spells (c :: text) Boundary (Tells told) := by
  refine mark inside notEquals fun leaf => below.mono ?_
  intro more tells separate
  exact tells separate.tail

theorem tells_enclosed {opening closing : TokenKind} {c d : Char} (opens : (opening, c) ∈ marks)
    (closes : (closing, d) ∈ marks) (notEquals : c ≠ '=' ∧ d ≠ '=') (apart : isNameChar d = false)
    (noBar : d ≠ '|') (below : Spells text Boundary (Tells told)) :
    Spells (c :: (text ++ [d])) Boundary (Tells told) := by
  refine tells_marked opens notEquals.1 ?_
  refine below.append (fun rest _ => boundary_cons rest apart noBar) fun tokens tells => ?_
  refine mark closes notEquals.2 fun leaf => nil ?_
  intro separate
  exact tells separate.left_of_append

theorem tells_modified (negated optional : Bool) (below : Spells text Boundary (Tells told)) :
    Spells (renderModifiers negated optional ++ text) Boundary
      (Tells (¬ (negated = true ∧ optional = true) ∧ told)) := by
  by_cases both : negated = true ∧ optional = true
  · obtain ⟨rfl, rfl⟩ := both
    refine mark (by decide : (.bang, '!') ∈ marks) (by decide) fun bang => ?_
    refine mark (by decide : (.question, '?') ∈ marks) (by decide) fun question => below.mono ?_
    intro more tells separate
    exact absurd question.kind_eq (List.isChain_cons_cons.1 separate |>.1 bang.kind_eq)
  · have told : Spells text Boundary (Tells (¬ (negated = true ∧ optional = true) ∧ told)) :=
      below.mono fun tokens tells separate => ⟨both, tells separate⟩
    cases negated with
    | true =>
        cases optional with
        | true => exact absurd ⟨rfl, rfl⟩ both
        | false => exact tells_marked (by decide : (.bang, '!') ∈ marks) (by decide) told
    | false =>
        cases optional with
        | true => exact tells_marked (by decide : (.question, '?') ∈ marks) (by decide) told
        | false => exact told

theorem tells_separator (c : Coordination) (below : Spells text Boundary (Tells told)) :
    Spells (c.separator ++ text) Boundary (Tells told) := by
  unfold Coordination.separator
  split
  · exact gap below
  · exact gap (tells_marked (by decide : (.pipe, '|') ∈ marks) (by decide) (gap below))

end Spells

theorem boundary_separator (c : Coordination) (rest : Text) : Boundary (c.separator ++ rest) := by
  unfold Coordination.separator
  split <;> exact boundary_cons _ rfl (by decide)

theorem boundary_child (child : Option Node) {rest : Text} (boundary : Boundary rest) :
    Boundary (Node.renderChild child ++ rest) := by
  cases child with
  | none => exact boundary
  | some node => exact boundary_cons _ rfl (by decide)

variable {resolver : Resolver}

mutual

theorem Node.tells : (node : Node) → node.Readable resolver → (inConjunction : Bool) →
    Spells (node.renderIn inConjunction) Boundary (Tells node.Exclusive)
  | .described description child, readable, inConjunction => by
      obtain ⟨⟨reads, label⟩, readableBelow⟩ := Node.everywhere_described.1 readable
      have body := label.tells_behind (fun _ => boundary_child child)
        (Node.tells_child child readableBelow)
      have target : Spells (if child.isSome then
            ['('] ++ (description.renderLabel ++ renderChild child) ++ [')']
          else description.renderLabel ++ renderChild child) Boundary
          (Tells (∀ node, child = some node → node.Exclusive)) := by
        split
        · exact body.tells_enclosed (by decide : (.leftParen, '(') ∈ marks)
            (by decide : (.rightParen, ')') ∈ marks) (by decide) (by decide) (by decide)
        · exact body
      have related := reads.spells.tells_behind (fun rest _ => ⟨_, rfl⟩) target.gap
      rw [Node.renderIn, Description.renderWith, reads.notRoot, if_neg Bool.false_ne_true,
        List.append_assoc, List.append_assoc]
      refine (related.tells_modified description.negated description.optional).mono ?_
      intro tokens tells separate
      exact Node.exclusive_described.2 (tells separate)
  | .coordination c members, readable, inConjunction => by
      obtain ⟨several, readableBelow⟩ := Node.everywhere_coordination.1 readable
      have nonempty : members ≠ [] := by
        rintro rfl
        cases several
      have body := Node.tells_members c members readableBelow nonempty
      have enclosed : Spells (if c.isBracketed inConjunction then
            ['['] ++ Text.join c.separator (renderMembers c.conjunctive members) ++ [']']
          else Text.join c.separator (renderMembers c.conjunctive members)) Boundary
          (Tells (∀ node ∈ members, node.Exclusive)) := by
        split
        · exact body.tells_enclosed (by decide : (.leftBracket, '[') ∈ marks)
            (by decide : (.rightBracket, ']') ∈ marks) (by decide) (by decide) (by decide)
        · exact body
      rw [Node.renderIn, Coordination.renderWith]
      refine (enclosed.tells_modified c.negated c.optional).mono ?_
      intro tokens tells separate
      exact Node.exclusive_coordination.2 (tells separate)

theorem Node.tells_child : (child : Option Node) →
    (∀ node, child = some node → node.Readable resolver) →
      Spells (renderChild child) Boundary (Tells (∀ node, child = some node → node.Exclusive))
  | none, _ => Spells.nil fun _ _ same => by cases same
  | some node, readable => by
      rw [Node.renderChild]
      refine Spells.gap ((Node.tells node (readable node rfl) false).mono ?_)
      rintro tokens tells separate _ ⟨⟩
      exact tells separate

theorem Node.tells_members (c : Coordination) : (nodes : List Node) →
    (∀ node ∈ nodes, node.Readable resolver) → nodes ≠ [] →
      Spells (Text.join c.separator (renderMembers c.conjunctive nodes)) Boundary
        (Tells (∀ node ∈ nodes, node.Exclusive))
  | [], _, nonempty => absurd rfl nonempty
  | [node], readable, _ => by
      refine (Node.tells node (readable node (by simp)) c.conjunctive).mono ?_
      intro tokens tells separate
      exact List.forall_mem_singleton.2 (tells separate)
  | node :: second :: nodes, readable, _ => by
      have first := Node.tells node (readable node (by simp)) c.conjunctive
      have others := Node.tells_members c (second :: nodes)
        (fun other inside => readable other (List.mem_cons_of_mem _ inside)) (List.cons_ne_nil _ _)
      rw [renderMembers, renderMembers, Text.join_cons_cons, List.append_assoc]
      refine first.append (fun rest _ => ?_) fun tokens tells => ?_
      · rw [List.append_assoc]
        exact boundary_separator c _
      refine (Spells.tells_separator c others).mono ?_
      intro more tellsOthers separate
      exact List.forall_mem_cons.2
        ⟨tells separate.left_of_append, tellsOthers separate.right_of_append⟩

end

namespace Pattern

variable {text : Text} {pattern : Pattern}

theorem exclusive_of_render (compiled : compile resolver text = .ok pattern)
    {again : Pattern} (accepted : compile resolver pattern.render = .ok again) :
    pattern.root.Exclusive := by
  obtain ⟨top, names, rfl, readable, plain, -⟩ := compiled_readable compiled
  have body := readable.label.tells_behind (fun _ => boundary_child top.child)
    (Node.tells_child top.child readable.child)
  have printed : Spells (top.description.renderLabel ++ Node.renderChild top.child ++ [';'])
      (fun _ => True) (Tells top.ExclusiveBelow) := by
    refine body.append (fun rest _ => boundary_cons rest rfl (by decide)) fun tokens tells => ?_
    refine Spells.mark (by decide : (.semicolon, ';') ∈ marks) (by decide) fun _ => Spells.nil ?_
    intro separate
    exact tells separate.left_of_append
  have text : Pattern.render ⟨top.toNode, names.names, text, resolver⟩ =
      top.description.renderLabel ++ Node.renderChild top.child ++ [';'] := by
    change top.description.renderWith _ _ ++ [';'] = _
    rw [Description.renderWith, readable.relation_eq]
    rfl
  obtain ⟨tokens, final, lexedRender, -, -, tells⟩ := printed.tokenized trivial
  obtain ⟨⟨phrase, last, lexedAgain⟩, -⟩ := compile_reads accepted
  rw [terminated_render, text, lexedRender] at lexedAgain
  obtain ⟨rfl, -⟩ := List.append_inj' (Except.ok.inj lexedAgain) rfl
  exact (Described.exclusive_iff_below plain.1).2 (tells phrase.separate)

/-- A pattern has no node that is both negated and optional just if its text has no modifier
before a group whose only member carries the other modifier. If it has one, its printed text is
not accepted. -/
theorem compile_exclusive_iff (compiled : compile resolver text = .ok pattern) :
    (∃ phrase, ReadAs text phrase) ∧
      (∀ phrase, ReadAs text phrase →
        (pattern.root.Exclusive ↔ phrase.top.keepsApart = true)) ∧
      (¬ pattern.root.Exclusive → ∀ again, compile resolver pattern.render ≠ .ok again) := by
  obtain ⟨readable, reads⟩ := compile_reads compiled
  refine ⟨readable, ?_, ?_⟩
  · intro phrase read
    obtain ⟨-, top, denoted, root⟩ := reads phrase read
    obtain ⟨-, positive, -⟩ := phrase.top.denote_plain denoted
    rw [root, Described.exclusive_iff_below positive]
    exact phrase.top.exclusive_iff denoted
  · intro both again accepted
    exact both (exclusive_of_render compiled accepted)

theorem compile_exclusive_iff_nested :
    ∃ (pattern : Pattern) (phrase : PatternPhrase),
      compile .standard "VP=x ?[[< NP [!< (PP < IN)]] > S] & ?[![[$ ADVP]]]".toList = .ok pattern ∧
        ReadAs "VP=x ?[[< NP [!< (PP < IN)]] > S] & ?[![[$ ADVP]]]".toList phrase ∧
          phrase.top.keepsApart = false ∧ ¬ pattern.root.Exclusive ∧
            ∀ again, compile .standard pattern.render ≠ .ok again := by
  have accepted : (compile .standard
      "VP=x ?[[< NP [!< (PP < IN)]] > S] & ?[![[$ ADVP]]]".toList).toOption.map
        (fun pattern => decide pattern.root.Exclusive) = some false := by decide +kernel
  obtain ⟨pattern, found, evaluated⟩ := Option.map_eq_some_iff.1 accepted
  have both := of_decide_eq_false evaluated
  have compiled := to_option_eq_some.1 found
  obtain ⟨⟨phrase, read⟩, condition, refused⟩ := compile_exclusive_iff compiled
  have clashes := Bool.eq_false_iff.2 fun apart => both ((condition phrase read).2 apart)
  exact ⟨pattern, phrase, compiled, read, clashes, both, refused both⟩

theorem compile_both_modifiers :
    ∃ pattern : Pattern, compile .standard "S![?<A]".toList = .ok pattern ∧
      ¬ pattern.root.Exclusive ∧ pattern.render = "S !?< A;".toList ∧
        ∀ again, compile .standard pattern.render ≠ .ok again := by
  have accepted : (compile .standard "S![?<A]".toList).toOption.map
      (fun pattern => (decide pattern.root.Exclusive, pattern.render)) =
        some (false, "S !?< A;".toList) := by decide +kernel
  obtain ⟨pattern, found, evaluated⟩ := Option.map_eq_some_iff.1 accepted
  obtain ⟨exclusive, printed⟩ := Prod.mk.inj evaluated
  have compiled := to_option_eq_some.1 found
  have both := of_decide_eq_false exclusive
  exact ⟨pattern, compiled, both, printed, fun again acceptedAgain =>
    both (exclusive_of_render compiled acceptedAgain)⟩

end Pattern

end TreeQuery
