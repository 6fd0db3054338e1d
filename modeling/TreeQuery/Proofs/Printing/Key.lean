import TreeQuery.Proofs.Printing.Alike
import TreeQuery.Proofs.Printing.RoundTrip
import TreeQuery.Proofs.Printing.Written

/- The printed text as a key: compiled patterns have the same printed text just if their trees
   are the same. The text gives the tokens, and these belong to a single tree, even where both
   modifiers stand before one constraint or the nesting is too deep to be read again. -/
set_option autoImplicit false

namespace TreeQuery

open Grammar

def WrittenFreely (resolver : Resolver) (node : Node) (tokens : List Token) : Prop :=
  ∃ nodes, Node.coordinate true nodes = node ∧ Written resolver .conjuncts nodes tokens

theorem Written.freely {resolver : Resolver} {node : Node} {tokens : List Token}
    (written : Written resolver .constraint [node] tokens) : WrittenFreely resolver node tokens :=
  ⟨[node], rfl, .conjunct written⟩

variable {resolver : Resolver} {description : Description} {node : Node} {nodes : List Node}
  {text : Text}

theorem coordinate_several (conjunctive : Bool) (several : 2 ≤ nodes.length) :
    Node.coordinate conjunctive nodes = .coordination ⟨conjunctive, false, false⟩ nodes := by
  match nodes, several with
  | [], several => cases several
  | [_], several => simp at several
  | _ :: _ :: _, _ => rfl

namespace Spells

theorem writtenMarked (negated optional : Bool)
    (spells : Spells text Boundary (Written resolver .plain [node])) :
    Spells (renderModifiers negated optional ++ text) Boundary
      (Written resolver .constraint [node.marked negated optional]) := by
  unfold renderModifiers
  rw [List.append_assoc]
  apply Spells.optional (by decide : (.bang, '!') ∈ marks) (by decide) negated
  rintro bang rfl
  apply Spells.optional (by decide : (.question, '?') ∈ marks) (by decide) optional
  rintro question rfl
  exact spells.mono fun tokens written => .marked bang question written

theorem writtenDescribed {child : Option Node} (reads : description.relation.Reads resolver)
    (label : description.LabelReads resolver)
    (below : ∀ node, child = some node →
      Spells (node.renderIn false) Boundary (WrittenFreely resolver node))
    (inConjunction : Bool) :
    Spells ((Node.described description child).renderIn inConjunction) Boundary
      (Written resolver .constraint [.described description child]) := by
  rw [Node.renderIn, Description.renderWith, reads.notRoot, if_neg Bool.false_ne_true,
    List.append_assoc, List.append_assoc, ← Node.marked_described description child]
  apply writtenMarked
  apply reads.spells.append (fun rest _ => ⟨_, rfl⟩)
  intro operation related
  apply gap
  cases child with
  | none =>
      simp only [Option.isSome_none, Bool.false_eq_true, if_false, Node.renderChild,
        List.append_nil]
      exact label.mono fun tokens spelt => .labelled related spelt
  | some node =>
      simp only [Option.isSome_some, if_true, Node.renderChild, List.cons_append,
        List.append_assoc]
      apply mark (by decide : (.leftParen, '(') ∈ marks) (by decide)
      intro opener
      apply label.append (fun rest _ => boundary_cons _ rfl (by decide))
      intro spelling spelt
      apply gap
      apply (below node rfl).append (fun rest _ => boundary_cons _ rfl (by decide))
      rintro tokens ⟨nodes, rfl, children⟩
      apply mark (by decide : (.rightParen, ')') ∈ marks) (by decide)
      intro closer
      exact nil (.headed opener closer related spelt children)

theorem writtenBracketed {c : Coordination} {inConjunction : Bool} {members : List Text}
    {branches : List Node} (bracketed : c.isBracketed inConjunction = true)
    (same : Node.coordinate false branches = .coordination ⟨c.conjunctive, false, false⟩ nodes)
    (spells : Spells (Text.join c.separator members) Boundary
      (Written resolver .disjuncts branches)) :
    Spells (c.renderWith inConjunction members) Boundary
      (Written resolver .constraint [.coordination c nodes]) := by
  rw [Coordination.renderWith, if_pos bracketed, ← Node.marked_coordination c nodes, ← same]
  apply writtenMarked
  simp only [List.cons_append]
  apply mark (by decide : (.leftBracket, '[') ∈ marks) (by decide)
  intro opener
  apply spells.append (fun rest _ => boundary_cons rest rfl (by decide))
  intro tokens written
  apply mark (by decide : (.rightBracket, ']') ∈ marks) (by decide)
  intro closer
  exact nil (.group opener closer written)

end Spells

mutual

theorem Node.writes : (node : Node) → node.Readable resolver →
    Spells (node.renderIn true) Boundary (Written resolver .constraint [node]) ∧
      Spells (node.renderIn false) Boundary (WrittenFreely resolver node)
  | .described description child, readable => by
      obtain ⟨⟨reads, label⟩, readableBelow⟩ := Node.everywhere_described.1 readable
      have spells := Spells.writtenDescribed reads label (Node.child_writes child readableBelow)
      exact ⟨spells true, (spells false).mono fun _ => Written.freely⟩
  | .coordination c members, readable => by
      obtain ⟨several, readableBelow⟩ := Node.everywhere_coordination.1 readable
      have nonempty : members ≠ [] := by
        rintro rfl
        cases several
      obtain ⟨conjuncts, disjuncts⟩ := Node.members_write members readableBelow nonempty
      obtain ⟨conjunctive, negated, optional⟩ := c
      cases conjunctive with
      | false =>
          have bracketed : ∀ inConjunction,
              Coordination.isBracketed ⟨false, negated, optional⟩ inConjunction = true := by
            simp [Coordination.isBracketed]
          have spells := fun inConjunction => Spells.writtenBracketed (bracketed inConjunction)
            (coordinate_several false several) disjuncts
          exact ⟨spells true, (spells false).mono fun _ => Written.freely⟩
      | true =>
          have whole := conjuncts.mono fun tokens written => Written.disjunct written
          have same : coordinate false [coordinate true members] =
              .coordination ⟨true, false, false⟩ members := coordinate_several true several
          refine ⟨Spells.writtenBracketed (by simp [Coordination.isBracketed]) same whole, ?_⟩
          -- A plain conjunction outside of another one is printed without brackets.
          cases bracketed : Coordination.isBracketed ⟨true, negated, optional⟩ false with
          | true =>
              have spells := Spells.writtenBracketed bracketed same whole
              exact spells.mono fun _ => Written.freely
          | false =>
              obtain ⟨rfl, rfl⟩ : negated = false ∧ optional = false := by
                simpa [Coordination.isBracketed] using bracketed
              exact conjuncts.mono fun tokens written =>
                ⟨members, coordinate_several true several, written⟩

theorem Node.child_writes : (child : Option Node) →
    (∀ node, child = some node → node.Readable resolver) →
      ∀ node, child = some node →
        Spells (node.renderIn false) Boundary (WrittenFreely resolver node)
  | none, _ => fun _ same => by cases same
  | some node, readable => by
      rintro _ ⟨⟩
      exact (Node.writes node (readable node rfl)).2

theorem Node.members_write : (nodes : List Node) → (∀ node ∈ nodes, node.Readable resolver) →
    nodes ≠ [] →
      Spells (Text.join [' '] (renderMembers true nodes)) Boundary
          (Written resolver .conjuncts nodes) ∧
        Spells (Text.join [' ', '|', ' '] (renderMembers false nodes)) Boundary
          (Written resolver .disjuncts nodes)
  | [], _, nonempty => absurd rfl nonempty
  | [node], readable, _ => by
      obtain ⟨constraint, freely⟩ := Node.writes node (readable node (by simp))
      refine ⟨constraint.mono fun tokens written => .conjunct written, freely.mono ?_⟩
      rintro tokens ⟨nodes, rfl, written⟩
      exact .disjunct written
  | node :: second :: nodes, readable, _ => by
      obtain ⟨constraint, freely⟩ := Node.writes node (readable node (by simp))
      obtain ⟨conjuncts, disjuncts⟩ := Node.members_write (second :: nodes)
        (fun other inside => readable other (List.mem_cons_of_mem _ inside)) (List.cons_ne_nil _ _)
      constructor
      · change Spells (node.renderIn true ++ [' '] ++ _) Boundary _
        rw [List.append_assoc]
        apply constraint.append (fun rest _ => boundary_cons _ rfl (by decide))
        intro tokens first
        exact Spells.gap (conjuncts.mono fun others next => .conjoined first next)
      · change Spells (node.renderIn false ++ [' ', '|', ' '] ++ _) Boundary _
        rw [List.append_assoc]
        apply freely.append (fun rest _ => boundary_cons _ rfl (by decide))
        rintro tokens ⟨parts, rfl, first⟩
        apply Spells.gap
        apply Spells.mark (by decide : (.pipe, '|') ∈ marks) (by decide)
        intro bar
        exact Spells.gap (disjuncts.mono fun others next => .disjoined bar first next)

end

inductive WrittenTop (resolver : Resolver) : Described → List Token → Prop where
  | alone {description : Description} {label : List Token} (terminator : Leaf [.semicolon])
      (spelt : SpeltLabel resolver.checkRegex description label) :
      WrittenTop resolver ⟨description, none⟩ (label ++ [terminator.token])
  | above {description : Description} {label below : List Token} {nodes : List Node}
      (terminator : Leaf [.semicolon])
      (spelt : SpeltLabel resolver.checkRegex description label)
      (children : Written resolver .conjuncts nodes below) :
      WrittenTop resolver ⟨description, some (Node.coordinate true nodes)⟩
        (label ++ (below ++ [terminator.token]))

-- The top of a pattern that is read from a text: it hangs from nothing, so that no modifier
-- can stand before it.
structure Described.Topmost (resolver : Resolver) (top : Described) : Prop where
  readable : top.Readable resolver Relation.root
  notNegated : top.description.negated = false
  notOptional : top.description.optional = false

variable {top top' : Described} {tokens : List Token}

theorem Described.Topmost.without_modifiers (topmost : top.Topmost resolver) :
    { top.description with negated := false, optional := false } = top.description := by
  obtain ⟨⟨relation, negated, optional⟩, child⟩ := top
  obtain ⟨-, rfl, rfl⟩ := topmost
  rfl

theorem Described.Topmost.writes (topmost : top.Topmost resolver) :
    Spells (top.toNode.render ++ [';']) (fun _ => True) (WrittenTop resolver top) := by
  obtain ⟨description, child⟩ := top
  obtain ⟨⟨root, label, readableBelow⟩, -, -⟩ := topmost
  have shown : Node.render (.described description child) =
      description.renderLabel ++ Node.renderChild child := by
    unfold Node.render
    rw [Node.renderIn, Description.renderWith, root]
    rfl
  change Spells (Node.render (.described description child) ++ [';']) _ _
  rw [shown, List.append_assoc]
  cases child with
  | none =>
      apply label.append (fun rest _ => boundary_cons rest rfl (by decide))
      intro tokens spelt
      apply Spells.mark (by decide : (.semicolon, ';') ∈ marks) (by decide)
      intro terminator
      exact Spells.nil (.alone terminator spelt)
  | some node =>
      apply label.append (fun rest _ => boundary_cons _ rfl (by decide))
      intro tokens spelt
      apply Spells.gap
      apply (Node.writes node (readableBelow node rfl)).2.append
        (fun rest _ => boundary_cons rest rfl (by decide))
      rintro more ⟨nodes, rfl, children⟩
      apply Spells.mark (by decide : (.semicolon, ';') ∈ marks) (by decide)
      intro terminator
      exact Spells.nil (.above terminator spelt children)

theorem terminator_behind (terminator : Leaf [.semicolon]) (last : Token) :
    nextKind [terminator.token] last ∈ behindConjunction :=
  terminator.next_kind (by decide) [] last

theorem SpeltLabel.not_above {description' : Description} {label label' below : List Token}
    (spelt : SpeltLabel resolver.checkRegex description label)
    (spelt' : SpeltLabel resolver.checkRegex description' label')
    (relations : description'.relation = description.relation)
    (children : Written resolver .conjuncts nodes below)
    (terminator terminator' : Leaf [.semicolon]) :
    label ++ [terminator.token] ≠ label' ++ (below ++ [terminator'.token]) := by
  intro same
  have closes := terminator_behind terminator terminator.token
  obtain ⟨-, rests⟩ := spelt.unique spelt' relations same (Settles.behind_conjuncts closes)
    (children.behind_node _ terminator.token)
  rw [← rests] at closes
  exact absurd closes (children.not_behind _ terminator.token)

theorem WrittenTop.unique (written : WrittenTop resolver top tokens)
    (writtenToo : WrittenTop resolver top' tokens) (topmost : top.Topmost resolver)
    (topmost' : top'.Topmost resolver) : top' = top := by
  have relations : top'.description.relation = top.description.relation :=
    topmost'.readable.relation_eq.trans topmost.readable.relation_eq.symm
  have plain := topmost.without_modifiers
  have plain' := topmost'.without_modifiers
  generalize same : tokens = tokens' at writtenToo
  cases written with
  | alone terminator spelt =>
      cases writtenToo with
      | alone terminator' spelt' =>
          have behind := fun terminator : Leaf [.semicolon] =>
            Settles.behind_conjuncts (terminator_behind terminator terminator.token)
          obtain ⟨descriptions, -⟩ := spelt.unique spelt' relations same (behind terminator)
            (behind terminator')
          rw [plain, plain'] at descriptions
          cases descriptions
          rfl
      | above terminator' spelt' children =>
          exact absurd same (spelt.not_above spelt' relations children terminator terminator')
  | above terminator spelt children =>
      cases writtenToo with
      | alone terminator' spelt' =>
          have different := spelt'.not_above spelt relations.symm children terminator' terminator
          exact absurd same.symm different
      | above terminator' spelt' children' =>
          have last := terminator.token
          obtain ⟨descriptions, lower⟩ := spelt.unique spelt' relations same
            (children.behind_node _ last) (children'.behind_node _ last)
          rw [plain, plain'] at descriptions
          cases descriptions
          obtain ⟨rfl, -⟩ := children.settles last _ _ _ _ children' lower.symm
            (terminator_behind terminator last) (terminator_behind terminator' last)
          rfl

namespace Pattern

variable {text text' : Text} {pattern other : Pattern}

theorem compiled_topmost (compiled : compile resolver text = .ok pattern) :
    ∃ top : Described, pattern.root = top.toNode ∧ top.Topmost resolver := by
  obtain ⟨top, names, rfl, readable, ⟨notNegated, notOptional⟩, -⟩ := compiled_readable compiled
  exact ⟨top, rfl, readable, notNegated, notOptional⟩

theorem root_eq_of_render_eq (compiled : compile resolver text = .ok pattern)
    (compiledToo : compile resolver text' = .ok other) (same : pattern.render = other.render) :
    pattern.root = other.root := by
  obtain ⟨top, root, topmost⟩ := compiled_topmost compiled
  obtain ⟨top', root', topmost'⟩ := compiled_topmost compiledToo
  obtain ⟨body, final, lexed, -, -, written⟩ := topmost.writes.tokenized trivial
  obtain ⟨body', final', lexed', -, -, written'⟩ := topmost'.writes.tokenized trivial
  unfold render at same
  rw [root, root'] at same
  rw [same, lexed'] at lexed
  obtain ⟨rfl, -⟩ := List.append_inj' (Except.ok.inj lexed) rfl
  rw [root, root', written.unique written' topmost topmost']

/-- The printed text of compiled patterns is a key for their trees: it is the same just if the
trees are the same. -/
theorem compile_render_eq_iff (compiled : compile resolver text = .ok pattern)
    (compiledToo : compile resolver text' = .ok other) :
    pattern.render = other.render ↔ (pattern.root == other.root) = true := by
  constructor
  · intro same
    rw [root_eq_of_render_eq compiled compiledToo same]
    exact BEq.refl other.root
  · intro same
    unfold render Node.render
    rw [Node.render_of_same pattern.root other.root same]

theorem compile_render_eq_iff_modifiers :
    ∃ pattern other : Pattern, compile .standard "S![?<(A.B)]".toList = .ok pattern ∧
      compile .standard "S ?[ !< (A [. B]) ]".toList = .ok other ∧
        pattern.render = "S !?< (A . B);".toList ∧ (pattern.root == other.root) = true ∧
          (compile .standard pattern.render).toOption = none := by
  have printed : (compile .standard "S![?<(A.B)]".toList).toOption.map Pattern.render =
      some "S !?< (A . B);".toList := by decide +kernel
  have printedToo : (compile .standard "S ?[ !< (A [. B]) ]".toList).toOption.map Pattern.render =
      some "S !?< (A . B);".toList := by decide +kernel
  have refused : (compile .standard "S !?< (A . B);".toList).toOption = none := by
    apply Option.isNone_iff_eq_none.1
    decide +kernel
  obtain ⟨pattern, found, render⟩ := Option.map_eq_some_iff.1 printed
  obtain ⟨other, foundToo, renderToo⟩ := Option.map_eq_some_iff.1 printedToo
  have compiled := to_option_eq_some.1 found
  have compiledToo := to_option_eq_some.1 foundToo
  have same := (compile_render_eq_iff compiled compiledToo).1 (render.trans renderToo.symm)
  exact ⟨pattern, other, compiled, compiledToo, render, same, by rw [render, refused]⟩

end Pattern

end TreeQuery
