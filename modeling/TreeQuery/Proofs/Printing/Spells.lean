import TreeQuery.Proofs.Token.Scan
import TreeQuery.Proofs.Text.Numeral
import TreeQuery.Proofs.Grammar.Phrase

/- Texts that spell certain tokens. A text is followed by others, so a rule asks for
   what stands behind the text that it adds a word to: words must not fuse. -/
set_option autoImplicit false

namespace TreeQuery

open Grammar

theorem Token.Lexed.is_name {leaf : Leaf [.identifier]} (lexed : leaf.token.Lexed) :
    IsName leaf.token.text := by
  obtain ⟨source, read⟩ := lexed
  rw [leaf.kind_eq] at read
  exact lexeme_is_name read

-- The walk over the text gives the tokens, and then goes on with the rest.
def Lexes (text : Text) (here : Position) (rest : Text) (tokens : List Token) : Prop :=
  scan 0 here (text ++ rest) = (scan 0 (here.afterAll text) rest).map (tokens ++ ·)

def Spells (text : Text) (follow : Text → Prop) (spelt : List Token → Prop) : Prop :=
  ∀ (here : Position) (rest : Text), follow rest → ∃ tokens, spelt tokens ∧ Lexes text here rest tokens

namespace Spells

variable {text : Text} {follow : Text → Prop} {spelt : List Token → Prop}

theorem nil (holds : spelt []) : Spells [] follow spelt := by
  intro here rest _
  refine ⟨[], holds, ?_⟩
  change scan 0 here rest = (scan 0 here rest).map _
  cases scan 0 here rest <;> rfl

theorem mono {spelt' : List Token → Prop} (spells : Spells text follow spelt)
    (onSpelt : ∀ tokens, spelt tokens → spelt' tokens) : Spells text follow spelt' := by
  intro here rest behind
  obtain ⟨tokens, holds, lexes⟩ := spells here rest behind
  exact ⟨tokens, onSpelt tokens holds, lexes⟩

theorem append {word : Text} {followWord : Text → Prop} {first : List Token → Prop}
    (spells : Spells word followWord first) (apart : ∀ rest, follow rest → followWord (text ++ rest))
    (others : ∀ tokens, first tokens → Spells text follow fun more => spelt (tokens ++ more)) :
    Spells (word ++ text) follow spelt := by
  intro here rest behind
  obtain ⟨tokens, holds, lexes⟩ := spells here (text ++ rest) (apart rest behind)
  obtain ⟨more, holdsMore, lexesMore⟩ := others tokens holds (here.afterAll word) rest behind
  refine ⟨tokens ++ more, holdsMore, ?_⟩
  unfold Lexes at lexes lexesMore ⊢
  rw [List.append_assoc, lexes, lexesMore, Position.after_all_append]
  cases scan 0 ((here.afterAll word).afterAll text) rest <;> simp [Except.map]

theorem gap (spells : Spells text follow spelt) : Spells (' ' :: text) follow spelt := by
  intro here rest behind
  obtain ⟨tokens, holds, lexes⟩ := spells (here.after ' ') rest behind
  exact ⟨tokens, holds, lexes⟩

theorem lexeme {kind : TokenKind} {word : Text} (nonempty : word ≠ [])
    (read : ∀ rest, follow rest → lexeme? (word ++ (text ++ rest)) = some (kind, word))
    (others : ∀ leaf : Leaf [kind], leaf.token.text = word →
      Spells text follow fun tokens => spelt (leaf.token :: tokens)) :
    Spells (word ++ text) follow spelt := by
  intro here rest behind
  obtain ⟨tokens, holds, lexes⟩ :=
    others ⟨⟨kind, word, here⟩, List.mem_singleton.2 rfl⟩ rfl (here.afterAll word) rest behind
  refine ⟨_, holds, ?_⟩
  unfold Lexes at lexes ⊢
  cases word with
  | nil => exact absurd rfl nonempty
  | cons c word =>
      rw [List.append_assoc, scan_lexeme here (read rest behind), lexes, Position.after_all_append]
      cases scan 0 ((here.afterAll (c :: word)).afterAll text) rest <;> rfl

theorem mark {kind : TokenKind} {c : Char} (inside : (kind, c) ∈ marks) (notEquals : c ≠ '=')
    (others : ∀ leaf : Leaf [kind], Spells text follow fun tokens => spelt (leaf.token :: tokens)) :
    Spells (c :: text) follow spelt := by
  change Spells ([c] ++ text) follow spelt
  refine lexeme (List.cons_ne_nil c []) (fun rest _ => ?_) fun leaf _ => others leaf
  simp only [marks, List.mem_cons, Prod.mk.injEq, List.not_mem_nil, or_false] at inside
  rcases inside with ⟨rfl, rfl⟩ | ⟨rfl, rfl⟩ | ⟨rfl, rfl⟩ | ⟨rfl, rfl⟩ | ⟨rfl, rfl⟩ | ⟨rfl, rfl⟩ |
    ⟨rfl, rfl⟩ | ⟨rfl, rfl⟩ | ⟨rfl, rfl⟩ | ⟨rfl, rfl⟩ | ⟨rfl, rfl⟩ | ⟨rfl, rfl⟩ | ⟨rfl, rfl⟩
  all_goals first | rfl | exact absurd rfl notEquals

theorem equals (starts : startsName text = true)
    (others : ∀ leaf : Leaf [.equals], Spells text follow fun tokens => spelt (leaf.token :: tokens)) :
    Spells ('=' :: text) follow spelt := by
  change Spells (['='] ++ text) follow spelt
  refine lexeme (List.cons_ne_nil '=' []) (fun rest _ => ?_) fun leaf _ => others leaf
  cases text with
  | nil => cases starts
  | cons c text =>
      have noOperator : spelling? operators ('=' :: c :: (text ++ rest)) = none := by
        refine List.find?_eq_none.2 fun spelling inside begins => ?_
        -- An operator that starts with the sign goes on with another one, not with a name.
        have shapes : ∀ spelling ∈ operators, spelling.head? = some '=' → spelling = ['=', '='] := by
          decide
        have nonempty : ∀ spelling ∈ operators, spelling ≠ [] := by decide
        obtain ⟨more, split⟩ := List.isPrefixOf_iff_prefix.1 begins
        cases spelling with
        | nil => exact nonempty [] inside rfl
        | cons first spelling =>
            cases (List.cons.inj split).1
            rw [shapes _ inside rfl] at split
            cases (List.cons.inj (List.cons.inj split).2).1
            cases starts
      change lexeme? ('=' :: c :: (text ++ rest)) = _
      rw [lexeme_eq, noOperator]
      rfl

theorem word {kind : TokenKind} {word : Text} (starts : startsName word = true)
    (alone : lexeme? word = some (kind, word)) (apart : ∀ rest, follow rest → Boundary (text ++ rest))
    (others : ∀ leaf : Leaf [kind], leaf.token.text = word →
      Spells text follow fun tokens => spelt (leaf.token :: tokens)) :
    Spells (word ++ text) follow spelt := by
  refine lexeme ?_ (fun rest behind => ?_) others
  · rintro rfl
    cases starts
  · rw [lexeme_append starts (apart rest behind), alone]

theorem name {name : Text} (isName : IsName name) (apart : ∀ rest, follow rest → Boundary (text ++ rest))
    (others : ∀ leaf : Leaf [.identifier], leaf.token.text = name →
      Spells text follow fun tokens => spelt (leaf.token :: tokens)) :
    Spells (name ++ text) follow spelt :=
  word isName.starts isName.lexeme apart others

theorem number (n : Nat) (apart : ∀ rest, follow rest → Boundary (text ++ rest))
    (others : ∀ leaf : Leaf [.number], leaf.token.text = Text.ofNat n →
      Spells text follow fun tokens => spelt (leaf.token :: tokens)) :
    Spells (Text.ofNat n ++ text) follow spelt := by
  have starts : startsName (Text.ofNat n) = true := by
    cases digits : Text.ofNat n with
    | nil => exact absurd digits (Text.of_nat_ne_nil n)
    | cons c more =>
        exact digit_is_name_char (Text.of_nat_digit (by rw [digits]; exact List.mem_cons_self))
  refine word starts ?_ apart others
  rw [lexeme_of_name starts]
  simp only [numberLexeme?]
  rw [(Text.of_nat_takes n).1, (Text.of_nat_takes n).2]
  simp [Text.of_nat_ne_nil, startsName]

theorem regex {literal : Text} (isRegex : IsRegex literal)
    (others : ∀ leaf : Leaf [.regex], leaf.token.text = literal →
      Spells text follow fun tokens => spelt (leaf.token :: tokens)) :
    Spells (literal ++ text) follow spelt := by
  obtain ⟨body, rfl, -⟩ := isRegex.opened
  refine lexeme (List.cons_ne_nil '/' body) (fun rest _ => ?_) others
  rw [lexeme_eq, isRegex.again]
  rfl

theorem optional {kind : TokenKind} {c : Char} (inside : (kind, c) ∈ marks) (notEquals : c ≠ '=')
    (written : Bool)
    (others : ∀ leaf : Option (Leaf [kind]), leaf.isSome = written →
      Spells text follow fun tokens => spelt (optionalTokens leaf ++ tokens)) :
    Spells ((if written then [c] else []) ++ text) follow spelt := by
  cases written with
  | false => exact others none rfl
  | true => exact mark inside notEquals fun leaf => others (some leaf) rfl

theorem label (label : Leaf labelKinds) (lexed : label.token.Lexed)
    (apart : ∀ rest, follow rest → Boundary (text ++ rest))
    (others : ∀ leaf : Leaf labelKinds, leaf.token.kind = label.token.kind →
      leaf.token.text = label.token.text →
        Spells text follow fun tokens => spelt (leaf.token :: tokens)) :
    Spells (label.token.text ++ text) follow spelt := by
  obtain ⟨⟨kind, written, position⟩, isLabel⟩ := label
  obtain ⟨source, read⟩ := lexed
  have again : ∀ leaf : Leaf [kind], leaf.token.text = written →
      Spells text follow fun tokens => spelt (leaf.token :: tokens) := fun leaf same =>
    others ⟨leaf.token, by rw [leaf.kind_eq]; exact isLabel⟩ leaf.kind_eq same
  simp only [labelKinds, List.mem_cons, List.not_mem_nil, or_false] at isLabel
  rcases isLabel with rfl | rfl | rfl
  · exact name (lexeme_is_name read) apart again
  · exact regex (lexeme_read_by read).is_regex again
  · have blank : written = ['_', '_'] := (lexeme_read_by read).is_blank
    subst blank
    exact word rfl rfl apart again

theorem tokenized (spells : Spells text follow spelt) (alone : follow []) :
    ∃ body final, tokenize text = .ok (body ++ [final]) ∧ final.kind = .endOfInput ∧
      (∀ token ∈ body, token.kind ≠ .endOfInput) ∧ spelt body := by
  obtain ⟨tokens, holds, lexes⟩ := spells .start [] alone
  have lexed : tokenize text = .ok (tokens ++ [⟨.endOfInput, [], Position.start.afterAll text⟩]) := by
    unfold Lexes at lexes
    rw [List.append_nil] at lexes
    apply tokenize_eq_ok.2
    rw [lexes]
    rfl
  obtain ⟨body, final, same, -, inside⟩ := tokenize_lexed lexed
  obtain ⟨rfl, -⟩ := List.append_inj' same rfl
  exact ⟨_, _, lexed, rfl, fun token member => (inside token member).kind_ne_end, holds⟩

end Spells

end TreeQuery
