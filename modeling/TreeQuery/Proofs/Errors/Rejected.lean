import TreeQuery.Proofs.Errors.Located
import TreeQuery.Proofs.Pattern.Numbers
import TreeQuery.Proofs.Token.Form

/- Regexes that the checker refuses. The error has the place of the literal, and the regex it
   tells is cut out of the literal by taking all slashes off both ends. At the front that is
   the opening slash alone, but at the end a slash of the regex goes with the closing one. -/
set_option autoImplicit false

namespace TreeQuery

open Regex

namespace Regex

theorem drop_while_literal {pattern : Text} (nonempty : pattern ≠ []) :
    (literal pattern).dropWhile (· = '/') = escape pattern ++ ['/'] := by
  have opens : (escape pattern ++ ['/']).head? ≠ some '/' :=
    escape_opens fun none => absurd none nonempty
  rw [literal, List.dropWhile_cons_of_pos (by simp)]
  cases body : escape pattern ++ ['/'] with
  | nil => rfl
  | cons c rest =>
      rw [body] at opens
      exact List.dropWhile_cons_of_neg (by simpa using opens)

theorem strip_literal_plain {front : Text} {c : Char} (plain : c ≠ '/') :
    Text.strip (· = '/') (literal (front ++ [c])) = escape (front ++ [c]) := by
  have split : escape (front ++ [c]) ++ ['/'] = escape front ++ c :: ['/'] := by
    rw [escape_append, escape_plain plain, List.append_assoc]
    rfl
  rw [Text.strip, drop_while_literal (by simp), split,
    Text.drop_end_while_append (by simpa using plain) (by simp), escape_append,
    escape_plain plain]
  rfl

theorem strip_literal_slash (front : Text) :
    Text.strip (· = '/') (literal (front ++ ['/'])) = escape front ++ ['\\'] := by
  have split : escape (front ++ ['/']) ++ ['/'] = escape front ++ '\\' :: ['/', '/'] := by
    rw [escape_append, List.append_assoc]
    rfl
  rw [Text.strip, drop_while_literal (by simp), split,
    Text.drop_end_while_append (by decide) (by simp)]

-- What is left of a literal makes it up with a slash at either end, and one more slash behind
-- that if the regex itself ends in one.
theorem strip_literal {pattern : Text} (nonempty : pattern ≠ []) :
    literal pattern = '/' :: (Text.strip (· = '/') (literal pattern) ++ ['/']) ++
      if pattern.getLast? = some '/' then ['/'] else [] := by
  obtain ⟨front, c, rfl⟩ := (List.eq_nil_or_concat' pattern).resolve_left nonempty
  rw [List.getLast?_concat]
  by_cases slash : c = '/'
  · subst slash
    rw [strip_literal_slash, if_pos rfl, literal, escape_append]
    simp [escape]
  · rw [strip_literal_plain slash, if_neg (by simpa using slash), literal, List.append_nil]

structure QuotedAs (pattern reported : Text) : Prop where
  begins : '/' :: (reported ++ ['/']) <+: literal pattern
  whole : '/' :: (reported ++ ['/']) = literal pattern ↔ pattern.getLast? ≠ some '/'
  shortened : pattern.getLast? = some '/' → '/' :: (reported ++ ['/']) ++ ['/'] = literal pattern

theorem quoted_as_strip {pattern : Text} (nonempty : pattern ≠ []) :
    QuotedAs pattern (Text.strip (· = '/') (literal pattern)) := by
  have made := strip_literal nonempty
  refine ⟨⟨_, made.symm⟩, ⟨fun same last => ?_, fun plain => ?_⟩, fun last => ?_⟩
  · rw [if_pos last, same] at made
    exact List.cons_ne_nil _ _ (List.self_eq_append_right.1 made)
  · rw [if_neg plain, List.append_nil] at made
    exact made.symm
  · rw [if_pos last] at made
    exact made.symm

end Regex

theorem Grammar.descriptor_of_refused {checker : Regex.Checker} {token : Token}
    {pattern reported : Text} {cause : Regex.Error} {place : Position}
    (regex : token.kind = .regex) (written : token.text = literal pattern)
    (refused : descriptorOf checker token = .error (.invalidRegex reported cause place)) :
    checker pattern = .error cause ∧ reported = Text.strip (· = '/') (literal pattern) := by
  rw [descriptorOf, regex, written, of_literal_literal] at refused
  cases checked : checker pattern with
  | ok captures =>
      rw [checked] at refused
      cases refused
  | error found =>
      rw [checked] at refused
      cases refused
      exact ⟨rfl, rfl⟩

theorem TokenStream.of_tokens_subset (tokens : List Token) :
    (ofTokens tokens).upcoming ⊆ tokens := (List.takeWhile_prefix _).subset

namespace Pattern

variable {resolver : Resolver} {text reported : Text} {cause : Regex.Error} {place : Position}

theorem compile_regex_token
    (refused : compile resolver text = .error (.invalidRegex reported cause place)) :
    ∃ tokens token, tokenize (terminated text) = .ok tokens ∧ token ∈ tokens ∧
      token.kind = .regex ∧ token.position = place ∧ token.Lexed ∧
      (∃ front rest, text = front ++ (token.text ++ rest) ∧
        token.position = Position.start.afterAll front) ∧
      Grammar.descriptorOf resolver.checkRegex token =
        .error (.invalidRegex reported cause place) := by
  obtain ⟨stopped, lexical⟩ | ⟨tokens, tokenized, parses⟩ := compile_refused refused
  · cases lexical
  · obtain ⟨terminator, standing⟩ := tokenize_terminated tokenized
    obtain ⟨token, inside, here, regex, failed⟩ := parse_tokens_cites terminator parses
    obtain ⟨lexed, front, rest, rfl, reached, next⟩ := standing token inside
    have ⟨behind, within⟩ : token.text <+: rest :=
      next.resolve_right fun added => by simp [regex] at added
    subst within
    exact ⟨tokens, token, tokenized, TokenStream.of_tokens_subset tokens inside, regex, here, lexed,
      ⟨front, behind, rfl, reached⟩, failed⟩

/-- A regex is refused where its literal is a token, for what the checker finds in the regex. The
text goes on there with what is reported between two slashes. That is the whole literal if the
regex does not end in a slash, and only then: a slash at its end is not reported. -/
theorem compile_regex_rejected
    (refused : compile resolver text = .error (.invalidRegex reported cause place)) :
    ∃ pattern front rest tokens, text = front ++ (literal pattern ++ rest) ∧
      place = Position.start.afterAll front ∧ tokenize (terminated text) = .ok tokens ∧
      ⟨.regex, literal pattern, place⟩ ∈ tokens ∧ Writable pattern ∧
      resolver.checkRegex pattern = .error cause ∧ QuotedAs pattern reported := by
  obtain ⟨tokens, ⟨kind, word, position⟩, tokenized, inside, rfl, rfl, lexed,
    ⟨front, rest, split, reached⟩, failed⟩ := compile_regex_token refused
  obtain ⟨source, read⟩ := lexed.read_by rfl
  obtain ⟨pattern, writable, rfl⟩ := read.is_literal
  obtain ⟨checked, rfl⟩ := Grammar.descriptor_of_refused rfl rfl failed
  exact ⟨pattern, front, rest, tokens, split, reached, tokenized, inside, writable, checked,
    quoted_as_strip writable.nonempty⟩

theorem compile_regex_rejected_inner :
    ∃ cause, compile .standard "é < /\\/a(\\/b/".toList =
        .error (.invalidRegex "\\/a(\\/b".toList cause ⟨5, 1, 5⟩) ∧
      ∃ pattern front rest tokens,
        "é < /\\/a(\\/b/".toList = front ++ (literal pattern ++ rest) ∧
        ⟨5, 1, 5⟩ = Position.start.afterAll front ∧
        tokenize (terminated "é < /\\/a(\\/b/".toList) = .ok tokens ∧
        ⟨.regex, literal pattern, ⟨5, 1, 5⟩⟩ ∈ tokens ∧ Writable pattern ∧
        Resolver.standard.checkRegex pattern = .error cause ∧
        QuotedAs pattern "\\/a(\\/b".toList := by
  have evaluated : (compile .standard "é < /\\/a(\\/b/".toList).map Pattern.names =
      .error (.invalidRegex "\\/a(\\/b".toList ⟨"/a(/b".toList, .unclosedGroup, [⟨2, 3⟩]⟩
        ⟨5, 1, 5⟩) := by
    decide +kernel
  have refused := map_eq_error.1 evaluated
  exact ⟨_, refused, compile_regex_rejected refused⟩

-- The last slash of the literal is the closing one, and the regex ends in the slash before it.
theorem compile_regex_shortened :
    ∃ cause tokens, compile .standard "/(\\//".toList =
        .error (.invalidRegex "(\\".toList cause .start) ∧
      tokenize (terminated "/(\\//".toList) = .ok tokens ∧
      tokens.filter (·.kind = .regex) = [⟨.regex, "/(\\//".toList, .start⟩] ∧
      '/' :: ("(\\".toList ++ ['/']) ≠ "/(\\//".toList := by
  have evaluated : (compile .standard "/(\\//".toList).map Pattern.names =
      .error (.invalidRegex "(\\".toList ⟨"(/".toList, .unclosedGroup, [⟨0, 1⟩]⟩ .start) := by
    decide +kernel
  have tokenized : tokenize (terminated "/(\\//".toList) =
      .ok [⟨.regex, "/(\\//".toList, .start⟩, ⟨.semicolon, [';'], ⟨5, 1, 6⟩⟩,
        ⟨.endOfInput, [], ⟨6, 1, 7⟩⟩] := by
    decide +kernel
  exact ⟨_, _, map_eq_error.1 evaluated, tokenized, by decide, by decide⟩

end Pattern

end TreeQuery
