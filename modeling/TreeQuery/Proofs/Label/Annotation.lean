import Mathlib.Data.List.Basic
import Mathlib.Data.List.TakeWhile
import TreeQuery.Label.BasicCategory

/- What is left of a label when its annotations are cut. The cut is made in one pass that remembers
   the mark the label opened with. It is stable: what is left has no more to cut, and nothing behind
   the place of the cut is looked at. The convention speaks of the two ends of the label instead,
   and the labels on which the pass departs from it are told here one and all. -/
set_option autoImplicit false

namespace TreeQuery.BasicCategory

def isPlain (c : Char) : Bool := !annotationMarks.contains c

theorem not_plain {mark : Char} : isPlain mark = false ↔ mark ∈ annotationMarks := by
  simp [isPlain]

section Pass

variable {c : Char} {opened : Option Char}

theorem until_annotation_plain (plain : isPlain c = true) (rest : Text) :
    untilAnnotation opened (c :: rest) = c :: untilAnnotation opened rest := by
  have noMark : ¬ annotationMarks.contains c = true := by simpa [isPlain] using plain
  exact if_neg noMark

theorem until_annotation_closed (mark : c ∈ annotationMarks) (rest : Text) :
    untilAnnotation (some c) (c :: rest) = c :: untilAnnotation none rest :=
  (if_pos (List.contains_iff_mem.2 mark)).trans (if_pos rfl)

theorem until_annotation_cut (mark : c ∈ annotationMarks) (apart : opened ≠ some c) (rest : Text) :
    untilAnnotation opened (c :: rest) = [] :=
  (if_pos (List.contains_iff_mem.2 mark)).trans (if_neg apart)

theorem pass_cases (c : Char) (opened : Option Char) :
    isPlain c = true ∨ (c ∈ annotationMarks ∧ opened = some c) ∨
      (c ∈ annotationMarks ∧ opened ≠ some c) := by
  cases plain : isPlain c with
  | true => exact .inl rfl
  | false =>
      have isMark := not_plain.1 plain
      by_cases closing : opened = some c
      · exact .inr (.inl ⟨isMark, closing⟩)
      · exact .inr (.inr ⟨isMark, closing⟩)

end Pass

section Stable

theorem until_annotation_front (opened : Option Char) (text : Text) :
    untilAnnotation opened text <+: text := by
  induction text generalizing opened with
  | nil => exact List.prefix_rfl
  | cons c rest ih =>
      obtain plain | ⟨mark, rfl⟩ | ⟨mark, apart⟩ := pass_cases c opened
      · rw [until_annotation_plain plain]
        exact (List.prefix_cons_inj c).2 (ih opened)
      · rw [until_annotation_closed mark]
        exact (List.prefix_cons_inj c).2 (ih none)
      · rw [until_annotation_cut mark apart]
        exact List.nil_prefix

-- Over what it has kept the pass goes in the same steps.
theorem until_annotation_again {opened : Option Char} {text kept : Text}
    (passed : untilAnnotation opened text = kept) : untilAnnotation opened kept = kept := by
  induction text generalizing opened kept with
  | nil =>
      subst passed
      rfl
  | cons c rest ih =>
      obtain plain | ⟨mark, rfl⟩ | ⟨mark, apart⟩ := pass_cases c opened
      · rw [until_annotation_plain plain] at passed
        subst passed
        rw [until_annotation_plain plain, ih rfl]
      · rw [until_annotation_closed mark] at passed
        subst passed
        rw [until_annotation_closed mark, ih rfl]
      · rw [until_annotation_cut mark apart] at passed
        subst passed
        rfl

theorem until_annotation_append {opened : Option Char} {text : Text}
    (cut : untilAnnotation opened text ≠ text) (more : Text) :
    untilAnnotation opened (text ++ more) = untilAnnotation opened text := by
  induction text generalizing opened with
  | nil => exact absurd rfl cut
  | cons c rest ih =>
      rw [List.cons_append]
      obtain plain | ⟨mark, rfl⟩ | ⟨mark, apart⟩ := pass_cases c opened
      · rw [until_annotation_plain plain] at cut ⊢
        rw [until_annotation_plain plain, ih fun same => cut (congrArg (c :: ·) same)]
      · rw [until_annotation_closed mark] at cut ⊢
        rw [until_annotation_closed mark, ih fun same => cut (congrArg (c :: ·) same)]
      · rw [until_annotation_cut mark apart, until_annotation_cut mark apart]

end Stable

/-- The basic category of a label is the front of it, and never empty unless the label is. It is its
own basic category, and once something has been cut, whatever else the label goes on with is cut
too. -/
theorem penn_treebank_stable (label : Text) :
    pennTreebank.apply label <+: label ∧
      (label ≠ [] → pennTreebank.apply label ≠ []) ∧
      pennTreebank.apply (pennTreebank.apply label) = pennTreebank.apply label ∧
      ((pennTreebank.apply label).length < label.length → ∀ more,
        pennTreebank.apply (label ++ more) = pennTreebank.apply label) := by
  change cutAnnotations label <+: label ∧ (label ≠ [] → cutAnnotations label ≠ []) ∧
    cutAnnotations (cutAnnotations label) = cutAnnotations label ∧
      ((cutAnnotations label).length < label.length → ∀ more,
        cutAnnotations (label ++ more) = cutAnnotations label)
  cases label with
  | nil => exact ⟨List.prefix_rfl, id, rfl, fun shorter => absurd shorter (Nat.lt_irrefl 0)⟩
  | cons c rest =>
      refine ⟨?_, fun _ => List.cons_ne_nil _ _, ?_, fun shorter more => ?_⟩
      · exact (List.prefix_cons_inj c).2 (until_annotation_front _ rest)
      · exact congrArg (c :: ·) (until_annotation_again rfl)
      · refine congrArg (c :: ·) (until_annotation_append (fun whole => ?_) more)
        have same : cutAnnotations (c :: rest) = c :: rest := congrArg (c :: ·) whole
        rw [same] at shorter
        exact Nat.lt_irrefl _ shorter

theorem penn_treebank_stable_closed :
    let label := "-É→--SBJ=2".toList
    pennTreebank.apply label = "-É→-".toList ∧ pennTreebank.apply label <+: label ∧
      label ≠ [] ∧ pennTreebank.apply label ≠ [] ∧
      pennTreebank.apply (pennTreebank.apply label) = pennTreebank.apply label ∧
      (pennTreebank.apply label).length < label.length ∧
      pennTreebank.apply (label ++ "-É".toList) = "-É→-".toList := by
  intro label
  have kept : pennTreebank.apply label = "-É→-".toList := by decide
  have wide : label ≠ [] := by decide
  have shorter : (pennTreebank.apply label).length < label.length := by decide
  obtain ⟨front, nonempty, again, append⟩ := penn_treebank_stable label
  exact ⟨kept, front, wide, nonempty wide, again, shorter, (append shorter _).trans kept⟩

def betweenMarks : Text → Bool
  | [] => false
  | c :: rest => annotationMarks.contains c && rest.getLast? == some c

def upToMark : Text → Text
  | [] => []
  | c :: rest => c :: rest.takeWhile isPlain

/-- The convention on labels, by their two ends: a label between two marks is whole, and in any
other an annotation stands behind the first mark that is not at the front. -/
def conventional (label : Text) : Text := if betweenMarks label then label else upToMark label

theorem first_mark (text : Text) : (∀ c ∈ text, isPlain c = true) ∨ ∃ word mark rest,
    text = word ++ mark :: rest ∧ (∀ c ∈ word, isPlain c = true) ∧ mark ∈ annotationMarks := by
  have split := List.takeWhile_append_dropWhile (p := isPlain) (l := text)
  have ends := List.head?_dropWhile_not isPlain text
  cases behind : text.dropWhile isPlain with
  | nil => exact .inl (List.dropWhile_eq_nil_iff.1 behind)
  | cons mark rest =>
      rw [behind] at split ends
      exact .inr ⟨_, mark, rest, split.symm, fun c inside => List.mem_takeWhile_imp inside,
        not_plain.1 ends⟩

section Word

variable {word : Text} (plain : ∀ c ∈ word, isPlain c = true)

include plain

theorem until_annotation_word (opened : Option Char) (rest : Text) :
    untilAnnotation opened (word ++ rest) = word ++ untilAnnotation opened rest := by
  induction word with
  | nil => rfl
  | cons c word ih =>
      obtain ⟨here, later⟩ := List.forall_mem_cons.1 plain
      rw [List.cons_append, until_annotation_plain here, ih later, List.cons_append]

theorem up_to_mark_word {mark : Char} (isMark : mark ∈ annotationMarks) (c : Char) (rest : Text) :
    upToMark (c :: (word ++ mark :: rest)) = c :: word := by
  have stops : ¬ isPlain mark = true := by simp [not_plain.2 isMark]
  rw [upToMark, List.takeWhile_append_of_pos plain, List.takeWhile_cons_of_neg stops,
    List.append_nil]

end Word

theorem until_annotation_none (text : Text) :
    untilAnnotation none text = text.takeWhile isPlain := by
  obtain plain | ⟨word, mark, rest, rfl, plain, isMark⟩ := first_mark text
  · have whole := until_annotation_word plain none []
    rw [List.append_nil] at whole
    rw [whole, List.takeWhile_eq_self_iff.2 plain]
    exact List.append_nil text
  · have stops : ¬ isPlain mark = true := by simp [not_plain.2 isMark]
    rw [until_annotation_word plain, until_annotation_cut isMark (Option.some_ne_none mark).symm,
      List.takeWhile_append_of_pos plain, List.takeWhile_cons_of_neg stops]

theorem cut_annotations_plain {c : Char} (plain : isPlain c = true) (rest : Text) :
    cutAnnotations (c :: rest) = upToMark (c :: rest) := by
  have noMark : ¬ annotationMarks.contains c = true := by simpa [isPlain] using plain
  rw [cutAnnotations, if_neg noMark, until_annotation_none, upToMark]

section Opened

variable {mark other : Char} {word : Text} (isMark : mark ∈ annotationMarks)
  (plain : ∀ c ∈ word, isPlain c = true)

include isMark plain

theorem cut_annotations_word (rest : Text) : cutAnnotations (mark :: (word ++ rest)) =
    mark :: (word ++ untilAnnotation (some mark) rest) := by
  rw [cutAnnotations, if_pos (List.contains_iff_mem.2 isMark), until_annotation_word plain]

theorem cut_annotations_alone : cutAnnotations (mark :: word) = mark :: word := by
  have whole := cut_annotations_word isMark plain []
  rw [List.append_nil] at whole
  exact whole.trans (congrArg (mark :: ·) (List.append_nil word))

theorem cut_annotations_closed (rest : Text) : cutAnnotations (mark :: (word ++ mark :: rest)) =
    mark :: (word ++ mark :: rest.takeWhile isPlain) := by
  rw [cut_annotations_word isMark plain, until_annotation_closed isMark, until_annotation_none]

theorem cut_annotations_interrupted (isMarkToo : other ∈ annotationMarks) (apart : other ≠ mark)
    (rest : Text) : cutAnnotations (mark :: (word ++ other :: rest)) = mark :: word := by
  have unclosed : some mark ≠ some other := fun same => apart (Option.some.inj same).symm
  rw [cut_annotations_word isMark plain, until_annotation_cut isMarkToo unclosed, List.append_nil]

end Opened

inductive Kept : Text → Text → Prop where
  | empty : Kept [] []
  | unopened {c : Char} {rest : Text} (plain : isPlain c = true) :
      Kept (c :: rest) (upToMark (c :: rest))
  | alone {mark : Char} {word : Text} (isMark : mark ∈ annotationMarks)
      (plain : ∀ c ∈ word, isPlain c = true) : Kept (mark :: word) (mark :: word)
  | closed {mark : Char} {word rest : Text} (isMark : mark ∈ annotationMarks)
      (plain : ∀ c ∈ word, isPlain c = true) :
      Kept (mark :: (word ++ mark :: rest)) (mark :: (word ++ mark :: rest.takeWhile isPlain))
  | interrupted {mark other : Char} {word rest : Text} (isMark : mark ∈ annotationMarks)
      (isMarkToo : other ∈ annotationMarks) (apart : other ≠ mark)
      (plain : ∀ c ∈ word, isPlain c = true) :
      Kept (mark :: (word ++ other :: rest)) (mark :: word)

theorem cut_annotations_kept (label : Text) : Kept label (cutAnnotations label) := by
  cases label with
  | nil => exact .empty
  | cons c rest =>
      cases front : isPlain c with
      | true =>
          rw [cut_annotations_plain front]
          exact .unopened front
      | false =>
          have isMark := not_plain.1 front
          obtain plain | ⟨word, other, rest, rfl, plain, isMarkToo⟩ := first_mark rest
          · rw [cut_annotations_alone isMark plain]
            exact .alone isMark plain
          · by_cases same : other = c
            · subst same
              rw [cut_annotations_closed isMark plain]
              exact .closed isMark plain
            · rw [cut_annotations_interrupted isMark plain isMarkToo same]
              exact .interrupted isMark isMarkToo same plain

-- The labels in which the mark at the front comes again before the end, and those between two marks
-- with another mark in front of the second.
inductive Departs : Text → Prop where
  | recurring {mark : Char} {word rest : Text} (isMark : mark ∈ annotationMarks)
      (plain : ∀ c ∈ word, isPlain c = true) (further : rest ≠ []) :
      Departs (mark :: (word ++ mark :: rest))
  | interrupted {mark other : Char} {word rest : Text} (isMark : mark ∈ annotationMarks)
      (isMarkToo : other ∈ annotationMarks) (apart : other ≠ mark)
      (plain : ∀ c ∈ word, isPlain c = true) : Departs (mark :: (word ++ other :: (rest ++ [mark])))

theorem between_marks_iff {c : Char} {rest : Text} : betweenMarks (c :: rest) = true ↔
    c ∈ annotationMarks ∧ rest.getLast? = some c := by
  simp [betweenMarks]

theorem conventional_between {label : Text} (between : betweenMarks label = true) :
    conventional label = label := if_pos between

theorem conventional_open {label : Text} (between : betweenMarks label ≠ true) :
    conventional label = upToMark label := if_neg between

theorem Departs.unconventional {label : Text} (departs : Departs label) :
    cutAnnotations label ≠ conventional label := by
  cases departs with
  | @recurring mark word rest isMark plain further =>
      rw [cut_annotations_closed isMark plain]
      intro same
      by_cases between : betweenMarks (mark :: (word ++ mark :: rest)) = true
      · rw [conventional_between between] at same
        have whole : rest.takeWhile isPlain = rest := by simpa using same
        have last : rest.getLast? = some mark := by
          have ends := (between_marks_iff.1 between).2
          rwa [List.getLast?_append_cons, List.getLast?_cons_of_ne_nil further] at ends
        have plainMark := List.takeWhile_eq_self_iff.1 whole mark (List.mem_of_getLast? last)
        rw [not_plain.2 isMark] at plainMark
        cases plainMark
      · rw [conventional_open between, up_to_mark_word plain isMark] at same
        simp at same
  | @interrupted mark other word rest isMark isMarkToo apart plain =>
      have between : betweenMarks (mark :: (word ++ other :: (rest ++ [mark]))) = true := by
        rw [between_marks_iff, ← List.cons_append, ← List.append_assoc, List.getLast?_concat]
        exact ⟨isMark, rfl⟩
      rw [cut_annotations_interrupted isMark plain isMarkToo apart, conventional_between between]
      simp

theorem Kept.conventional_eq {label kept : Text} (is : Kept label kept) (within : ¬ Departs label) :
    kept = conventional label := by
  cases is with
  | empty => rfl
  | @unopened c rest plain =>
      refine (conventional_open fun between => ?_).symm
      have isMark := (between_marks_iff.1 between).1
      rw [← not_plain, plain] at isMark
      cases isMark
  | @alone mark word isMark plain =>
      rw [conventional_open, upToMark, List.takeWhile_eq_self_iff.2 plain]
      intro between
      have plainMark := plain mark (List.mem_of_getLast? (between_marks_iff.1 between).2)
      rw [not_plain.2 isMark] at plainMark
      cases plainMark
  | @closed mark word rest isMark plain =>
      have ends : rest = [] := by
        by_contra further
        exact within (.recurring isMark plain further)
      subst ends
      have between : betweenMarks (mark :: (word ++ [mark])) = true := by
        rw [between_marks_iff, List.getLast?_concat]
        exact ⟨isMark, rfl⟩
      exact (conventional_between between).symm
  | @interrupted mark other word rest isMark isMarkToo apart plain =>
      rw [conventional_open, up_to_mark_word plain isMarkToo]
      intro between
      have last := (between_marks_iff.1 between).2
      rw [List.getLast?_append_cons] at last
      obtain rfl | ⟨inner, final, rfl⟩ := List.eq_nil_or_concat' rest
      · exact apart (Option.some.inj last)
      · rw [← List.cons_append, List.getLast?_concat] at last
        cases last
        exact within (.interrupted isMark isMarkToo apart plain)

/-- What is left of a label is told by the mark at its front and the next one behind it. It is what
the convention has unless that next mark is the same one again before the end of the label, or
another one in a label between two marks. -/
theorem penn_treebank_conventional (label : Text) :
    Kept label (pennTreebank.apply label) ∧
      (pennTreebank.apply label = conventional label ↔ ¬ Departs label) :=
  ⟨cut_annotations_kept label, fun same departs => departs.unconventional same,
    (cut_annotations_kept label).conventional_eq⟩

theorem penn_treebank_departs :
    betweenMarks "-A-B-".toList = true ∧ conventional "-A-B-".toList = "-A-B-".toList ∧
      pennTreebank.apply "-A-B-".toList = "-A-B".toList ∧
      betweenMarks "-NP-SBJ".toList = false ∧ conventional "-NP-SBJ".toList = "-NP".toList ∧
      pennTreebank.apply "-NP-SBJ".toList = "-NP-SBJ".toList := by
  decide

end TreeQuery.BasicCategory
