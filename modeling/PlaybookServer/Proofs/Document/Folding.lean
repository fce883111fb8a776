/-
Module: PlaybookServer.Proofs.Document.Folding
Purpose: Folding in flow scalars and in block scalars. Both make a space of a single line break. Of the breaks around
  empty lines, a flow scalar keeps one for each empty line, and a block scalar all, the break in front of them as well.
  So the two agree on a text exactly if it has no empty lines.
Main exports: jointed, emptyLines, flowJoint, blockJoint, Unpadded, foldLines_jointed, blockValue_jointed,
  foldings_agree_iff_no_empty_lines
-/
import PlaybookServer.Proofs.Document.BlockScalar

namespace PlaybookServer.Scalar

open Text

/-! ### Lines with empty lines between them -/

/-- Lines with the number of empty lines in front of each, put one after the other: what stands for the empty lines in
    front of a line joins it to the line before. The number in front of the first line does not count. -/
def jointed (joint : Nat → List Char) : List (Nat × List Char) → List Char
  | [] => []
  | (_, first) :: rest => first ++ rest.flatMap fun (gap, line) => joint gap ++ line

/-- Empty lines as they are written, after the break of the line before. -/
def emptyLines (gap : Nat) : List Char := List.replicate (gap + 1) '\n'

/-- What a flow scalar joins lines by. -/
def flowJoint (gap : Nat) : List Char := if gap = 0 then [' '] else List.replicate gap '\n'

/-- What a folded block scalar joins lines by. -/
def blockJoint (gap : Nat) : List Char := if gap = 0 then [' '] else List.replicate (gap + 1) '\n'

/-- A line of text without whitespace at its ends. -/
structure Unpadded (line : List Char) : Prop where
  nonempty : line ≠ []
  noFeed : '\n' ∉ line
  first : ∀ c ∈ line.head?, isBlank c = false
  last : ∀ c ∈ line.getLast?, isBlank c = false

section Unpadded

variable {line : List Char}

/-- The ends of a line decide whether there is whitespace at them. -/
theorem unpadded_of_ends {a b : Char} (noFeed : '\n' ∉ line) (first : line.head? = some a)
    (textFirst : isBlank a = false) (last : line.getLast? = some b) (textLast : isBlank b = false) : Unpadded line where
  nonempty := by
    rintro rfl
    cases first
  noFeed := noFeed
  first := by
    rw [first]
    rintro c ⟨⟩
    exact textFirst
  last := by
    rw [last]
    rintro c ⟨⟩
    exact textLast

theorem Unpadded.isBlankLine_eq (unpadded : Unpadded line) : isBlankLine line = false := by
  obtain ⟨c, more, rfl⟩ := List.exists_cons_of_ne_nil unpadded.nonempty
  exact isBlankLine_eq_false_iff.2 ⟨c, List.mem_cons_self, unpadded.first c rfl⟩

theorem Unpadded.withoutReturn (unpadded : Unpadded line) : dropEndWhile (· = '\r') line = line := by
  refine dropEndWhile_eq_self_iff.2 fun c hc => decide_eq_false ?_
  rintro rfl
  cases unpadded.last '\r' hc

theorem Unpadded.trim_eq (unpadded : Unpadded line) : trim line = line := trim_eq_self unpadded.first unpadded.last

theorem Unpadded.trimEnd_eq (unpadded : Unpadded line) : trimEnd line = line :=
  dropEndWhile_eq_self_iff.2 unpadded.last

end Unpadded

/-- The lines of a text, the empty ones among them. -/
def gapLines (rest : List (Nat × List Char)) : List (List Char) :=
  rest.flatMap fun (gap, line) => List.replicate gap [] ++ [line]

theorem gapLines_cons (gap : Nat) (line : List Char) (rest : List (Nat × List Char)) :
    gapLines ((gap, line) :: rest) = List.replicate gap [] ++ line :: gapLines rest := by
  simp [gapLines]

variable {first : List Char} {rest : List (Nat × List Char)}

theorem forall_mem_gapLines {p : List Char → Prop} (empty : p []) (text : ∀ l ∈ rest, p l.2) :
    ∀ line ∈ gapLines rest, p line := by
  intro line hline
  obtain ⟨⟨gap, line'⟩, among, hline⟩ := List.mem_flatMap.1 hline
  rcases List.mem_append.1 hline with hempty | hline
  · rwa [List.eq_of_mem_replicate hempty]
  · rw [List.mem_singleton.1 hline]
    exact text _ among

theorem splitOn_jointed (gap : Nat) (noFeed : '\n' ∉ first) (noFeeds : ∀ l ∈ rest, '\n' ∉ l.2) :
    splitOn '\n' (jointed emptyLines ((gap, first) :: rest)) = first :: gapLines rest := by
  rw [jointed]
  induction rest generalizing first with
  | nil => rw [List.flatMap_nil, List.append_nil, splitOn_of_notMem noFeed]; rfl
  | cons l rest ih =>
      obtain ⟨gap, line⟩ := l
      have more : emptyLines gap ++ line ++ rest.flatMap (fun (gap, line) => emptyLines gap ++ line) =
          '\n' :: closeLines (List.replicate gap [])
            (line ++ rest.flatMap fun (gap, line) => emptyLines gap ++ line) := by
        rw [emptyLines, closeLines_replicate, List.replicate_succ, List.cons_append, List.cons_append,
          List.append_assoc]
      have empty : ∀ l ∈ List.replicate gap ([] : List Char), '\n' ∉ l := by
        intro l hl
        rw [List.eq_of_mem_replicate hl]
        exact List.not_mem_nil
      rw [List.flatMap_cons, more, splitOn_append, splitOn_of_notMem noFeed, splitOn_closeLines empty,
        ih (noFeeds _ List.mem_cons_self) fun l hl => noFeeds l (List.mem_cons_of_mem _ hl), gapLines_cons]
      rfl

/-! ### Flow scalars -/

theorem foldRest_empty (blanks gap : Nat) (more : List (List Char)) :
    foldRest blanks (List.replicate gap [] ++ more) = foldRest (blanks + gap) more := by
  induction gap generalizing blanks with
  | zero => rfl
  | succ gap ih =>
      have empty : foldRest blanks ([] :: (List.replicate gap [] ++ more)) =
          foldRest (blanks + 1) (List.replicate gap [] ++ more) := rfl
      rw [List.replicate_succ, List.cons_append, empty, ih, Nat.add_assoc, Nat.add_comm 1]

theorem foldRest_text (blanks : Nat) {line : List Char} (unpadded : Unpadded line) (more : List (List Char)) :
    foldRest blanks (line :: more) = flowJoint blanks ++ line ++ foldRest 0 more := by
  rw [foldRest, unpadded.withoutReturn, unpadded.trim_eq, List.isEmpty_eq_false_iff.2 unpadded.nonempty]
  rfl

theorem foldRest_gapLines (unpadded : ∀ l ∈ rest, Unpadded l.2) :
    foldRest 0 (gapLines rest) = rest.flatMap fun (gap, line) => flowJoint gap ++ line := by
  induction rest with
  | nil => rfl
  | cons l rest ih =>
      obtain ⟨gap, line⟩ := l
      rw [gapLines_cons, foldRest_empty, foldRest_text _ (unpadded _ List.mem_cons_self),
        ih fun l hl => unpadded l (List.mem_cons_of_mem _ hl), Nat.zero_add, List.flatMap_cons]

theorem foldLines_jointed {lines : List (Nat × List Char)} (unpadded : ∀ l ∈ lines, Unpadded l.2) :
    foldLines (jointed emptyLines lines) = jointed flowJoint lines := by
  cases lines with
  | nil => rfl
  | cons l rest =>
      obtain ⟨gap, first⟩ := l
      obtain ⟨hfirst, hrest⟩ := List.forall_mem_cons.1 unpadded
      have split := splitOn_jointed gap hfirst.noFeed fun l hl => (hrest l hl).noFeed
      cases rest with
      | nil => rw [foldLines, split]; rfl
      | cons l rest =>
          have several : gapLines (l :: rest) ≠ [] := by
            rw [gapLines_cons]
            exact List.append_ne_nil_of_right_ne_nil _ (List.cons_ne_nil _ _)
          rw [foldLines, split]
          split
          next heq => cases heq
          next heq => exact absurd (List.cons.inj heq).2 several
          next heq =>
              obtain ⟨rfl, rfl⟩ := List.cons.inj heq
              rw [hfirst.withoutReturn, hfirst.trimEnd_eq, foldRest_gapLines hrest, jointed]

/-! ### Block scalars -/

theorem joinBlock_empty (afterText : Bool) (more : List (List Char)) :
    joinBlock true afterText ([] :: more) = '\n' :: joinBlock true false more := by
  simp [joinBlock]

theorem joinBlock_text (afterText : Bool) {line : List Char} (unpadded : Unpadded line) (more : List (List Char)) :
    joinBlock true afterText (line :: more) =
      (if afterText then ' ' else '\n') :: (line ++ joinBlock true true more) := by
  obtain ⟨c, cs, rfl⟩ := List.exists_cons_of_ne_nil unpadded.nonempty
  have text : isBlank c = false := unpadded.first c rfl
  have noSpace : c ≠ ' ' := by rintro rfl; cases text
  have noTab : c ≠ '\t' := by rintro rfl; cases text
  cases afterText <;> simp [joinBlock, noSpace, noTab]

theorem joinBlock_gap (gap : Nat) {line : List Char} (unpadded : Unpadded line) (more : List (List Char)) :
    joinBlock true true (List.replicate gap [] ++ line :: more) =
      blockJoint gap ++ line ++ joinBlock true true more := by
  have afterEmpty (gap : Nat) : joinBlock true false (List.replicate gap [] ++ line :: more) =
      List.replicate (gap + 1) '\n' ++ line ++ joinBlock true true more := by
    induction gap with
    | zero => simp [joinBlock_text false unpadded]
    | succ gap ih =>
        rw [List.replicate_succ, List.cons_append, joinBlock_empty, ih]
        rfl
  cases gap with
  | zero => simp [joinBlock_text true unpadded, blockJoint]
  | succ gap =>
      rw [List.replicate_succ, List.cons_append, joinBlock_empty, afterEmpty, blockJoint, if_neg (Nat.succ_ne_zero gap)]
      rfl

theorem joinBlock_gapLines (unpadded : ∀ l ∈ rest, Unpadded l.2) :
    joinBlock true true (gapLines rest) = rest.flatMap fun (gap, line) => blockJoint gap ++ line := by
  induction rest with
  | nil => rfl
  | cons l rest ih =>
      obtain ⟨gap, line⟩ := l
      rw [gapLines_cons, joinBlock_gap gap (unpadded _ List.mem_cons_self),
        ih fun l hl => unpadded l (List.mem_cons_of_mem _ hl), List.flatMap_cons]

theorem unindent_zero {line : List Char} (text : line = [] ∨ Unpadded line) : unindent 0 line = line := by
  have whole := @unindent_indented 0 line
  rw [indented, List.replicate_zero, List.nil_append] at whole
  rcases text with rfl | unpadded
  · rfl
  · rw [if_neg unpadded.nonempty] at whole
    exact whole (.inr (isBlankLine_eq_false_iff.1 unpadded.isBlankLine_eq))

section BlockLines

variable (hfirst : Unpadded first) (hrest : ∀ l ∈ rest, Unpadded l.2)

include hfirst

/-- The indentation is found on the first line, which has none. -/
theorem indentation_of_unpadded (more : List (List Char)) : indentation none (first :: more) = 0 := by
  obtain ⟨c, cs, rfl⟩ := List.exists_cons_of_ne_nil hfirst.nonempty
  have noSpace : c ≠ ' ' := by
    rintro rfl
    cases hfirst.first ' ' rfl
  simp [indentation, hfirst.isBlankLine_eq, indentOf, noSpace]

include hrest

theorem empty_or_unpadded : ∀ line ∈ first :: gapLines rest, line = [] ∨ Unpadded line :=
  List.forall_mem_cons.2 ⟨.inr hfirst, forall_mem_gapLines (.inl rfl) fun l hl => .inr (hrest l hl)⟩

theorem bodyLines_jointed (gap : Nat) :
    bodyLines (jointed emptyLines ((gap, first) :: rest)) = first :: gapLines rest := by
  rw [bodyLines, splitOn_jointed gap hfirst.noFeed fun l hl => (hrest l hl).noFeed]
  refine (List.map_congr_left fun line hline => ?_).trans (List.map_id _)
  rcases empty_or_unpadded hfirst hrest line hline with rfl | unpadded
  · rfl
  · exact unpadded.withoutReturn

/-- The last line is one of text. -/
theorem exists_last_unpadded : ∃ last, (first :: gapLines rest).getLast? = some last ∧ Unpadded last := by
  rcases List.eq_nil_or_concat rest with rfl | ⟨init, l, rfl⟩
  · exact ⟨first, rfl, hfirst⟩
  · refine ⟨l.2, ?_, hrest l (by simp)⟩
    simp [gapLines, List.getLast?_cons]

end BlockLines

theorem blockValue_jointed {lines : List (Nat × List Char)} (unpadded : ∀ l ∈ lines, Unpadded l.2) :
    blockValue (jointed emptyLines lines) true .strip none 0 = jointed blockJoint lines := by
  cases lines with
  | nil => rfl
  | cons l rest =>
      obtain ⟨gap, first⟩ := l
      obtain ⟨hfirst, hrest⟩ := List.forall_mem_cons.1 unpadded
      have lines := bodyLines_jointed hfirst hrest gap
      obtain ⟨last, ends, hlast⟩ := exists_last_unpadded hfirst hrest
      have kept : (first :: gapLines rest).map (unindent 0) = first :: gapLines rest :=
        (List.map_congr_left fun line hline => unindent_zero (empty_or_unpadded hfirst hrest line hline)).trans
          (List.map_id _)
      rw [← lines] at ends
      rw [blockValue_eq ends hlast.isBlankLine_eq, lines, indentation_of_unpadded hfirst, kept, joinLines,
        List.isEmpty_eq_false_iff.2 hfirst.nonempty, Bool.not_false, joinBlock_gapLines hrest, jointed]
      exact List.append_nil _

/-! ### Where they agree -/

/-- With a character more for each gap, the text is longer by the number of gaps. -/
theorem length_jointed_blockJoint (lines : List (Nat × List Char)) : (jointed blockJoint lines).length =
    (jointed flowJoint lines).length + lines.tail.countP fun l => l.1 ≠ 0 := by
  have joint (gap : Nat) : (blockJoint gap).length = (flowJoint gap).length + if gap ≠ 0 then 1 else 0 := by
    unfold blockJoint flowJoint
    by_cases hgap : gap = 0 <;> simp [hgap]
  cases lines with
  | nil => rfl
  | cons l rest =>
      rw [List.tail_cons]
      induction rest with
      | nil => rfl
      | cons l rest ih =>
          have more := joint l.1
          simp only [jointed, List.flatMap_cons, List.length_append, List.countP_cons, decide_eq_true_eq] at ih ⊢
          omega

/-- Both make a space of a single break; around empty lines, a flow scalar keeps as many line feeds as there are empty
    lines, and a block scalar one more. So they agree exactly on texts without empty lines. -/
theorem foldings_agree_iff_no_empty_lines (lines : List (Nat × List Char)) (unpadded : ∀ l ∈ lines, Unpadded l.2) :
    foldLines (jointed emptyLines lines) = jointed flowJoint lines ∧
    blockValue (jointed emptyLines lines) true .strip none 0 = jointed blockJoint lines ∧
    (blockValue (jointed emptyLines lines) true .strip none 0 = foldLines (jointed emptyLines lines) ↔
      ∀ l ∈ lines.tail, l.1 = 0) := by
  refine ⟨foldLines_jointed unpadded, blockValue_jointed unpadded, ?_⟩
  rw [foldLines_jointed unpadded, blockValue_jointed unpadded]
  constructor
  · intro same
    have lengths := length_jointed_blockJoint lines
    rw [same, Nat.left_eq_add, List.countP_eq_zero] at lengths
    simpa using lengths
  · intro single
    cases lines with
    | nil => rfl
    | cons l rest =>
        refine congrArg (l.2 ++ ·) (List.flatMap_congr fun l' hl' => ?_)
        simp only [blockJoint, flowJoint, single l' hl', if_true]

/-- Words on three lines, the last one behind an empty line. -/
theorem paragraphs_fold_apart : (∀ l ∈ [(0, "one".toList), (0, "two".toList), (1, "été".toList)], Unpadded l.2) ∧
    foldLines "one\ntwo\n\nété".toList = "one two\nété".toList ∧
    blockValue "one\ntwo\n\nété".toList true .strip none 0 = "one two\n\nété".toList := by
  have unpadded : ∀ l ∈ [(0, "one".toList), (0, "two".toList), (1, "été".toList)], Unpadded l.2 := by
    simp only [List.forall_mem_cons]
    exact ⟨unpadded_of_ends (by decide) rfl rfl rfl rfl, unpadded_of_ends (by decide) rfl rfl rfl rfl,
      unpadded_of_ends (by decide) rfl rfl rfl rfl, List.forall_mem_nil _⟩
  have fold := foldings_agree_iff_no_empty_lines _ unpadded
  exact ⟨unpadded, fold.1, fold.2.1⟩

/-- An empty line between two lines of text is one line feed in a flow scalar and two in a block scalar. -/
theorem empty_line_folds_in_two_ways :
    (∀ l ∈ [(0, "one".toList), (1, "two".toList)], Unpadded l.2) ∧
    jointed emptyLines [(0, "one".toList), (1, "two".toList)] = "one\n\ntwo".toList ∧
    foldLines "one\n\ntwo".toList = "one\ntwo".toList ∧
    blockValue "one\n\ntwo".toList true .strip none 0 ≠ foldLines "one\n\ntwo".toList ∧
    blockValue "one\n\ntwo".toList true .strip none 0 ≠ "one\ntwo".toList := by
  refine ⟨?_, by decide, by decide, by decide, by decide⟩
  simp only [List.forall_mem_cons]
  exact ⟨unpadded_of_ends (by decide) rfl rfl rfl rfl, unpadded_of_ends (by decide) rfl rfl rfl rfl,
    List.forall_mem_nil _⟩

end PlaybookServer.Scalar
