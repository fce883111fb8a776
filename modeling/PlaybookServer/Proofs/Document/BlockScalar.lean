/-
Module: PlaybookServer.Proofs.Document.BlockScalar
Purpose: The value of a block scalar whose last line has text. Such a body has no blank lines at its end, so its value
  is all its lines without their indentation, joined, and then the line feeds that chomping leaves. Literal lines are
  joined by line feeds, so lines that are indented and put below one another are read back, whether the header gives
  the indentation or the first line with text does.
Main exports: bodyLines, indentation, joinLines, Chomp.feeds, blockValue_eq, BlockLines, blockBody,
  indented_lines_are_read_back
-/
import PlaybookServer.Document.Scalar
import PlaybookServer.Proofs.Text.Boundary
import PlaybookServer.Proofs.Text.Pieces
import PlaybookServer.Proofs.Text.Trim
import Mathlib.Data.List.Find

namespace PlaybookServer.Scalar

open Text

/-! ### Value of a body that ends in text -/

/-- The lines of a body, without the carriage returns of their breaks. -/
def bodyLines (body : List Char) : List (List Char) := (splitOn '\n' body).map (dropEndWhile (· = '\r'))

/-- The indentation that the header gives, or that of the first line with text. -/
def indentation (explicit : Option Nat) (lines : List (List Char)) : Nat :=
  explicit.getD (((lines.find? fun l => !isBlankLine l).map indentOf).getD 0)

/-- Lines without indentation, joined. -/
def joinLines (folded : Bool) : List (List Char) → List Char
  | [] => []
  | first :: rest => first ++ joinBlock folded (!first.isEmpty) rest

/-- The line feeds that chomping leaves behind the last line, where `after` blank lines follow it. -/
def Chomp.feeds (after : Nat) : Chomp → List Char
  | .strip => []
  | .clip => ['\n']
  | .keep => List.replicate (after + 1) '\n'

variable {body : List Char} {folded : Bool} {chomp : Chomp} {explicit : Option Nat} {after indent : Nat}

/-- All lines of a body are content if the last one has text. -/
theorem blockValue_eq {last : List Char} (ends : (bodyLines body).getLast? = some last)
    (text : isBlankLine last = false) : blockValue body folded chomp explicit after =
      joinLines folded ((bodyLines body).map (unindent (indentation explicit (bodyLines body)))) ++
        chomp.feeds after := by
  have noneBlank : (bodyLines body).reverse.takeWhile isBlankLine = [] := by
    obtain ⟨init, split⟩ := List.getLast?_eq_some_iff.1 ends
    rw [split, List.reverse_append, List.reverse_singleton, List.singleton_append,
      List.takeWhile_cons_of_neg (by simp [text])]
  simp only [blockValue]
  rw [← bodyLines, noneBlank, List.length_nil, Nat.sub_zero, List.take_length, ← indentation]
  generalize hlines : (bodyLines body).map (unindent (indentation explicit (bodyLines body))) = lines
  cases lines with
  | nil =>
      rw [List.map_eq_nil_iff.1 hlines] at ends
      cases ends
  | cons first rest =>
      simp only [joinLines, List.append_assoc, Nat.zero_add]
      cases chomp <;> rfl

/-- Lines joined in literal style stand as they are, with line feeds between them. -/
theorem joinLines_literal (lines : List (List Char)) : joinLines false lines = joinWith ['\n'] lines := by
  have joined (afterText : Bool) (line : List Char) (rest : List (List Char)) :
      line ++ joinBlock false afterText rest = joinWith ['\n'] (line :: rest) := by
    induction rest generalizing afterText line with
    | nil => exact List.append_nil line
    | cons second rest ih =>
        rw [joinWith_cons (List.cons_ne_nil second rest), ← ih (!second.isEmpty)]
        simp [joinBlock]
  cases lines with
  | nil => rfl
  | cons first rest => exact joined _ first rest

/-! ### Indented lines -/

/-- A line behind an indentation, which an empty line does without. -/
def indented (indent : Nat) (line : List Char) : List Char :=
  if line = [] then [] else List.replicate indent ' ' ++ line

/-- Lines put below one another as the body of a block scalar. -/
def blockBody (indent : Nat) (lines : List (List Char)) : List Char := joinWith ['\n'] (lines.map (indented indent))

/-- Lines that a block scalar can hold: each is empty or has text, and the last one has text. -/
structure BlockLines (lines : List (List Char)) : Prop where
  text : ∀ line ∈ lines, line = [] ∨ ∃ c ∈ line, isBlank c = false
  noFeed : ∀ line ∈ lines, '\n' ∉ line
  noReturn : ∀ line ∈ lines, line.getLast? ≠ some '\r'
  ends : ∃ last, lines.getLast? = some last ∧ last ≠ []

theorem byteLength_spaces (indent : Nat) : byteLength (List.replicate indent ' ') = indent := by
  induction indent with
  | zero => rfl
  | succ indent ih => rw [List.replicate_succ, byteLength_cons, ih, Nat.add_comm]; rfl

/-- Taking the indentation off never cuts into the line. -/
theorem unindent_indented {line : List Char} (text : line = [] ∨ ∃ c ∈ line, isBlank c = false) :
    unindent indent (indented indent line) = line := by
  rcases text with rfl | ⟨c, among, text⟩
  · rfl
  · have hasText : isBlankLine (List.replicate indent ' ' ++ line) = false :=
      isBlankLine_eq_false_iff.2 ⟨c, List.mem_append_right _ among, text⟩
    have drop := dropBytes_byteLength (List.replicate indent ' ') line
    have boundary := isBoundary_byteLength (List.replicate indent ' ') line
    rw [byteLength_spaces] at drop boundary
    rw [indented, if_neg (List.ne_nil_of_mem among), unindent, hasText, dropBytes?, if_pos boundary, drop]
    rfl

theorem indentOf_indented {line : List Char} (nonempty : line ≠ []) (flush : line.head? ≠ some ' ') :
    indentOf (indented indent line) = indent := by
  have spaces : ∀ c ∈ List.replicate indent ' ', decide (c = ' ') = true := by simp
  have stop : line.takeWhile (· = ' ') = [] := by
    cases line with
    | nil => rfl
    | cons c line => exact List.takeWhile_cons_of_neg (by simpa using flush)
  rw [indentOf, indented, if_neg nonempty, List.takeWhile_append_of_pos spaces, stop, List.append_nil,
    List.length_replicate]

section Indented

variable {lines : List (List Char)}

theorem isBlankLine_indented (block : BlockLines lines) {line : List Char} (among : line ∈ lines) :
    isBlankLine (indented indent line) = decide (line = []) := by
  rcases block.text line among with rfl | ⟨c, hc, text⟩
  · rfl
  · have nonempty : line ≠ [] := List.ne_nil_of_mem hc
    rw [indented, if_neg nonempty, decide_eq_false nonempty]
    exact isBlankLine_eq_false_iff.2 ⟨c, List.mem_append_right _ hc, text⟩

/-- The lines of the body are the lines that were indented. -/
theorem bodyLines_blockBody (block : BlockLines lines) :
    bodyLines (blockBody indent lines) = lines.map (indented indent) := by
  have nonempty : lines.map (indented indent) ≠ [] := by
    obtain ⟨last, ends, -⟩ := block.ends
    rintro hnil
    rw [List.map_eq_nil_iff.1 hnil] at ends
    cases ends
  have apart : ∀ part ∈ lines.map (indented indent), '\n' ∉ part := by
    intro part hpart
    obtain ⟨line, among, rfl⟩ := List.mem_map.1 hpart
    unfold indented
    split
    next => exact List.not_mem_nil
    next => simp [block.noFeed line among]
  rw [bodyLines, blockBody, splitOn_joinWith nonempty apart]
  refine (List.map_congr_left fun part hpart => ?_).trans (List.map_id _)
  obtain ⟨line, among, rfl⟩ := List.mem_map.1 hpart
  refine dropEndWhile_eq_self_iff.2 fun c hc => decide_eq_false ?_
  rintro rfl
  unfold indented at hc
  split at hc
  next => cases hc
  next hline =>
      rw [List.getLast?_append_of_ne_nil _ hline] at hc
      exact block.noReturn line among hc

/-- The indentation is found on the first line with text, if that line has no space of its own in front. -/
theorem indentation_indented (block : BlockLines lines)
    (known : explicit = some indent ∨
      explicit = none ∧ ∀ first ∈ lines.find? (· ≠ []), first.head? ≠ some ' ') :
    indentation explicit (lines.map (indented indent)) = indent := by
  rcases known with rfl | ⟨rfl, flush⟩
  · rfl
  · have same : lines.find? ((fun l => !isBlankLine l) ∘ indented indent) = lines.find? (· ≠ []) := by
      refine List.find?_congr fun line among => ?_
      simp [isBlankLine_indented block among]
    obtain ⟨last, ends, hasText⟩ := block.ends
    have hasOne : ∃ line ∈ lines, decide (line ≠ []) = true :=
      ⟨last, List.mem_of_getLast? ends, decide_eq_true hasText⟩
    obtain ⟨first, found⟩ := Option.isSome_iff_exists.1 (List.find?_isSome.2 hasOne)
    have nonempty : first ≠ [] := by simpa using List.find?_some found
    rw [indentation, Option.getD_none, List.find?_map, same, found, Option.map_some, Option.map_some,
      Option.getD_some, indentOf_indented nonempty (flush first found)]

/-- Lines indented as the header says, or as the first line with text shows, are read back: joined by line feeds, with
    what chomping leaves behind the last one. -/
theorem indented_lines_are_read_back (lines : List (List Char)) (indent after : Nat) (explicit : Option Nat)
    (block : BlockLines lines)
    (known : explicit = some indent ∨
      explicit = none ∧ ∀ first ∈ lines.find? (· ≠ []), first.head? ≠ some ' ') :
    blockValue (blockBody indent lines) false .strip explicit after = joinWith ['\n'] lines ∧
    blockValue (blockBody indent lines) false .clip explicit after = joinWith ['\n'] lines ++ ['\n'] ∧
    blockValue (blockBody indent lines) false .keep explicit after =
      joinWith ['\n'] lines ++ List.replicate (after + 1) '\n' := by
  obtain ⟨last, ends, hasText⟩ := block.ends
  have endsInText : (bodyLines (blockBody indent lines)).getLast? = some (indented indent last) := by
    rw [bodyLines_blockBody block, List.getLast?_map, ends, Option.map_some]
  have text : isBlankLine (indented indent last) = false := by
    rw [isBlankLine_indented block (List.mem_of_getLast? ends), decide_eq_false hasText]
  have unindented : (lines.map (indented indent)).map (unindent indent) = lines := by
    rw [List.map_map]
    refine (List.map_congr_left fun line among => ?_).trans (List.map_id lines)
    exact unindent_indented (block.text line among)
  have value (chomp : Chomp) : blockValue (blockBody indent lines) false chomp explicit after =
      joinWith ['\n'] lines ++ chomp.feeds after := by
    rw [blockValue_eq endsInText text, bodyLines_blockBody block, indentation_indented block known, unindented,
      joinLines_literal]
  exact ⟨(value .strip).trans (List.append_nil _), value .clip, value .keep⟩

end Indented

/-- A blank line in front, one inside, a line further in and one that starts with a tab. -/
theorem listing_is_read_back : BlockLines ["".toList, "été:".toList, "".toList, "  - 漢 ".toList, "\tend".toList] ∧
    blockValue "\n  été:\n\n    - 漢 \n  \tend".toList false .keep none 1 =
      "\nété:\n\n  - 漢 \n\tend\n\n".toList ∧
    blockValue "\n  été:\n\n    - 漢 \n  \tend".toList false .clip (some 2) 1 =
      "\nété:\n\n  - 漢 \n\tend\n".toList := by
  have block : BlockLines ["".toList, "été:".toList, "".toList, "  - 漢 ".toList, "\tend".toList] := by
    have text : ∀ line ∈ ["".toList, "été:".toList, "".toList, "  - 漢 ".toList, "\tend".toList],
        line = [] ∨ isBlankLine line = false := by decide
    constructor
    · exact fun line among => (text line among).imp_right isBlankLine_eq_false_iff.1
    · decide
    · decide
    · exact ⟨"\tend".toList, rfl, by decide⟩
  have body : blockBody 2 ["".toList, "été:".toList, "".toList, "  - 漢 ".toList, "\tend".toList] =
      "\n  été:\n\n    - 漢 \n  \tend".toList := by decide
  have found := indented_lines_are_read_back _ 2 1 none block (.inr ⟨rfl, by decide⟩)
  have given := indented_lines_are_read_back _ 2 1 (some 2) block (.inl rfl)
  rw [body] at found given
  exact ⟨block, found.2.2.trans (by decide), given.2.1.trans (by decide)⟩

end PlaybookServer.Scalar
