/-
Module: PlaybookServer.Proofs.Document.Chomping
Purpose: The line feeds that a block scalar keeps. They are those behind its last line and behind each blank line that
  follows, as counted from the end of its text; whitespace behind the last line counts as a line of its own, and a line
  feed at the end of the whole text takes one line off the count, even if content stands in between. The kept line
  feeds follow the value that the scalar has without them, and that value ends in text.
Main exports: Gap, Gap.counted, blankLinesAfter_gap, blockHeader, KeptScalar, KeptScalar.exists_content,
  kept_feeds_follow_blank_lines
-/
import PlaybookServer.Document.Lowering
import PlaybookServer.Proofs.Document.BlockScalar

namespace PlaybookServer.Scalar

open Text Source

/-! ### Blank lines -/

/-- What comes after some blank lines: nothing, or a text that starts with a line that is not blank. -/
def GoesOn (rest : List Char) : Prop :=
  rest = [] ∨ ∃ line ∈ (splitOn '\n' rest).head?, isBlankLine line = false

/-- What follows the text of a scalar: whitespace up to the end of its line, blank lines, and what comes after them. -/
structure Gap where
  spaces : List Char
  lines : List (List Char)
  rest : List Char
  spaces_blank : isBlankLine spaces = true
  spaces_noFeed : '\n' ∉ spaces
  lines_blank : ∀ line ∈ lines, isBlankLine line = true
  lines_noFeed : ∀ line ∈ lines, '\n' ∉ line
  goesOn : GoesOn rest

namespace Gap

/-- The text of a gap. -/
def text (g : Gap) : List Char := closeLines (g.spaces :: g.lines) g.rest

/-- The lines counted: whitespace on the scalar's own line counts as one more, and a line feed at the end of what
    comes after the blank lines as one less. -/
def counted (g : Gap) : Nat :=
  (g.lines.length + if g.spaces = [] then 0 else 1) - if g.rest.getLast? = some '\n' then 1 else 0

end Gap

/-- Empty lines only, behind a line without whitespace at its end. -/
def emptyGap (b : Nat) (rest : List Char) (goesOn : GoesOn rest) : Gap where
  spaces := []
  lines := List.replicate b []
  rest := rest
  spaces_blank := rfl
  spaces_noFeed := List.not_mem_nil
  lines_blank := by
    intro line among
    rw [List.eq_of_mem_replicate among]
    rfl
  lines_noFeed := by
    intro line among
    rw [List.eq_of_mem_replicate among]
    exact List.not_mem_nil
  goesOn := goesOn

theorem text_emptyGap (b : Nat) (rest : List Char) (goesOn : GoesOn rest) :
    (emptyGap b rest goesOn).text = '\n' :: (List.replicate b '\n' ++ rest) := by
  rw [Gap.text, emptyGap, closeLines_cons, closeLines_replicate, List.nil_append]

theorem counted_emptyGap (b : Nat) (rest : List Char) (goesOn : GoesOn rest) :
    (emptyGap b rest goesOn).counted = b - if rest.getLast? = some '\n' then 1 else 0 := by
  have size : (emptyGap b rest goesOn).lines.length = b := List.length_replicate
  rw [Gap.counted, size]
  rfl

section BlankLines

variable {lines : List (List Char)} {rest : List Char}

theorem endsInFeed_closeLines (hlines : lines ≠ []) : (closeLines lines []).getLast? = some '\n' := by
  obtain ⟨init, last, rfl⟩ := (List.eq_nil_or_concat lines).resolve_left hlines
  simp [closeLines]

/-- Blank lines at the beginning of a text, where what stands behind its last line feed is no line. -/
def leadingBlanks (text : List Char) : Nat :=
  let count := ((splitOn '\n' text).takeWhile isBlankLine).length
  if text.isEmpty || text.getLast? = some '\n' then count - 1 else count

theorem leadingBlanks_closeLines (blank : ∀ line ∈ lines, isBlankLine line = true)
    (noFeed : ∀ line ∈ lines, '\n' ∉ line) (goesOn : GoesOn rest) :
    leadingBlanks (closeLines lines rest) = lines.length - if rest.getLast? = some '\n' then 1 else 0 := by
  unfold leadingBlanks
  rw [splitOn_closeLines noFeed, List.takeWhile_append_of_pos blank, List.length_append]
  rcases goesOn with rfl | ⟨line, first, text⟩
  · -- the piece behind the last line feed is blank as well
    have closed : ((closeLines lines []).isEmpty || (closeLines lines []).getLast? = some '\n') = true := by
      by_cases hlines : lines = []
      · rw [hlines]
        rfl
      · simp [endsInFeed_closeLines hlines]
    rw [if_pos closed]
    rfl
  · obtain ⟨more, split⟩ := List.head?_eq_some_iff.1 first
    have hrest : rest ≠ [] := by
      rintro rfl
      obtain ⟨rfl, -⟩ := List.cons.inj split
      cases text
    have nonempty : closeLines lines rest ≠ [] := List.append_ne_nil_of_right_ne_nil _ hrest
    have last : (closeLines lines rest).getLast? = rest.getLast? := List.getLast?_append_of_ne_nil _ hrest
    rw [split, List.takeWhile_cons_of_neg (by simp [text]), List.length_nil, Nat.add_zero,
      List.isEmpty_eq_false_iff.2 nonempty, last, Bool.false_or]
    simp only [decide_eq_true_eq]
    split <;> rfl

end BlankLines

/-- The line feed that ends the line of a text is not counted. -/
theorem blankLinesAfter_feed (before more : List Char) :
    blankLinesAfter (before ++ '\n' :: more) (byteLength before) = leadingBlanks more := by
  rw [blankLinesAfter, dropBytes_byteLength]
  rfl

/-- If the line goes on, all of it is counted. -/
theorem blankLinesAfter_of_ne (before : List Char) {c : Char} (hc : c ≠ '\n') (more : List Char) :
    blankLinesAfter (before ++ c :: more) (byteLength before) = leadingBlanks (c :: more) := by
  rw [blankLinesAfter, dropBytes_byteLength]
  simp only [leadingBlanks]
  split
  next heq => exact absurd (List.cons.inj heq).1 hc
  next => rfl

/-- The blank lines counted after the end of a text. -/
theorem blankLinesAfter_gap (before : List Char) (g : Gap) :
    blankLinesAfter (before ++ g.text) (byteLength before) = g.counted := by
  rw [Gap.text, Gap.counted, closeLines_cons]
  cases hspaces : g.spaces with
  | nil =>
      rw [List.nil_append, blankLinesAfter_feed, if_pos rfl, Nat.add_zero]
      exact leadingBlanks_closeLines g.lines_blank g.lines_noFeed g.goesOn
  | cons c spaces =>
      have hc : c ≠ '\n' := by
        rintro rfl
        exact g.spaces_noFeed (hspaces ▸ List.mem_cons_self)
      have blank : ∀ line ∈ (c :: spaces) :: g.lines, isBlankLine line = true := by
        rw [List.forall_mem_cons, ← hspaces]
        exact ⟨g.spaces_blank, g.lines_blank⟩
      have noFeed : ∀ line ∈ (c :: spaces) :: g.lines, '\n' ∉ line := by
        rw [List.forall_mem_cons, ← hspaces]
        exact ⟨g.spaces_noFeed, g.lines_noFeed⟩
      rw [List.cons_append, blankLinesAfter_of_ne before hc, ← List.cons_append, ← closeLines_cons,
        leadingBlanks_closeLines blank noFeed g.goesOn, List.length_cons, if_neg (List.cons_ne_nil c spaces)]

/-- Nothing is counted at the end of a text. -/
theorem blankLinesAfter_end (text : List Char) : blankLinesAfter text (byteLength text) = 0 := by
  have nothing := dropBytes_byteLength text []
  rw [List.append_nil] at nothing
  rw [blankLinesAfter, nothing]
  rfl

/-- After a text that ends its line, empty lines are counted, but for one of them if a line feed ends what follows. -/
theorem blankLinesAfter_replicate (before : List Char) {rest : List Char} (b : Nat) (goesOn : GoesOn rest) :
    blankLinesAfter (before ++ '\n' :: (List.replicate b '\n' ++ rest)) (byteLength before) =
      b - if rest.getLast? = some '\n' then 1 else 0 := by
  rw [← text_emptyGap b rest goesOn, blankLinesAfter_gap, counted_emptyGap]

/-! ### The end of the content -/

section Content

variable {body line : List Char} {indent : Nat}

theorem unindent_suffix : unindent indent line <:+ line := by
  unfold unindent
  split
  next => exact List.nil_suffix
  next =>
      cases hdrop : dropBytes? indent line with
      | none => exact List.dropWhile_suffix isBlank
      | some rest =>
          obtain ⟨pre, rfl, -⟩ := dropBytes?_eq_some_iff.1 hdrop
          exact List.suffix_append pre rest

/-- A line with text that is not just as long as the indentation keeps some of it. -/
theorem unindent_ne_nil (text : isBlankLine line = false) (further : byteLength line ≠ indent) :
    unindent indent line ≠ [] := by
  rw [unindent, text]
  cases hdrop : dropBytes? indent line with
  | none =>
      intro hnil
      obtain ⟨c, among, hc⟩ := isBlankLine_eq_false_iff.1 text
      rw [List.dropWhile_eq_nil_iff.1 hnil c among] at hc
      cases hc
  | some rest =>
      rintro rfl
      obtain ⟨pre, rfl, hpre⟩ := dropBytes?_eq_some_iff.1 hdrop
      rw [List.append_nil] at further
      exact further hpre

theorem joinLines_concat (folded : Bool) (lines : List (List Char)) (last : List Char) :
    ∃ before, joinLines folded (lines ++ [last]) = before ++ last := by
  have joined (afterText : Bool) (lines : List (List Char)) :
      ∃ before, joinBlock folded afterText (lines ++ [last]) = before ++ last := by
    have joint (afterText : Bool) (line : List Char) (rest : List (List Char)) : ∃ joint,
        joinBlock folded afterText (line :: rest) = joint :: (line ++ joinBlock folded (!line.isEmpty) rest) :=
      ⟨_, rfl⟩
    induction lines generalizing afterText with
    | nil =>
        obtain ⟨c, hc⟩ := joint afterText last []
        exact ⟨[c], by rw [List.nil_append, hc, joinBlock.eq_1, List.append_nil, List.singleton_append]⟩
    | cons line lines ih =>
        obtain ⟨c, hc⟩ := joint afterText line (lines ++ [last])
        obtain ⟨before, hbefore⟩ := ih (!line.isEmpty)
        exact ⟨c :: (line ++ before), by rw [List.cons_append, hc, hbefore, List.cons_append, List.append_assoc]⟩
  cases lines with
  | nil => exact ⟨[], by simp [joinLines, joinBlock]⟩
  | cons first lines =>
      obtain ⟨before, hbefore⟩ := joined (!first.isEmpty) lines
      exact ⟨first ++ before, by rw [List.cons_append, joinLines, hbefore, List.append_assoc]⟩

/-- A body that ends in text has a last line that ends in the same character. -/
theorem exists_last_line {c : Char} (ends : body.getLast? = some c) (text : isBlank c = false) :
    ∃ last, (bodyLines body).getLast? = some last ∧ last.getLast? = some c := by
  have noFeed : c ≠ '\n' := by rintro rfl; cases text
  have noReturn : c ≠ '\r' := by rintro rfl; cases text
  obtain ⟨last, lastPiece, hlast⟩ := exists_last_piece ends noFeed
  refine ⟨last, ?_, hlast⟩
  rw [bodyLines, List.getLast?_map, lastPiece, Option.map_some]
  congr 1
  refine dropEndWhile_eq_self_iff.2 fun d hd => ?_
  rw [hlast] at hd
  rw [← Option.some.inj hd, decide_eq_false noReturn]

/-- Joined lines end as the last one does, if that keeps some of its text. -/
theorem getLast?_joinLines (folded : Bool) {last : List Char} {c : Char} (ends : (bodyLines body).getLast? = some last)
    (hlast : last.getLast? = some c) (text : isBlank c = false) (further : byteLength last ≠ indent) :
    (joinLines folded ((bodyLines body).map (unindent indent))).getLast? = some c := by
  obtain ⟨init, split⟩ := List.getLast?_eq_some_iff.1 ends
  have kept := unindent_ne_nil (isBlankLine_of_getLast? hlast text) further
  obtain ⟨before, joined⟩ := joinLines_concat folded (init.map (unindent indent)) (unindent indent last)
  obtain ⟨pre, suffix⟩ := @unindent_suffix last indent
  rw [split, List.map_append, List.map_singleton, joined, List.getLast?_append_of_ne_nil _ kept, ← hlast]
  exact (suffix ▸ List.getLast?_append_of_ne_nil pre kept).symm

end Content

/-! ### Scalars of a document -/

theorem cut?_feed {line : List Char} (noFeed : '\n' ∉ line) (rest : List Char) :
    cut? ['\n'] (line ++ '\n' :: rest) = some (line, rest) := by
  induction line with
  | nil => simp [cut?, stripStem?]
  | cons c line ih =>
      have hc : '\n' ≠ c := List.ne_of_not_mem_cons noFeed
      rw [List.cons_append, cut?, stripStem?, if_neg hc, ih (List.not_mem_of_not_mem_cons noFeed)]
      rfl

/-- The first line of a block scalar without its comment. -/
def headerText (line : List Char) : List Char := trimEnd (((cut? [' ', '#'] line).map Prod.fst).getD line)

/-- Whether the first line of a block scalar asks for folding. -/
def isFolded (line : List Char) : Bool := startsWith (headerText line) ['>']

/-- Chomping and indentation that the first line of a block scalar gives. -/
def blockHeader (line : List Char) : Chomp × Option Nat := (readHeader ((headerText line).drop 1) (.clip, none)).1

/-- The indentation of a block scalar's lines. That of the header counts from the column of the entry that owns it. -/
def lineIndentation (i : ConcreteInfo) (header body : List Char) : Nat :=
  indentation ((blockHeader header).2.map (i.ownerColumn + ·)) (bodyLines body)

/-- A block scalar of a text that keeps its line feeds: its first line and the others. -/
structure KeptScalar (text : List Char) (i : ConcreteInfo) (header body : List Char) : Prop where
  isBlock : i.kind = .blockScalar
  slice : (i.trimmedSpan text).slice text = header ++ '\n' :: body
  noFeed : '\n' ∉ header
  keeps : (blockHeader header).1 = .keep

section Kept

variable {text header body : List Char} {i : ConcreteInfo}

theorem slice_trimmedSpan (text : List Char) (i : ConcreteInfo) :
    (i.trimmedSpan text).slice text = trimEnd (i.span.slice text) := by
  obtain ⟨more, split⟩ := (List.rdropWhile_prefix isBlank (i.span.slice text)).trans (prefix_takeBytes _ _)
  rw [ConcreteInfo.trimmedSpan, Span.slice, Nat.add_sub_cancel_left]
  show takeBytes (byteLength (trimEnd (i.span.slice text))) (dropBytes i.span.start text) = _
  rw [← split]
  exact takeBytes_byteLength (trimEnd (i.span.slice text)) more

/-- Whitespace at the end of the node does not belong to the scalar, so its body ends in text. -/
theorem KeptScalar.ends (kept : KeptScalar text i header body) : ∃ c, body.getLast? = some c ∧ isBlank c = false := by
  have last := @getLast?_trimEnd (i.span.slice text)
  rw [← slice_trimmedSpan, kept.slice, List.getLast?_append_of_ne_nil _ (List.cons_ne_nil _ _)] at last
  cases hbody : body.getLast? with
  | none =>
      rw [List.getLast?_eq_none_iff.1 hbody] at last
      cases last '\n' rfl
  | some c =>
      refine ⟨c, rfl, last c ?_⟩
      rw [List.getLast?_cons, hbody]
      rfl

/-- The node that a block scalar is lowered to. -/
theorem node_lowerBlockScalar (slice : (i.trimmedSpan text).slice text = header ++ '\n' :: body)
    (noFeed : '\n' ∉ header) (s : Lowering) :
    ((lowerBlockScalar text i).run s).2.nodes[((lowerBlockScalar text i).run s).1]? =
      some ⟨.scalar (String.ofList (blockValue body (isFolded header) (blockHeader header).1
        ((blockHeader header).2.map (i.ownerColumn + ·)) (blankLinesAfter text (i.trimmedSpan text).stop)))
        (if isFolded header then .folded else .literal), i.trimmedSpan text⟩ := by
  unfold lowerBlockScalar
  simp only [slice, cut?_feed noFeed, Option.getD_some]
  rw [← headerText, ← isFolded, blockHeader]
  rcases readHeader ((headerText header).drop 1) (.clip, none) with ⟨⟨chomp, explicit⟩, wellFormed⟩
  cases wellFormed with
  | true => exact Array.getElem?_push_size
  | false => exact Array.getElem?_push_size

/-- The node of a scalar that keeps its line feeds has the value that it has without them, and a line feed more than
    there are lines counted behind it. Without them the value ends in text, unless the last line is just as long as the
    indentation. -/
theorem KeptScalar.exists_content (kept : KeptScalar text i header body) (cs : List Concrete) (s : Lowering) :
    ∃ content, ((lowerNode text (.node i cs)).run s).2.nodes[((lowerNode text (.node i cs)).run s).1]? =
        some ⟨.scalar (String.ofList (content ++
            List.replicate (blankLinesAfter text (i.trimmedSpan text).stop + 1) '\n'))
          (if isFolded header then .folded else .literal), i.trimmedSpan text⟩ ∧
      ((∀ last ∈ (bodyLines body).getLast?, byteLength last ≠ lineIndentation i header body) →
        ∃ c, content.getLast? = some c ∧ isBlank c = false) := by
  obtain ⟨c, ends, hc⟩ := kept.ends
  obtain ⟨last, lastLine, hlast⟩ := exists_last_line ends hc
  have lowered : lowerNode text (.node i cs) = lowerBlockScalar text i := by rw [lowerNode, kept.isBlock]
  refine ⟨joinLines (isFolded header) ((bodyLines body).map (unindent (lineIndentation i header body))), ?_,
    fun further => ⟨c, ?_, hc⟩⟩
  · rw [lowered, node_lowerBlockScalar kept.slice kept.noFeed, kept.keeps,
      blockValue_eq lastLine (isBlankLine_of_getLast? hlast hc)]
    rfl
  · exact getLast?_joinLines (isFolded header) lastLine hlast hc (further last lastLine)

end Kept

/-- The blank lines counted are those that follow if the scalar's line ends in text and either there are none or the
    text does not end in a line feed further on. -/
theorem Gap.counted_eq_length_iff (g : Gap) : g.counted = g.lines.length ↔
    if g.spaces = [] then g.lines = [] ∨ g.rest.getLast? ≠ some '\n' else g.rest.getLast? = some '\n' := by
  rw [counted, ← List.length_eq_zero_iff (l := g.lines)]
  by_cases hrest : g.rest.getLast? = some '\n'
  · rw [if_pos hrest]
    split <;> simp only [hrest, ne_eq, not_true, or_false, iff_true] <;> omega
  · rw [if_neg hrest]
    split <;> simp only [hrest, ne_eq, not_false_eq_true, or_true, iff_true, iff_false] <;> omega

/-- After a text that ends its line, all empty lines are counted exactly if there are none or the text does not end in
    a line feed behind content; else one of them is not. None are counted at the end of the text, and after a gap those
    of the gap are, which are its blank lines only under such a condition. A block scalar that keeps its line feeds has
    the value that it has without them, and a line feed more than there are lines counted behind it; and without them
    it ends in text, unless its last line is just as long as its indentation. -/
theorem kept_feeds_follow_blank_lines (before rest : List Char) (b : Nat) (goesOn : GoesOn rest) :
    (blankLinesAfter (before ++ '\n' :: (List.replicate b '\n' ++ rest)) (byteLength before) = b ↔
      b = 0 ∨ rest.getLast? ≠ some '\n') ∧
    (rest.getLast? = some '\n' →
      blankLinesAfter (before ++ '\n' :: (List.replicate b '\n' ++ rest)) (byteLength before) = b - 1) ∧
    blankLinesAfter before (byteLength before) = 0 ∧
    (∀ g : Gap, blankLinesAfter (before ++ g.text) (byteLength before) = g.counted ∧
      (g.counted = g.lines.length ↔
        if g.spaces = [] then g.lines = [] ∨ g.rest.getLast? ≠ some '\n' else g.rest.getLast? = some '\n')) ∧
    ∀ (text header body : List Char) (i : ConcreteInfo) (cs : List Concrete) (s : Lowering),
      KeptScalar text i header body → ∃ content,
        ((lowerNode text (.node i cs)).run s).2.nodes[((lowerNode text (.node i cs)).run s).1]? =
          some ⟨.scalar (String.ofList (content ++
              List.replicate (blankLinesAfter text (i.trimmedSpan text).stop + 1) '\n'))
            (if isFolded header then .folded else .literal), i.trimmedSpan text⟩ ∧
        ((∀ last ∈ (bodyLines body).getLast?, byteLength last ≠ lineIndentation i header body) →
          ∃ c, content.getLast? = some c ∧ isBlank c = false) := by
  have count := blankLinesAfter_replicate before b goesOn
  refine ⟨?_, fun closed => ?_, blankLinesAfter_end before,
    fun g => ⟨blankLinesAfter_gap before g, g.counted_eq_length_iff⟩,
    fun text header body i cs s kept => kept.exists_content cs s⟩
  · rw [count]
    by_cases closed : rest.getLast? = some '\n'
    · rw [if_pos closed]
      simp only [closed, ne_eq, not_true, or_false]
      omega
    · rw [if_neg closed]
      simp [closed]
  · rw [count, if_pos closed]

/-- The scalar of the first entry in a text such as the following. -/
def firstScalar : ConcreteInfo := { kind := .blockScalar, start := 3, stop := 11 }

/-- A blank line is kept in front of an entry, if the text ends with that. -/
theorem blank_line_kept_before_last_entry : GoesOn "b: 1".toList ∧
    blankLinesAfter "a: |+\n  x\n\nb: 1".toList 9 = 1 ∧
    KeptScalar "a: |+\n  x\n\nb: 1".toList firstScalar "|+".toList "  x".toList ∧
    ∃ content, ((lowerNode "a: |+\n  x\n\nb: 1".toList (.node firstScalar [])).run {}).2.nodes[0]? =
        some ⟨.scalar (String.ofList (content ++ List.replicate 2 '\n')) .literal, ⟨3, 9⟩⟩ ∧
      ∃ c, content.getLast? = some c ∧ isBlank c = false := by
  have goesOn : GoesOn "b: 1".toList := .inr ⟨"b: 1".toList, by decide, by decide⟩
  have kept : KeptScalar "a: |+\n  x\n\nb: 1".toList firstScalar "|+".toList "  x".toList := by
    constructor
    · rfl
    · decide
    · decide
    · decide
  have further : ∀ last ∈ (bodyLines "  x".toList).getLast?,
      byteLength last ≠ lineIndentation firstScalar "|+".toList "  x".toList := by
    decide
  have facts := kept_feeds_follow_blank_lines "a: |+\n  x".toList _ 1 goesOn
  obtain ⟨content, node, ends⟩ := facts.2.2.2.2 _ _ _ _ [] {} kept
  exact ⟨goesOn, facts.1.2 (.inr (by decide)), kept, content, node, ends further⟩

/-- The same blank line is not counted if a line feed ends the entry. -/
theorem blank_line_lost_before_closed_entry : GoesOn "b: 1\n".toList ∧
    blankLinesAfter ("a: |+\n  x".toList ++ '\n' :: (List.replicate 1 '\n' ++ "b: 1\n".toList))
      (byteLength "a: |+\n  x".toList) ≠ 1 :=
  ⟨.inr ⟨"b: 1".toList, by decide, by decide⟩, by decide⟩

end PlaybookServer.Scalar
