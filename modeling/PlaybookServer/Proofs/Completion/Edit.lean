/-
Module: PlaybookServer.Proofs.Completion.Edit
Purpose: What the edits of a completion replace. The patched text is the typed text with a placeholder at the cursor.
  A node that covers the cursor starts before the placeholder and ends before, inside or behind it; on the way back
  to the typed text the placeholder's part of the node falls away. All edits of a list replace this one range.
Main exports: Prepared.Splits, Splits.exists_parts, Edits, edits_iff, Candidate.Writes,
  edits_replace_word_at_cursor
-/
import PlaybookServer.Proofs.Completion.SortText
import PlaybookServer.Proofs.Text.LineMap

namespace PlaybookServer.Completion

open Text Docs Source

/-! ### A placeholder at the cursor -/

/-- What stands before the cursor and what after it. -/
structure Prepared.Splits (p : Prepared) (before after : List Char) : Prop where
  typed : p.typed = before ++ after
  patched : p.patched = before ++ (p.placeholder ++ after)
  offset : p.offset = byteLength before
  lines : p.lines = LineMap.ofText p.typed

theorem splits_of_ofText? {text : List Char} {position : Point} {p : Prepared}
    (prepared : Prepared.ofText? text position = some p) :
    p.typed = text ∧ ∃ before after, p.Splits before after := by
  simp only [Prepared.ofText?, Option.bind_eq_bind, Option.bind_eq_some_iff, Option.pure_def,
    Option.some.injEq] at prepared
  obtain ⟨offset, found, lineStart, -, rfl⟩ := prepared
  obtain ⟨before, after, rfl, rfl⟩ := isBoundary_iff.1 (LineMap.placed_of_pointToOffset? found).boundary
  refine ⟨rfl, before, after, rfl, ?_, rfl, rfl⟩
  simp

namespace Prepared.Splits

variable {p : Prepared} {before after : List Char} {s e : Nat}

theorem typedOffset_of_le (p : Prepared) (le : s ≤ p.offset) : p.typedOffset s = s := by
  rw [Prepared.typedOffset, if_pos le]

/-- Behind the cursor an offset loses as much of the placeholder as lies before it. -/
theorem typedOffset_of_ge (p : Prepared) {n : Nat} (ge : e = p.offset + n) :
    p.typedOffset e = p.offset + (n - byteLength p.placeholder) := by
  simp only [Prepared.typedOffset]
  split
  next => omega
  next =>
      split
      next => omega
      next => omega

/-- A stretch of the patched text around the cursor is a stretch of the typed text with a beginning of the
    placeholder in it, all of it if anything behind it belongs to the stretch. -/
theorem exists_parts (h : p.Splits before after) (starts : isBoundary s p.patched = true)
    (stops : isBoundary e p.patched = true) (begins : s ≤ p.offset) (ends : p.offset ≤ e) :
    ∃ outer left right rest more, before = outer ++ left ∧ after = right ++ rest ∧ s = byteLength outer ∧
      p.typedOffset e = byteLength outer + byteLength (left ++ right) ∧
      p.patched = outer ++ ((left ++ takeBytes (e - p.offset) p.placeholder ++ right) ++ more) ∧
      e = byteLength outer + byteLength (left ++ takeBytes (e - p.offset) p.placeholder ++ right) := by
  obtain ⟨outer, _, atStart, rfl⟩ := isBoundary_iff.1 starts
  obtain ⟨inner, more, atStop, rfl⟩ := isBoundary_iff.1 stops
  have patched := h.patched
  have offset := h.offset
  have beforePrefix : before <+: p.patched := ⟨_, patched.symm⟩
  obtain ⟨left, rfl⟩ := prefix_of_byteLength_le ⟨_, atStart.symm⟩ beforePrefix (offset ▸ begins)
  obtain ⟨mid, rfl⟩ := prefix_of_byteLength_le beforePrefix ⟨more, atStop.symm⟩ (offset ▸ ends)
  have behind : mid ++ more = p.placeholder ++ after := by
    rw [patched, List.append_assoc _ mid more] at atStop
    exact (List.append_cancel_left atStop).symm
  have bytes : byteLength (outer ++ left ++ mid) = p.offset + byteLength mid := by
    rw [byteLength_append, ← offset]
  have typed : p.typedOffset (p.offset + byteLength mid)
      = p.offset + (byteLength mid - byteLength p.placeholder) := typedOffset_of_ge p rfl
  rw [byteLength_append] at offset
  rw [bytes, Nat.add_sub_cancel_left, typed]
  -- The stretch ends inside the placeholder, or all of the placeholder lies in it.
  rcases Nat.le_total (byteLength mid) (byteLength p.placeholder) with short | long
  · obtain ⟨missing, split⟩ := prefix_of_byteLength_le ⟨more, rfl⟩ (behind ▸ List.prefix_append _ after) short
    have part : takeBytes (byteLength mid) p.placeholder = mid := by
      rw [← split, takeBytes_byteLength]
    refine ⟨outer, left, [], after, more, rfl, rfl, rfl, ?_, ?_, ?_⟩
    · rw [List.append_nil]
      omega
    · rw [part, atStop]
      simp
    · rw [part, List.append_nil, byteLength_append]
      omega
  · obtain ⟨right, rfl⟩ := prefix_of_byteLength_le (behind ▸ List.prefix_append _ after) ⟨more, rfl⟩ long
    have rest : right ++ more = after := by
      rw [List.append_assoc] at behind
      exact List.append_cancel_left behind
    have part : takeBytes (byteLength (p.placeholder ++ right)) p.placeholder = p.placeholder :=
      takeBytes_of_byteLength_le long
    refine ⟨outer, left, right, more, more, rfl, rest.symm, rfl, ?_, ?_, ?_⟩
    · rw [byteLength_append, byteLength_append]
      omega
    · rw [part, atStop]
      simp
    · rw [part, List.append_assoc, byteLength_append left]
      omega

end Prepared.Splits

/-- Whether a range of the typed text is what a span of the patched text covers, but for the placeholder. -/
structure Prepared.Recovers (p : Prepared) (span : Span) (range : Range) : Prop where
  range_eq : range = (LineMap.ofText p.typed).spanToRange p.typed ⟨span.start, p.typedOffset span.stop⟩
  before_cursor : span.start ≤ p.offset
  behind_cursor : p.offset ≤ p.typedOffset span.stop
  inside : p.typedOffset span.stop ≤ byteLength p.typed
  /-- The span covers a beginning of the placeholder, at the cursor; the range covers the rest. -/
  texts : ∃ left right, byteLength left = p.offset - span.start ∧
    Span.slice span p.patched = left ++ takeBytes (span.stop - p.offset) p.placeholder ++ right ∧
    Span.slice ⟨span.start, p.typedOffset span.stop⟩ p.typed = left ++ right

section Ranges

variable {p : Prepared} {path : Path} {node : NodeId} {range : Range} {span : Span} {before after : List Char}

/-- The range of a node at the cursor comes from its span. -/
theorem nodeRange?_eq_some (last : path.lastNode? = some node) (found : p.nodeRange? path = some range) :
    (path.doc.spanOf node).start ≤ p.offset ∧ p.offset ≤ (path.doc.spanOf node).stop ∧
      range = p.lines.spanToRange p.typed
        ⟨p.typedOffset (path.doc.spanOf node).start, p.typedOffset (path.doc.spanOf node).stop⟩ := by
  simp only [Prepared.nodeRange?, Option.bind_eq_bind, Option.bind_eq_some_iff, last, Option.some.injEq] at found
  obtain ⟨_, rfl, value, -, found⟩ := found
  split at found
  next => cases found
  next covers =>
      simp only [Span.contains, Bool.not_eq_true', Bool.and_eq_false_iff, not_or, Bool.not_eq_false, Bool.or_eq_true,
        Bool.and_eq_true, decide_eq_true_eq, true_and] at covers
      exact ⟨covers.1, by omega, (Option.some.inj found).symm⟩

/-- The ends of a span lead to boundaries of the typed text. -/
theorem boundaries_of_splits (h : p.Splits before after) (starts : isBoundary span.start p.patched = true)
    (stops : isBoundary span.stop p.patched = true) (begins : span.start ≤ p.offset) (ends : p.offset ≤ span.stop) :
    isBoundary span.start p.typed = true ∧ isBoundary (p.typedOffset span.stop) p.typed = true := by
  obtain ⟨outer, left, right, rest, more, rfl, rfl, start, stop, -, -⟩ := h.exists_parts starts stops begins ends
  rw [h.typed, start, stop, ← byteLength_append]
  constructor
  · rw [List.append_assoc]
    exact isBoundary_byteLength outer _
  · have text : outer ++ left ++ (right ++ rest) = outer ++ (left ++ right) ++ rest := by simp
    rw [text]
    exact isBoundary_byteLength _ rest

theorem recovers_of_splits (h : p.Splits before after) (starts : isBoundary span.start p.patched = true)
    (stops : isBoundary span.stop p.patched = true) (begins : span.start ≤ p.offset) (ends : p.offset ≤ span.stop) :
    p.Recovers span
      ((LineMap.ofText p.typed).spanToRange p.typed ⟨span.start, p.typedOffset span.stop⟩) := by
  obtain ⟨outer, left, right, rest, more, rfl, rfl, start, stop, patched, bytes⟩ :=
    h.exists_parts starts stops begins ends
  have offset := h.offset
  have typed : p.typed = outer ++ ((left ++ right) ++ rest) := by
    rw [h.typed]
    simp
  rw [byteLength_append] at offset stop
  refine ⟨rfl, begins, ?_, ?_, left, right, ?_, ?_, ?_⟩
  · omega
  · rw [typed, byteLength_append, byteLength_append, byteLength_append]
    omega
  · omega
  · have whole := Span.slice_between outer (left ++ takeBytes (span.stop - p.offset) p.placeholder ++ right) more
    rw [← bytes, ← start, ← patched] at whole
    exact whole
  · rw [start, stop, typed, ← byteLength_append left right, Span.slice_between]

end Ranges

/-! ### Applying an edit -/

/-- Whether a text comes of another by an edit: new text stands in the place of what lies between the two offsets that
    the ends of the edit's range name. -/
def Edits (text : List Char) (edit : TextEdit) (result : List Char) : Prop :=
  ∃ start stop, isBoundary start text = true ∧ isBoundary stop text = true ∧ start ≤ stop ∧
    edit.range = (LineMap.ofText text).spanToRange text ⟨start, stop⟩ ∧
    result = takeBytes start text ++ edit.newText.toList ++ dropBytes stop text

/-- Different boundaries have different points. -/
theorem offsetToPoint_inj {text : List Char} {a b : Nat} (ha : isBoundary a text = true)
    (hb : isBoundary b text = true)
    (same : (LineMap.ofText text).offsetToPoint text a = (LineMap.ofText text).offsetToPoint text b) : a = b := by
  rcases Nat.lt_trichotomy a b with less | equal | more
  · have before := LineMap.offsetToPoint_lt ha hb less
    simp [same, Point.lt] at before
  · exact equal
  · have before := LineMap.offsetToPoint_lt hb ha more
    simp [same, Point.lt] at before

/-- An edit of a span's range replaces the text under the span and nothing else. -/
theorem edits_iff {text result : List Char} {s e : Nat} (starts : isBoundary s text = true)
    (stops : isBoundary e text = true) (le : s ≤ e) (newText : String) :
    Edits text ⟨(LineMap.ofText text).spanToRange text ⟨s, e⟩, newText⟩ result ↔
      result = takeBytes s text ++ newText.toList ++ dropBytes e text := by
  constructor
  · rintro ⟨start, stop, hstart, hstop, -, range, rfl⟩
    obtain ⟨first, last⟩ := Range.mk.inj range
    rw [offsetToPoint_inj starts hstart first, offsetToPoint_inj stops hstop last]
  · rintro rfl
    exact ⟨s, e, starts, stops, le, rfl, rfl⟩

/-! ### Edits of candidates -/

/-- Whether a candidate that has an edit writes its text over a range. -/
def Candidate.Writes (range : Option Range) (c : Candidate) : Prop :=
  ∀ edit, c.edit = some edit → range = some edit.range ∧ edit.newText = c.insertText

section Candidates

variable {r : Request} {p : Prepared} {path : Path} {c : Candidate}

theorem writes_of_edit_eq {range : Option Range} (made : c.edit = range.map (⟨·, c.insertText⟩)) :
    c.Writes range := by
  intro edit has
  rw [made] at has
  obtain ⟨covered, rfl, rfl⟩ := Option.map_eq_some_iff.1 has
  exact ⟨rfl, rfl⟩

theorem writes_moduleCandidates (member : c ∈ moduleCandidates r p path) : c.Writes (p.nodeRange? path) := by
  obtain ⟨fullName, -, offered⟩ := List.mem_filterMap.1 member
  simp only [moduleCandidate?, Option.bind_eq_bind, Option.pure_def] at offered
  split at offered
  next => cases offered
  next =>
      obtain ⟨parts, -, made⟩ := Option.bind_eq_some_iff.1 offered
      obtain rfl := Option.some.inj made
      exact writes_of_edit_eq rfl

theorem writes_keywordCandidates {keywords : List String} (member : c ∈ keywordCandidates p path keywords) :
    c.Writes (p.nodeRange? path) := by
  obtain ⟨k, -, rfl⟩ := List.mem_map.1 member
  exact writes_of_edit_eq rfl

theorem writes_optionCandidates {options : OptionSet} (member : c ∈ optionCandidates r p path options) :
    c.Writes (p.nodeRange? path) := by
  obtain ⟨⟨name, option⟩, -, offered⟩ := List.mem_filterMap.1 member
  simp only [Option.ite_none_left_eq_some, Option.some.injEq] at offered
  obtain ⟨-, rfl⟩ := offered
  exact writes_of_edit_eq rfl

theorem writes_valueCandidates {option : OptionDoc} (member : c ∈ valueCandidates p path option) :
    c.Writes (p.nodeRange? path) := by
  obtain ⟨v, -, rfl⟩ := List.mem_map.1 member
  exact writes_of_edit_eq rfl

/-- Variables come without edits. -/
theorem writes_variableCandidates {vars : List (String × Nat)} (member : c ∈ variableCandidates vars) :
    c.Writes (p.nodeRange? path) := by
  obtain ⟨v, -, rfl⟩ := List.mem_map.1 member
  rintro edit ⟨⟩

theorem writes_contextCandidates {context : Context} (member : c ∈ contextCandidates r p path context) :
    c.Writes (p.nodeRange? path) := by
  cases context with
  | playKey => exact writes_keywordCandidates member
  | blockKey => exact writes_keywordCandidates member
  | roleKey => exact writes_keywordCandidates member
  | taskKey openPlay =>
      simp only [contextCandidates, taskCandidates, List.mem_append] at member
      rcases member with (task | play) | owned
      · exact writes_keywordCandidates task
      · split at play
        · exact writes_keywordCandidates play
        · exact absurd play List.not_mem_nil
      · split at owned
        · rcases List.mem_append.1 owned with block | module
          · exact writes_keywordCandidates block
          · exact writes_moduleCandidates module
        · exact absurd owned List.not_mem_nil
  | template => exact writes_variableCandidates member
  | optionKey options => exact writes_optionCandidates member
  | optionValue option => exact writes_valueCandidates member

theorem writes_rank {range : Option Range} {cs : List Candidate} (all : ∀ c ∈ cs, c.Writes range) :
    ∀ c ∈ rank cs, c.Writes range := by
  intro c member
  obtain ⟨i, inside, rfl⟩ := List.mem_mapIdx.1 ((List.mergeSort_perm _ _).mem_iff.1 member)
  exact all cs[i] (List.getElem_mem inside)

end Candidates

/-! ### Replacing the word at the cursor -/

/-- All edits of a list replace the range of the node at the cursor by the text of their candidate. This range is what
    the node's span covers of the typed text, around the cursor; and an edit of it keeps what stands before and after
    the range. Where no carriage return stands before them on their lines, the ends of the range are also read back as
    the ends of that stretch. -/
theorem edits_replace_word_at_cursor (r : Request) (p : Prepared)
    (prepared : Prepared.ofText? r.text.toList r.position = some p) (path : Path) (node : NodeId)
    (last : path.lastNode? = some node) (starts : isBoundary (path.doc.spanOf node).start p.patched = true)
    (stops : isBoundary (path.doc.spanOf node).stop p.patched = true) :
    (∀ context, ∀ c ∈ rank (contextCandidates r p path context), ∀ edit, c.edit = some edit →
      p.nodeRange? path = some edit.range ∧ edit.newText = c.insertText) ∧
    (cursorPath? p = some path → ∀ cs, complete r = some cs →
      ∃ context, cs = rank (contextCandidates r p path context)) ∧
    p.typed = r.text.toList ∧
    ∀ range, p.nodeRange? path = some range →
      p.Recovers (path.doc.spanOf node) range ∧
      (∀ newText result, Edits p.typed ⟨range, newText⟩ result ↔
        result = takeBytes (path.doc.spanOf node).start p.typed ++ newText.toList
          ++ dropBytes (p.typedOffset (path.doc.spanOf node).stop) p.typed) ∧
      ('\r' ∉ lastLine (takeBytes (path.doc.spanOf node).start p.typed) →
        p.lines.pointToOffset? p.typed range.start = some (path.doc.spanOf node).start) ∧
      ('\r' ∉ lastLine (takeBytes (p.typedOffset (path.doc.spanOf node).stop) p.typed) →
        p.lines.pointToOffset? p.typed range.stop = some (p.typedOffset (path.doc.spanOf node).stop)) := by
  obtain ⟨typed, before, after, splits⟩ := splits_of_ofText? prepared
  constructor
  · intro context
    apply writes_rank
    intro c member
    exact writes_contextCandidates member
  constructor
  · intro atCursor cs answered
    simp only [complete, Option.bind_eq_bind, Option.bind_eq_some_iff, Option.pure_def, Option.some.injEq,
      prepared] at answered
    obtain ⟨_, rfl, _, found, context, -, rfl⟩ := answered
    obtain rfl := Option.some.inj (atCursor.symm.trans found)
    exact ⟨context, rfl⟩
  constructor
  · exact typed
  · intro range found
    obtain ⟨begins, ends, covered⟩ := nodeRange?_eq_some last found
    have recovers := recovers_of_splits splits starts stops begins ends
    obtain ⟨startsTyped, stopsTyped⟩ := boundaries_of_splits splits starts stops begins ends
    rw [Prepared.Splits.typedOffset_of_le p begins, splits.lines] at covered
    subst covered
    constructor
    · exact recovers
    constructor
    · intro newText result
      exact edits_iff startsTyped stopsTyped (recovers.before_cursor.trans recovers.behind_cursor) newText
    constructor
    · intro unbroken
      rw [splits.lines]
      exact LineMap.pointToOffset?_offsetToPoint startsTyped unbroken
    · intro unbroken
      rw [splits.lines]
      exact LineMap.pointToOffset?_offsetToPoint stopsTyped unbroken

/-! ### A key half typed -/

/-- A play whose second key is typed in part, with the cursor behind it. -/
def halfTyped : Request := { plainRequest with text := "- hosts: all\n  na\n", position := ⟨1, 4⟩ }

/-- The text with its placeholder. -/
def halfTypedPrepared : Prepared where
  typed := "- hosts: all\n  na\n".toList
  patched := "- hosts: all\n  na_:\n".toList
  offset := 17
  placeholder := ['_', ':']
  lines := LineMap.ofText "- hosts: all\n  na\n".toList

/-- The tree of this text. -/
def halfTypedTree : Concrete :=
  streamOf 20 (sequenceAt none 0 20 0 [itemAt 0 20 0 (mappingAt none 2 20 0
    [entryAt 2 12 2 7 (wordAt .value 9 12 2 9), entryAt 15 19 2 18 none])])

/-- The half typed key, which the colon of the placeholder makes one. -/
def halfTypedKey : Path := (placeIn? halfTypedPrepared halfTypedTree).get (by decide +kernel)

/-- The placeholder's half that became part of the key is not in the range, and the edit completes the key. -/
theorem half_typed_key_is_completed :
    (ReadAs (String.ofList halfTypedPrepared.patched) halfTypedTree →
      cursorPath? halfTypedPrepared = some halfTypedKey) ∧
    Prepared.ofText? halfTyped.text.toList halfTyped.position = some halfTypedPrepared ∧
    halfTypedPrepared.nodeRange? halfTypedKey = some ⟨⟨1, 2⟩, ⟨1, 4⟩⟩ ∧
    ∀ result, Edits halfTypedPrepared.typed ⟨⟨⟨1, 2⟩, ⟨1, 4⟩⟩, "name:"⟩ result ↔
      result = "- hosts: all\n  name:\n".toList := by
  have prepared : Prepared.ofText? halfTyped.text.toList halfTyped.position = some halfTypedPrepared := rfl
  have range : halfTypedPrepared.nodeRange? halfTypedKey = some ⟨⟨1, 2⟩, ⟨1, 4⟩⟩ := by decide +kernel
  have last : halfTypedKey.lastNode? = some 3 := by decide +kernel
  obtain ⟨-, -, -, replaced⟩ := edits_replace_word_at_cursor halfTyped halfTypedPrepared prepared halfTypedKey 3 last
    (by decide +kernel) (by decide +kernel)
  constructor
  · intro read
    exact (cursorPath?_of_readAs read).trans (Option.some_get _).symm
  constructor
  · exact prepared
  constructor
  · exact range
  · intro result
    have edited : takeBytes (halfTypedKey.doc.spanOf 3).start halfTypedPrepared.typed ++ "name:".toList ++
        dropBytes (halfTypedPrepared.typedOffset (halfTypedKey.doc.spanOf 3).stop) halfTypedPrepared.typed =
        "- hosts: all\n  name:\n".toList := by decide +kernel
    rw [← edited]
    exact (replaced _ range).2.1 "name:" result

end PlaybookServer.Completion
