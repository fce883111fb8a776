/-
Module: PlaybookServer.Proofs.Text.LineMap
Purpose: Points and byte offsets. A line starts at the start of the text and after each line feed, so the line of a
  boundary is the number of line feeds before it, and its column the units since the last of them. A point stands
  for the first boundary of its line that is not before its column, or for the place where the line breaks. To go
  from a boundary to its point and back leads to the boundary again unless a carriage return stands before it on
  its line, and later boundaries have later points.
Main exports: lastLine, lineNumber, column, Placed, LineMap.tryOffsetToPoint, LineMap.tryPointToOffset,
  LineMap.points_and_offsets_agree
-/
import Mathlib.Data.List.Basic
import Mathlib.Data.List.Induction
import Mathlib.Data.List.TakeWhile
import PlaybookServer.Proofs.Text.Boundary

namespace PlaybookServer.Text

/-! ### Lines of a text -/

/-- What the last line of a beginning of a text holds. -/
def lastLine (pre : List Char) : List Char := (pre.reverse.takeWhile (· ≠ '\n')).reverse

/-- The line of an offset: how many line feeds stand before it. -/
def lineNumber (text : List Char) (offset : Nat) : Nat := (takeBytes offset text).count '\n'

/-- The column of an offset: how many units stand before it on its line. -/
def column (text : List Char) (offset : Nat) : Nat := unitLength (lastLine (takeBytes offset text))

/-- A line starts after this beginning of a text. -/
def StartsLine (before : List Char) : Prop := ∀ c ∈ before.getLast?, c = '\n'

theorem StartsLine.nil : StartsLine [] := nofun

theorem StartsLine.concat (before : List Char) : StartsLine (before ++ ['\n']) := by
  intro c hc
  rw [List.getLast?_concat] at hc
  exact (Option.some.inj hc).symm

theorem StartsLine.cases {before : List Char} (h : StartsLine before) :
    before = [] ∨ ∃ start, before = start ++ ['\n'] := by
  induction before using List.reverseRecOn with
  | nil => exact .inl rfl
  | append_singleton start c _ =>
      have hc : c = '\n' := h c List.getLast?_concat
      exact .inr ⟨start, by rw [hc]⟩

theorem lastLine_append_of_notMem (pre : List Char) {lead : List Char} (h : '\n' ∉ lead) :
    lastLine (pre ++ lead) = lastLine pre ++ lead := by
  have hall : ∀ c ∈ lead.reverse, decide (c ≠ '\n') = true := by
    intro c hc
    exact decide_eq_true fun heq => h (heq ▸ List.mem_reverse.1 hc)
  rw [lastLine, List.reverse_append, List.takeWhile_append_of_pos hall, List.reverse_append, List.reverse_reverse,
    lastLine]

theorem StartsLine.lastLine_eq_nil {before : List Char} (h : StartsLine before) : lastLine before = [] := by
  rcases h.cases with rfl | ⟨start, rfl⟩
  · rfl
  · simp [lastLine]

theorem StartsLine.lastLine_append {before lead : List Char} (h : StartsLine before) (hlead : '\n' ∉ lead) :
    lastLine (before ++ lead) = lead := by
  rw [lastLine_append_of_notMem before hlead, h.lastLine_eq_nil, List.nil_append]

/-- Every beginning of a text ends in its last line. -/
theorem exists_line_before (pre : List Char) : ∃ before lead, pre = before ++ lead ∧ StartsLine before ∧
    '\n' ∉ lead := by
  induction pre using List.reverseRecOn with
  | nil => exact ⟨[], [], rfl, .nil, List.not_mem_nil⟩
  | append_singleton pre c ih =>
      by_cases hc : c = '\n'
      · subst hc
        exact ⟨pre ++ ['\n'], [], by simp, .concat pre, List.not_mem_nil⟩
      · obtain ⟨before, lead, rfl, hstart, hlead⟩ := ih
        exact ⟨before, lead ++ [c], by simp, hstart, by simp [hlead, Ne.symm hc]⟩

/-- There is a line for every number of line feeds. -/
theorem exists_line_of_count (text : List Char) (n : Nat) (hn : n ≤ text.count '\n') :
    ∃ before rest, text = before ++ rest ∧ StartsLine before ∧ before.count '\n' = n := by
  induction text using List.reverseRecOn with
  | nil => exact ⟨[], [], rfl, .nil, (Nat.le_zero.1 hn).symm⟩
  | append_singleton text c ih =>
      by_cases hle : n ≤ text.count '\n'
      · obtain ⟨before, rest, rfl, hstart, hcount⟩ := ih hle
        exact ⟨before, rest ++ [c], by simp, hstart, hcount⟩
      · -- the last character is the line feed that opens the line
        have hc : c = '\n' := by
          by_contra hne
          rw [List.count_append, List.count_singleton, if_neg (by simpa using hne)] at hn
          exact hle hn
        subst hc
        rw [List.count_append, List.count_singleton_self] at hn
        refine ⟨text ++ ['\n'], [], by simp, .concat text, ?_⟩
        rw [List.count_append, List.count_singleton_self]
        omega

/-- The text before a line ends in a line feed. -/
theorem StartsLine.eq_nil_of_notMem {pre mid : List Char} (h : StartsLine (pre ++ mid)) (hmid : '\n' ∉ mid) :
    mid = [] := by
  rcases List.eq_nil_or_concat mid with rfl | ⟨mid, c, rfl⟩
  · rfl
  · have hc : c = '\n' := h c (by simp)
    exact absurd (by simp [hc]) hmid

/-- A place on the line that starts after some text lies after that text. -/
theorem StartsLine.prefix_of_count {before pre text : List Char} (h : StartsLine before)
    (hbefore : before <+: text) (hpre : pre <+: text) (hcount : pre.count '\n' = before.count '\n') :
    before <+: pre := by
  rcases List.prefix_or_prefix_of_prefix hbefore hpre with hle | ⟨mid, rfl⟩
  · exact hle
  · rw [List.count_append] at hcount
    have hmid : '\n' ∉ mid := List.count_eq_zero.1 (by omega)
    simp only [h.eq_nil_of_notMem hmid, List.append_nil, List.prefix_rfl]

/-! ### Where lines start -/

theorem lineStartsFrom_append (offset : Nat) (pre rest : List Char) : lineStartsFrom offset (pre ++ rest) =
    lineStartsFrom offset pre ++ lineStartsFrom (offset + byteLength pre) rest := by
  induction pre generalizing offset with
  | nil => rfl
  | cons c pre ih =>
      simp only [List.cons_append, lineStartsFrom, ih, byteLength_cons, Nat.add_assoc]
      split <;> rfl

theorem length_lineStartsFrom (offset : Nat) (cs : List Char) :
    (lineStartsFrom offset cs).length = cs.count '\n' := by
  induction cs generalizing offset with
  | nil => rfl
  | cons c cs ih =>
      rw [lineStartsFrom, List.count_cons]
      by_cases hc : c = '\n' <;> simp [hc, ih]

theorem mem_lineStartsFrom {offset start : Nat} {cs : List Char} (h : start ∈ lineStartsFrom offset cs) :
    offset < start ∧ start ≤ offset + byteLength cs := by
  induction cs generalizing offset with
  | nil => exact absurd h List.not_mem_nil
  | cons c cs ih =>
      have hc := c.utf8Size_pos
      rw [byteLength_cons]
      rw [lineStartsFrom] at h
      split at h
      next =>
          rcases List.mem_cons.1 h with rfl | h
          · omega
          · have hin := ih h
            omega
      next =>
          have hin := ih h
          omega

/-- Starts of lines ascend. -/
theorem lineStartsFrom_pairwise (offset : Nat) (cs : List Char) :
    (lineStartsFrom offset cs).Pairwise (· < ·) := by
  induction cs generalizing offset with
  | nil => exact .nil
  | cons c cs ih =>
      rw [lineStartsFrom]
      split
      next => exact .cons (fun _ hstart => (mem_lineStartsFrom hstart).1) (ih _)
      next => exact ih _

namespace LineMap

theorem starts_pairwise (text : List Char) : (ofText text).starts.Pairwise (· < ·) :=
  .cons (fun _ hstart => (mem_lineStartsFrom hstart).1) (lineStartsFrom_pairwise 0 text)

theorem starts_append (pre rest : List Char) : (ofText (pre ++ rest)).starts =
    (0 :: lineStartsFrom 0 pre) ++ lineStartsFrom (byteLength pre) rest := by
  rw [ofText, lineStartsFrom_append, Nat.zero_add, List.cons_append]

theorem lineCount_ofText (text : List Char) : (ofText text).lineCount = text.count '\n' + 1 := by
  rw [lineCount, ofText, List.length_cons, length_lineStartsFrom]

/-- The line after some text starts where that text ends. -/
theorem lineStart?_of_startsLine {before : List Char} (rest : List Char) (h : StartsLine before) :
    (ofText (before ++ rest)).lineStart? (before.count '\n') = some (byteLength before) := by
  rcases h.cases with rfl | ⟨start, rfl⟩
  · rfl
  · have hlen : (0 :: lineStartsFrom 0 start).length = (start ++ ['\n']).count '\n' := by
      rw [List.length_cons, length_lineStartsFrom, List.count_append, List.count_singleton_self]
    rw [lineStart?, List.append_assoc, starts_append, List.getElem?_append_right (Nat.le_of_eq hlen), hlen,
      Nat.sub_self, byteLength_append]
    rfl

theorem exists_line_of_lineStart? {text : List Char} {line start : Nat}
    (h : (ofText text).lineStart? line = some start) : ∃ before rest, text = before ++ rest ∧ StartsLine before ∧
      before.count '\n' = line ∧ byteLength before = start := by
  have hlt : line < (ofText text).lineCount := (List.getElem?_eq_some_iff.1 h).1
  rw [lineCount_ofText] at hlt
  obtain ⟨before, rest, rfl, hstart, rfl⟩ := exists_line_of_count text line (by omega)
  rw [lineStart?_of_startsLine rest hstart] at h
  exact ⟨before, rest, rfl, hstart, rfl, Option.some.inj h⟩

/-- The line of a boundary is the number of line feeds before it. -/
theorem lineOf_byteLength (pre rest : List Char) :
    (ofText (pre ++ rest)).lineOf (byteLength pre) = pre.count '\n' := by
  have hbefore : ∀ start ∈ 0 :: lineStartsFrom 0 pre, decide (start ≤ byteLength pre) = true := by
    intro start hstart
    rcases List.mem_cons.1 hstart with rfl | hstart
    · exact decide_eq_true (Nat.zero_le _)
    · have hin := mem_lineStartsFrom hstart
      exact decide_eq_true (by omega)
  have hafter : (lineStartsFrom (byteLength pre) rest).takeWhile (fun start => decide (start ≤ byteLength pre)) =
      [] := by
    rw [List.takeWhile_eq_nil_iff]
    intro hpos h
    have hin := mem_lineStartsFrom (List.get_mem _ ⟨0, hpos⟩)
    exact absurd (of_decide_eq_true h) (Nat.not_le.2 hin.1)
  rw [lineOf, starts_append, List.takeWhile_append_of_pos hbefore, hafter, List.append_nil, List.length_cons,
    length_lineStartsFrom, Nat.add_sub_cancel]

/-- Every offset is on a line, which starts at or before it. -/
theorem exists_start (text : List Char) (offset : Nat) :
    ((ofText text).starts.takeWhile (· ≤ offset)).length ≠ 0 ∧
    ∃ start, (ofText text).lineStart? ((ofText text).lineOf offset) = some start ∧ start ≤ offset := by
  have hfirst : (ofText text).starts.takeWhile (· ≤ offset) =
      0 :: (lineStartsFrom 0 text).takeWhile (· ≤ offset) := by
    exact List.takeWhile_cons_of_pos (decide_eq_true (Nat.zero_le _))
  refine ⟨by simp [hfirst], ?_⟩
  -- the line is that of the last start that is taken
  have hlt : (ofText text).lineOf offset < ((ofText text).starts.takeWhile (· ≤ offset)).length := by
    simp [lineOf, hfirst]
  have hmem := List.getElem_mem hlt
  refine ⟨((ofText text).starts.takeWhile (· ≤ offset))[(ofText text).lineOf offset], ?_, ?_⟩
  · exact List.prefix_iff_getElem?.1 (List.takeWhile_prefix _) _ hlt
  · simpa using List.mem_takeWhile_imp hmem

end LineMap

/-! ### Points of boundaries -/

theorem LineMap.offsetToPoint_of_lineStart? {m : LineMap} {text : List Char} {offset start : Nat}
    (h : m.lineStart? (m.lineOf (min offset (byteLength text))) = some start) :
    m.offsetToPoint text offset = ⟨m.lineOf (min offset (byteLength text)),
      if isBoundary (min offset (byteLength text) - start) (dropBytes start text) = true then
        unitLength (takeBytes (min offset (byteLength text) - start) (dropBytes start text))
      else 0⟩ := by
  rw [lineStart?] at h
  rw [offsetToPoint, List.getD_eq_getElem?_getD, h, Option.getD_some]

theorem lineNumber_byteLength (pre rest : List Char) : lineNumber (pre ++ rest) (byteLength pre) = pre.count '\n' := by
  rw [lineNumber, takeBytes_byteLength]

theorem column_byteLength (pre rest : List Char) :
    column (pre ++ rest) (byteLength pre) = unitLength (lastLine pre) := by
  rw [column, takeBytes_byteLength]

/-- The point of a boundary is its line and its column. -/
theorem LineMap.offsetToPoint_of_boundary {text : List Char} {offset : Nat} (h : isBoundary offset text = true) :
    (ofText text).offsetToPoint text offset = ⟨lineNumber text offset, column text offset⟩ := by
  obtain ⟨pre, rest, rfl, rfl⟩ := isBoundary_iff.1 h
  obtain ⟨before, lead, rfl, hstart, hlead⟩ := exists_line_before pre
  have hmin : min (byteLength (before ++ lead)) (byteLength (before ++ lead ++ rest)) =
      byteLength (before ++ lead) := by
    rw [byteLength_append _ rest]
    exact Nat.min_eq_left (Nat.le_add_right _ _)
  have hcount : (before ++ lead).count '\n' = before.count '\n' := by
    rw [List.count_append, List.count_eq_zero.2 hlead, Nat.add_zero]
  have hline : (ofText (before ++ lead ++ rest)).lineStart? (before.count '\n') = some (byteLength before) := by
    rw [List.append_assoc, lineStart?_of_startsLine (lead ++ rest) hstart]
  rw [← hcount, ← lineOf_byteLength (before ++ lead) rest, ← hmin] at hline
  rw [offsetToPoint_of_lineStart? hline, hmin, lineOf_byteLength, lineNumber_byteLength, column_byteLength,
    hstart.lastLine_append hlead, List.append_assoc, dropBytes_byteLength, byteLength_append,
    Nat.add_sub_cancel_left, isBoundary_byteLength, takeBytes_byteLength, if_pos rfl]

/-- Further on in a text, the point is a later one. -/
theorem point_lt_of_append (pre : List Char) {mid : List Char} (hmid : mid ≠ []) :
    Point.lt ⟨pre.count '\n', unitLength (lastLine pre)⟩
      ⟨(pre ++ mid).count '\n', unitLength (lastLine (pre ++ mid))⟩ = true := by
  simp only [Point.lt, Bool.or_eq_true, Bool.and_eq_true, decide_eq_true_eq, List.count_append]
  by_cases hbreak : '\n' ∈ mid
  · have hpos := List.count_pos_iff.2 hbreak
    exact .inl (by omega)
  · have hpos := unitLength_pos hmid
    rw [lastLine_append_of_notMem pre hbreak, unitLength_append, List.count_eq_zero.2 hbreak]
    exact .inr ⟨rfl, by omega⟩

theorem LineMap.offsetToPoint_lt {text : List Char} {a b : Nat} (ha : isBoundary a text = true)
    (hb : isBoundary b text = true) (hlt : a < b) :
    ((ofText text).offsetToPoint text a).lt ((ofText text).offsetToPoint text b) = true := by
  rw [offsetToPoint_of_boundary ha, offsetToPoint_of_boundary hb]
  obtain ⟨pre, rest, rfl, rfl⟩ := isBoundary_iff.1 ha
  obtain ⟨pre', rest', heq, rfl⟩ := isBoundary_iff.1 hb
  obtain ⟨mid, rfl⟩ := prefix_of_byteLength_le (List.prefix_append pre rest) ⟨rest', heq.symm⟩ hlt.le
  rw [lineNumber_byteLength, column_byteLength, heq, lineNumber_byteLength, column_byteLength]
  refine point_lt_of_append pre fun hmid => ?_
  rw [hmid, List.append_nil] at hlt
  exact lt_irrefl _ hlt

theorem Point.le_of_lt {p q : Point} (h : p.lt q = true) : p.le q = true := by
  simp only [Point.lt, Point.le, Bool.or_eq_true, Bool.and_eq_true, decide_eq_true_eq] at h ⊢
  omega

theorem Point.le_refl (p : Point) : p.le p = true := by simp [Point.le]

/-- The range of a span between boundaries does not run backwards. -/
theorem LineMap.spanToRange_le {text : List Char} {span : Span} (hstart : isBoundary span.start text = true)
    (hstop : isBoundary span.stop text = true) (hle : span.start ≤ span.stop) :
    ((ofText text).spanToRange text span).start.le ((ofText text).spanToRange text span).stop = true := by
  rw [spanToRange]
  rcases Nat.lt_or_eq_of_le hle with hlt | heq
  · exact Point.le_of_lt (offsetToPoint_lt hstart hstop hlt)
  · rw [heq]
    exact Point.le_refl _

/-! ### Offsets of points -/

/-- Nothing more of a line stands at the beginning of a text. -/
def EndsLine (rest : List Char) : Prop := ∀ c ∈ rest.head?, c = '\n' ∨ c = '\r'

/-- Walking along a line stops at the first boundary that is not before the column, or where the line breaks. -/
theorem columnBytes_spec (col seen : Nat) (cs : List Char) : ∃ pre rest, cs = pre ++ rest ∧
    columnBytes col seen cs = byteLength pre ∧ '\n' ∉ pre ∧ '\r' ∉ pre ∧
    (col ≤ seen + unitLength pre ∨ EndsLine rest) ∧
    ∀ q r, pre = q ++ r → r ≠ [] → seen + unitLength q < col := by
  induction cs generalizing seen with
  | nil => exact ⟨[], [], rfl, rfl, List.not_mem_nil, List.not_mem_nil, .inr nofun, by simp⟩
  | cons c cs ih =>
      rw [columnBytes]
      split
      next hstop =>
          simp only [Bool.or_eq_true, decide_eq_true_eq] at hstop
          refine ⟨[], c :: cs, rfl, rfl, List.not_mem_nil, List.not_mem_nil, ?_, by simp⟩
          rcases hstop with (hcol | hbreak) | hbreak
          · exact .inl hcol
          · exact .inr fun _ hd => .inl (Option.some.inj hd ▸ hbreak)
          · exact .inr fun _ hd => .inr (Option.some.inj hd ▸ hbreak)
      next hgo =>
          simp only [Bool.or_eq_true, decide_eq_true_eq, not_or, Nat.not_le] at hgo
          obtain ⟨⟨hcol, hfeed⟩, hreturn⟩ := hgo
          obtain ⟨pre, rest, rfl, hbytes, hn, hr, hend, hfirst⟩ := ih (seen + units c)
          refine ⟨c :: pre, rest, rfl, by rw [hbytes, byteLength_cons], by simp [hn, Ne.symm hfeed],
            by simp [hr, Ne.symm hreturn], by rwa [unitLength_cons, ← Nat.add_assoc], ?_⟩
          intro q r hq hne
          cases q with
          | nil => exact hcol
          | cons d q =>
              obtain ⟨rfl, htail⟩ := List.cons.inj hq
              have hlt := hfirst q r htail hne
              rw [unitLength_cons]
              omega

/-- Walking to the column of a place leads to the place. -/
theorem columnBytes_unitLength (seen : Nat) {lead : List Char} (rest : List Char) (hn : '\n' ∉ lead)
    (hr : '\r' ∉ lead) : columnBytes (seen + unitLength lead) seen (lead ++ rest) = byteLength lead := by
  induction lead generalizing seen with
  | nil => cases rest <;> simp [columnBytes]
  | cons c lead ih =>
      have hc := units_pos c
      obtain ⟨hcn, hn⟩ := not_or.1 (List.mem_cons.not.1 hn)
      obtain ⟨hcr, hr⟩ := not_or.1 (List.mem_cons.not.1 hr)
      have hstep := ih (seen + units c) hn hr
      rw [Nat.add_assoc, ← unitLength_cons] at hstep
      have hgo : ¬ (seen + unitLength (c :: lead) ≤ seen ∨ c = '\n' ∨ c = '\r') := by
        rw [unitLength_cons]
        rintro (hle | hbreak | hbreak)
        · omega
        · exact hcn hbreak.symm
        · exact hcr hbreak.symm
      rw [List.cons_append, columnBytes, hstep, byteLength_cons, if_neg]
      simpa only [Bool.or_eq_true, decide_eq_true_eq, or_assoc] using hgo

theorem LineMap.pointToOffset?_of_startsLine {before : List Char} (rest : List Char) (col : Nat)
    (h : StartsLine before) : (ofText (before ++ rest)).pointToOffset? (before ++ rest) ⟨before.count '\n', col⟩ =
      some (byteLength before + columnBytes col 0 rest) := by
  rw [pointToOffset?, lineStart?_of_startsLine rest h, Option.map_some, dropBytes_byteLength]

/-- The offset that stands for a point: of the boundaries of its line, up to where the line breaks, the first that is
    not before its column, or the last if all are. -/
structure Placed (text : List Char) (p : Point) (offset : Nat) : Prop where
  boundary : isBoundary offset text = true
  on_line : lineNumber text offset = p.line
  before_break : '\r' ∉ lastLine (takeBytes offset text)
  reaches : p.col ≤ column text offset ∨ EndsLine (dropBytes offset text)
  first : ∀ b, isBoundary b text = true → lineNumber text b = p.line → b < offset → column text b < p.col

theorem LineMap.placed_of_pointToOffset? {text : List Char} {p : Point} {offset : Nat}
    (h : (ofText text).pointToOffset? text p = some offset) : Placed text p offset := by
  obtain ⟨start, hline, -⟩ := Option.map_eq_some_iff.1 h
  obtain ⟨before, rest, rfl, hstart, hcount, -⟩ := exists_line_of_lineStart? hline
  obtain ⟨line, col⟩ := p
  subst hcount
  rw [pointToOffset?_of_startsLine rest col hstart] at h
  obtain ⟨pre, rest, rfl, hbytes, hn, hr, hend, hfirst⟩ := columnBytes_spec col 0 rest
  rw [hbytes, ← byteLength_append] at h
  obtain rfl := Option.some.inj h
  rw [← List.append_assoc]
  simp only [Nat.zero_add] at hend hfirst
  refine ⟨isBoundary_byteLength _ _, ?_, ?_, ?_, ?_⟩
  · rw [lineNumber_byteLength, List.count_append, List.count_eq_zero.2 hn, Nat.add_zero]
  · rwa [takeBytes_byteLength, hstart.lastLine_append hn]
  · rwa [column_byteLength, hstart.lastLine_append hn, dropBytes_byteLength]
  · intro b hb hbline hlt
    obtain ⟨q, r, heq, rfl⟩ := isBoundary_iff.1 hb
    rw [heq] at hbline ⊢
    rw [lineNumber_byteLength] at hbline
    rw [column_byteLength]
    -- an earlier boundary of the line lies between the start of the line and the offset
    have hq : q <+: before ++ pre ++ rest := ⟨r, heq.symm⟩
    have hbefore : before <+: before ++ pre ++ rest := ⟨pre ++ rest, (List.append_assoc _ _ _).symm⟩
    obtain ⟨lead, rfl⟩ := hstart.prefix_of_count hbefore hq hbline
    obtain ⟨mid, hmid⟩ := prefix_of_byteLength_le hq (List.prefix_append (before ++ pre) rest) hlt.le
    rw [List.append_assoc] at hmid
    have hpre : pre = lead ++ mid := (List.append_cancel_left hmid).symm
    rw [hstart.lastLine_append fun hmem => hn (hpre ▸ List.mem_append_left mid hmem)]
    refine hfirst lead mid hpre fun hnil => ?_
    rw [hpre, hnil, List.append_nil] at hlt
    exact lt_irrefl _ hlt

theorem LineMap.pointToOffset?_eq_none_iff (text : List Char) (p : Point) :
    (ofText text).pointToOffset? text p = none ↔ (ofText text).lineCount ≤ p.line := by
  rw [pointToOffset?, Option.map_eq_none_iff, lineStart?, List.getElem?_eq_none_iff, lineCount]

/-- To its point and back leads to the same boundary. -/
theorem LineMap.pointToOffset?_offsetToPoint {text : List Char} {offset : Nat} (h : isBoundary offset text = true)
    (hreturn : '\r' ∉ lastLine (takeBytes offset text)) :
    (ofText text).pointToOffset? text ((ofText text).offsetToPoint text offset) = some offset := by
  rw [offsetToPoint_of_boundary h]
  obtain ⟨pre, rest, rfl, rfl⟩ := isBoundary_iff.1 h
  obtain ⟨before, lead, rfl, hstart, hlead⟩ := exists_line_before pre
  rw [takeBytes_byteLength, hstart.lastLine_append hlead] at hreturn
  have hline := columnBytes_unitLength 0 rest hlead hreturn
  rw [Nat.zero_add] at hline
  rw [lineNumber_byteLength, column_byteLength, hstart.lastLine_append hlead, List.count_append,
    List.count_eq_zero.2 hlead, Nat.add_zero, List.append_assoc, pointToOffset?_of_startsLine _ _ hstart, hline,
    byteLength_append]

/-! ### Reading with checks -/

/-- The text under a span, if its ends are boundaries in order. -/
def slice? (span : Span) (text : List Char) : Option (List Char) :=
  if span.start ≤ span.stop ∧ isBoundary span.start text = true ∧ isBoundary span.stop text = true then
    some (span.slice text)
  else none

/-- The point of a byte offset, if no line is before the first one or missing. -/
def LineMap.tryOffsetToPoint (m : LineMap) (text : List Char) (offset : Nat) : Option Point :=
  let offset := min offset (byteLength text)
  let passed := (m.starts.takeWhile (· ≤ offset)).length
  if passed = 0 then none
  else (m.lineStart? (passed - 1)).map fun start =>
    ⟨passed - 1, ((slice? ⟨start, offset⟩ text).map unitLength).getD 0⟩

/-- The byte offset of a point, if the line does not start inside a character or past the end of the text. -/
def LineMap.tryPointToOffset (m : LineMap) (text : List Char) (p : Point) : Option (Option Nat) :=
  match m.lineStart? p.line with
  | none => some none
  | some start => (dropBytes? start text).map fun rest => some (start + columnBytes p.col 0 rest)

theorem LineMap.tryOffsetToPoint_eq_some (text : List Char) (offset : Nat) :
    (ofText text).tryOffsetToPoint text offset = some ((ofText text).offsetToPoint text offset) := by
  obtain ⟨hpassed, start, hline, hle⟩ := exists_start text (min offset (byteLength text))
  simp only [tryOffsetToPoint, if_neg hpassed]
  rw [← lineOf, offsetToPoint_of_lineStart? hline, hline, Option.map_some]
  generalize min offset (byteLength text) = offset at hle hline
  obtain ⟨before, rest, rfl, -, -, rfl⟩ := exists_line_of_lineStart? hline
  obtain ⟨n, rfl⟩ := Nat.exists_eq_add_of_le hle
  rw [dropBytes_byteLength, Nat.add_sub_cancel_left]
  by_cases hn : isBoundary n rest = true
  · have hslice : slice? ⟨byteLength before, byteLength before + n⟩ (before ++ rest) = some (takeBytes n rest) := by
      rw [slice?, if_pos ⟨hle, isBoundary_byteLength _ _, by rwa [isBoundary_append]⟩, Span.slice,
        dropBytes_byteLength, Nat.add_sub_cancel_left]
    rw [hslice, if_pos hn, Option.map_some, Option.getD_some]
  · have hslice : slice? ⟨byteLength before, byteLength before + n⟩ (before ++ rest) = none := by
      rw [slice?, if_neg fun h => hn (by rw [← h.2.2, isBoundary_append])]
    rw [hslice, if_neg hn, Option.map_none, Option.getD_none]

theorem LineMap.tryPointToOffset_eq_some (text : List Char) (p : Point) :
    (ofText text).tryPointToOffset text p = some ((ofText text).pointToOffset? text p) := by
  rw [tryPointToOffset, pointToOffset?]
  cases hline : (ofText text).lineStart? p.line with
  | none => rfl
  | some start =>
      dsimp only
      obtain ⟨before, rest, rfl, -, -, rfl⟩ := exists_line_of_lineStart? hline
      rw [Option.map_some, dropBytes?, if_pos (isBoundary_byteLength before rest), Option.map_some]

/-! ### Size -/

theorem byteLength_dropBytes_le (n : Nat) (cs : List Char) : byteLength (dropBytes n cs) ≤ byteLength cs := by
  induction cs generalizing n with
  | nil => exact Nat.le_refl _
  | cons c cs ih =>
      rw [dropBytes]
      split
      next => exact Nat.le_refl _
      next => exact (ih _).trans (Nat.le_add_left _ _)

theorem byteLength_takeBytes_le (n : Nat) (cs : List Char) : byteLength (takeBytes n cs) ≤ byteLength cs := by
  induction cs generalizing n with
  | nil => exact Nat.le_refl _
  | cons c cs ih =>
      rw [takeBytes]
      split
      next => exact Nat.add_le_add_left (ih _) _
      next => exact Nat.zero_le _

/-- Lines and columns are at most as many as bytes. -/
theorem LineMap.offsetToPoint_le_byteLength (text : List Char) (offset : Nat) :
    ((ofText text).offsetToPoint text offset).line ≤ byteLength text ∧
    ((ofText text).offsetToPoint text offset).col ≤ byteLength text := by
  obtain ⟨-, start, hline, -⟩ := exists_start text (min offset (byteLength text))
  refine ⟨?_, ?_⟩
  · have hlt : (ofText text).lineOf (min offset (byteLength text)) < (ofText text).lineCount :=
      (List.getElem?_eq_some_iff.1 hline).1
    rw [lineCount_ofText] at hlt
    have hcount := (List.count_le_length (a := '\n') (l := text)).trans (length_le_byteLength text)
    simp only [offsetToPoint]
    omega
  · simp only [offsetToPoint]
    split
    next =>
        exact (unitLength_le_byteLength _).trans
          ((byteLength_takeBytes_le _ _).trans (byteLength_dropBytes_le _ _))
    next => exact Nat.zero_le _

/-! ### Both ways -/

/-- A point past the last line has no offset; any other has the one that stands for it. A boundary comes back from its
    point unless a carriage return stands before it on its line, points keep the order of boundaries, and neither way
    looks outside the text or inside a character. Lines and columns fit their size. -/
theorem LineMap.points_and_offsets_agree (text : List Char) (hsize : byteLength text < 4294967296) :
    ((ofText text).starts.Pairwise (· < ·) ∧ (ofText text).lineCount = text.count '\n' + 1 ∧
      ∀ p, (ofText text).pointToOffset? text p = none ↔ (ofText text).lineCount ≤ p.line) ∧
    (∀ p offset, (ofText text).pointToOffset? text p = some offset → Placed text p offset) ∧
    (∀ offset, isBoundary offset text = true → (ofText text).offsetToPoint text offset =
      ⟨lineNumber text offset, column text offset⟩) ∧
    (∀ offset, isBoundary offset text = true → '\r' ∉ lastLine (takeBytes offset text) →
      (ofText text).pointToOffset? text ((ofText text).offsetToPoint text offset) = some offset) ∧
    (∀ a b, isBoundary a text = true → isBoundary b text = true → a < b →
      ((ofText text).offsetToPoint text a).lt ((ofText text).offsetToPoint text b) = true) ∧
    (∀ span : Span, isBoundary span.start text = true → isBoundary span.stop text = true → span.start ≤ span.stop →
      ((ofText text).spanToRange text span).start.le ((ofText text).spanToRange text span).stop = true) ∧
    (∀ offset, (ofText text).tryOffsetToPoint text offset = some ((ofText text).offsetToPoint text offset)) ∧
    (∀ p, (ofText text).tryPointToOffset text p = some ((ofText text).pointToOffset? text p)) ∧
    ∀ offset, ((ofText text).offsetToPoint text offset).line ≤ maxCoordinate ∧
      ((ofText text).offsetToPoint text offset).col ≤ maxCoordinate := by
  refine ⟨⟨starts_pairwise text, lineCount_ofText text, pointToOffset?_eq_none_iff text⟩,
    fun _ _ => placed_of_pointToOffset?, fun _ => offsetToPoint_of_boundary, fun _ => pointToOffset?_offsetToPoint,
    fun _ _ => offsetToPoint_lt, fun _ => spanToRange_le, tryOffsetToPoint_eq_some text,
    tryPointToOffset_eq_some text, fun offset => ?_⟩
  obtain ⟨hline, hcol⟩ := offsetToPoint_le_byteLength text offset
  rw [maxCoordinate]
  omega

/-- Characters of two and of four bytes, a carriage return before a line feed, and an empty last line. -/
def mixedLines : List Char := ['é', '😀', 'x', '\r', '\n', 'a', 'b', '\n']

/-- A column inside a pair of units means the place after the pair, one past the end the carriage return. -/
theorem LineMap.points_and_offsets_of_mixedLines : byteLength mixedLines < 4294967296 ∧
    (isBoundary 6 mixedLines = true ∧ '\r' ∉ lastLine (takeBytes 6 mixedLines)) ∧
    (ofText mixedLines).pointToOffset? mixedLines ⟨0, 2⟩ = some 6 ∧ Placed mixedLines ⟨0, 2⟩ 6 ∧
    (ofText mixedLines).pointToOffset? mixedLines ⟨0, 9⟩ = some 7 ∧ Placed mixedLines ⟨0, 9⟩ 7 ∧
    (ofText mixedLines).pointToOffset? mixedLines ⟨3, 0⟩ = none ∧
    (ofText mixedLines).pointToOffset? mixedLines ((ofText mixedLines).offsetToPoint mixedLines 6) = some 6 ∧
    ((ofText mixedLines).offsetToPoint mixedLines 6).lt ((ofText mixedLines).offsetToPoint mixedLines 9) = true := by
  have hsize : byteLength mixedLines < 4294967296 := by decide
  have hboundary : isBoundary 6 mixedLines = true := by decide
  have hreturn : '\r' ∉ lastLine (takeBytes 6 mixedLines) := by decide
  have hpair : (ofText mixedLines).pointToOffset? mixedLines ⟨0, 2⟩ = some 6 := by decide
  have hpast : (ofText mixedLines).pointToOffset? mixedLines ⟨0, 9⟩ = some 7 := by decide
  obtain ⟨⟨-, -, hnone⟩, hplaced, -, hback, horder, -⟩ := points_and_offsets_agree mixedLines hsize
  exact ⟨hsize, ⟨hboundary, hreturn⟩, hpair, hplaced _ _ hpair, hpast, hplaced _ _ hpast,
    (hnone ⟨3, 0⟩).2 (by decide), hback 6 hboundary hreturn, horder 6 9 hboundary (by decide) (by decide)⟩

end PlaybookServer.Text
