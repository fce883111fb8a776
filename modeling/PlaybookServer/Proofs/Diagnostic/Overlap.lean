/-
Module: PlaybookServer.Proofs.Diagnostic.Overlap
Purpose: Which diagnostics collapse, without regard to the order in which they are visited. A range gives way to
  one that it meets and that starts later, or starts with it and ends earlier. The loop over the visiting order
  collapses exactly the diagnostics whose ranges give way to some other: those visited before have collapsed by
  the time they could matter, and those visited later are still as they were.
Main exports: GivesWay, Collapses, collapseOverlapping_eq_map
-/
import Mathlib.Logic.Equiv.Defs
import Mathlib.Data.List.TakeWhile
import PlaybookServer.Diagnostic.Structural

namespace PlaybookServer

open Text (Point Range)

/-! ### Points and ranges -/

theorem point_le_iff (a b : Point) : a.le b ↔ a.line < b.line ∨ a.line = b.line ∧ a.col ≤ b.col := by
  simp [Point.le]

theorem point_lt_iff (a b : Point) : a.lt b ↔ a.line < b.line ∨ a.line = b.line ∧ a.col < b.col := by
  simp [Point.lt]

theorem point_eq_iff (a b : Point) : a = b ↔ a.line = b.line ∧ a.col = b.col := by
  cases a
  cases b
  simp

theorem range_eq_iff (r s : Range) : r = s ↔ r.start = s.start ∧ r.stop = s.stop := by
  cases r
  cases s
  simp

theorem not_isEmpty_iff (r : Range) : r.isEmpty = false ↔ r.start ≠ r.stop := by
  simp [Range.isEmpty]

/-- Two closed ranges have a point in common. -/
def Meets (r s : Range) : Prop := s.start.le r.stop ∧ r.start.le s.stop

/-- One range gives way to another: both cover something, they meet, and the other starts later, or starts at
    the same point and ends earlier. -/
def GivesWay (r s : Range) : Prop :=
  r.start ≠ r.stop ∧ s.start ≠ s.stop ∧ Meets r s ∧
    (r.start.lt s.start ∨ s.start = r.start ∧ s.stop.lt r.stop)

instance (r s : Range) : Decidable (Meets r s) := inferInstanceAs (Decidable (_ ∧ _))

instance (r s : Range) : Decidable (GivesWay r s) := inferInstanceAs (Decidable (_ ∧ _))

theorem Meets.symm {r s : Range} (h : Meets r s) : Meets s r := ⟨h.2, h.1⟩

/-- Of two different ranges that meet, the one that is visited first gives way. -/
theorem givesWay_of_visitsBefore {r s : Range} (hr : r.start ≠ r.stop) (hs : s.start ≠ s.stop)
    (hmeets : Meets r s) (hne : r ≠ s) (hvisit : visitsBefore r s) : GivesWay r s := by
  refine ⟨hr, hs, hmeets, ?_⟩
  simp only [visitsBefore, Bool.or_eq_true, Bool.and_eq_true, decide_eq_true_eq, point_lt_iff, point_le_iff,
    point_eq_iff, ne_eq, range_eq_iff] at *
  omega

/-- What is visited later never gives way to what was visited before. -/
theorem GivesWay.not_visitsBefore {r s : Range} (h : GivesWay r s) : ¬ visitsBefore s r := by
  obtain ⟨-, -, -, horder⟩ := h
  simp only [visitsBefore, Bool.or_eq_true, Bool.and_eq_true, decide_eq_true_eq, point_lt_iff, point_le_iff,
    point_eq_iff] at *
  omega

theorem GivesWay.ne {r s : Range} (h : GivesWay r s) : r ≠ s := by
  rintro rfl
  apply h.not_visitsBefore
  simp [visitsBefore, Point.le]

theorem visitsBefore_total (r s : Range) : visitsBefore r s || visitsBefore s r := by
  simp only [visitsBefore, Bool.or_eq_true, Bool.and_eq_true, decide_eq_true_eq, point_lt_iff, point_le_iff,
    point_eq_iff]
  omega

theorem visitsBefore_trans {r s t : Range} (hrs : visitsBefore r s) (hst : visitsBefore s t) :
    visitsBefore r t := by
  simp only [visitsBefore, Bool.or_eq_true, Bool.and_eq_true, decide_eq_true_eq, point_lt_iff, point_le_iff,
    point_eq_iff] at *
  omega

/-- Of two different ranges that meet, one gives way to the other. -/
theorem givesWay_or_givesWay {r s : Range} (hr : r.start ≠ r.stop) (hs : s.start ≠ s.stop)
    (hmeets : Meets r s) (hne : r ≠ s) : GivesWay r s ∨ GivesWay s r := by
  rcases Bool.or_eq_true_iff.1 (visitsBefore_total r s) with hvisit | hvisit
  · exact Or.inl (givesWay_of_visitsBefore hr hs hmeets hne hvisit)
  · exact Or.inr (givesWay_of_visitsBefore hs hr hmeets.symm (Ne.symm hne) hvisit)

/-! ### The index -/

namespace IntervalIndex

theorem entryLe_total (a b : Range × Nat) : entryLe a b || entryLe b a := by
  simp only [entryLe, Bool.or_eq_true, Bool.and_eq_true, decide_eq_true_eq, point_lt_iff, point_eq_iff]
  omega

theorem entryLe_trans (a b c : Range × Nat) (hab : entryLe a b) (hbc : entryLe b c) : entryLe a c := by
  simp only [entryLe, Bool.or_eq_true, Bool.and_eq_true, decide_eq_true_eq, point_lt_iff, point_eq_iff] at *
  omega

theorem start_le_of_entryLe {a b : Range × Nat} {p : Point} (hab : entryLe a b) (hb : b.1.start.le p) :
    a.1.start.le p := by
  simp only [entryLe, Bool.or_eq_true, Bool.and_eq_true, decide_eq_true_eq, point_lt_iff, point_le_iff,
    point_eq_iff] at *
  omega

/-- In an ordered list of entries, what starts in time stands at the front. -/
theorem mem_takeWhile_of_start_le {entries : List (Range × Nat)} {p : Point} {e : Range × Nat}
    (hsorted : entries.Pairwise fun a b => entryLe a b) (he : e ∈ entries) (hstart : e.1.start.le p) :
    e ∈ entries.takeWhile fun x => x.1.start.le p := by
  induction entries with
  | nil => exact absurd he List.not_mem_nil
  | cons a entries ih =>
      obtain ⟨hfirst, hrest⟩ := List.pairwise_cons.1 hsorted
      rcases List.mem_cons.1 he with rfl | he
      · rw [List.takeWhile_cons_of_pos (by exact hstart)]
        exact List.mem_cons_self
      · have ha : a.1.start.le p := start_le_of_entryLe (hfirst e he) hstart
        rw [List.takeWhile_cons_of_pos (by exact ha)]
        exact List.mem_cons_of_mem a (ih hrest he)

/-- The index names exactly the positions of the ranges that meet the given one. -/
theorem mem_overlapping (ranges : List Range) (r : Range) (i : Nat) :
    i ∈ (ofRanges ranges).overlapping r ↔ ∃ s, ranges[i]? = some s ∧ Meets r s := by
  have hsorted : (ofRanges ranges).entries.Pairwise fun a b => entryLe a b :=
    List.pairwise_mergeSort entryLe_trans entryLe_total _
  have hmem : ∀ e, e ∈ (ofRanges ranges).entries ↔ ranges[e.2]? = some e.1 := fun e =>
    List.mem_mergeSort.trans List.mem_zipIdx_iff_getElem?
  simp only [overlapping, List.mem_map, List.mem_filter]
  constructor
  · rintro ⟨⟨s, j⟩, ⟨htake, hstop⟩, rfl⟩
    have hstart : s.start.le r.stop := by simpa using List.mem_takeWhile_imp htake
    exact ⟨s, (hmem _).1 (List.takeWhile_subset _ htake), hstart, hstop⟩
  · rintro ⟨s, hs, hstart, hstop⟩
    exact ⟨(s, i), ⟨mem_takeWhile_of_start_le hsorted ((hmem (s, i)).2 hs) hstart, hstop⟩, rfl⟩

end IntervalIndex

/-! ### The loop -/

/-- A diagnostic collapses among others: its range gives way to one of theirs. -/
def Collapses (ds : List Diagnostic) (d : Diagnostic) : Prop := ∃ e ∈ ds, GivesWay d.range e.range

instance (ds : List Diagnostic) (d : Diagnostic) : Decidable (Collapses ds d) :=
  inferInstanceAs (Decidable (∃ e ∈ ds, _))

/-- The diagnostic at one position is not visited after the one at another. -/
def VisitedFirst (ds : List Diagnostic) (i j : Nat) : Prop :=
  ∀ d e, ds[i]? = some d → ds[j]? = some e → visitsBefore d.range e.range

namespace Collapsing

/-- How the diagnostics stand once the given positions were visited: those of them that give way have
    collapsed, and nothing else has changed. -/
structure Visited (uri : Url) (ds : List Diagnostic) (done : List Nat) (c : Collapsing) : Prop where
  mem_collapsed : ∀ i, i ∈ c.collapsed ↔ i ∈ done ∧ ∃ d, ds[i]? = some d ∧ Collapses ds d
  getElem?_diagnostics : ∀ i, c.diagnostics[i]? =
    ds[i]?.map fun d => if i ∈ c.collapsed then d.collapse uri else d

theorem Visited.start (uri : Url) (ds : List Diagnostic) : Visited uri ds [] { diagnostics := ds } where
  mem_collapsed i := by simp
  getElem?_diagnostics i := by simp

section Step

variable {uri : Url} {ds : List Diagnostic} {done : List Nat} {c : Collapsing}

theorem Visited.getElem?_of_not_mem (h : Visited uri ds done c) {i : Nat} (hi : i ∉ c.collapsed) :
    c.diagnostics[i]? = ds[i]? := by
  rw [h.getElem?_diagnostics]
  simp [hi]

theorem Visited.counts_iff (h : Visited uri ds done c) (r : Range) (j : Nat) :
    c.counts r j ↔
      j ∉ c.collapsed ∧ ∃ e, ds[j]? = some e ∧ e.range.start ≠ e.range.stop ∧ e.range ≠ r := by
  simp only [counts, Bool.and_eq_true, Bool.not_eq_true', List.elem_eq_mem, decide_eq_false_iff_not]
  refine and_congr_right fun hj => ?_
  rw [h.getElem?_of_not_mem hj]
  cases hget : ds[j]? with
  | none => simp
  | some e => simp [not_isEmpty_iff]

/-- The test of the loop is the rule. A diagnostic visited before that meets this one, differs from it and has
    not collapsed would itself give way to this one, so it has collapsed; and one that this one gives way to is
    still to be visited, so it has not. -/
theorem Visited.overlapping_any_iff (h : Visited uri ds done c) {current : Nat} {d : Diagnostic}
    (hget : ds[current]? = some d) (hd : d.range.start ≠ d.range.stop)
    (hbefore : ∀ j ∈ done, VisitedFirst ds j current)
    (hafter : ∀ j, j ∉ done → VisitedFirst ds current j) :
    (((IntervalIndex.ofRanges (ds.map Diagnostic.range)).overlapping d.range).any fun other =>
      other ≠ current && c.counts d.range other) = true ↔ Collapses ds d := by
  simp only [List.any_eq_true, IntervalIndex.mem_overlapping, Bool.and_eq_true, decide_eq_true_eq,
    h.counts_iff, List.getElem?_map, Option.map_eq_some_iff]
  constructor
  · rintro ⟨j, ⟨-, ⟨e, he, rfl⟩, hmeets⟩, -, hopen, e', he', hcovers, hne⟩
    obtain rfl : e = e' := Option.some.inj (he.symm.trans he')
    by_cases hdone : j ∈ done
    · have hway : GivesWay e.range d.range :=
        givesWay_of_visitsBefore hcovers hd hmeets.symm hne (hbefore j hdone e d he hget)
      have hcollapsed : j ∈ c.collapsed :=
        (h.mem_collapsed j).2 ⟨hdone, e, he, d, List.mem_of_getElem? hget, hway⟩
      exact absurd hcollapsed hopen
    · exact ⟨e, List.mem_of_getElem? he,
        givesWay_of_visitsBefore hd hcovers hmeets (Ne.symm hne) (hafter j hdone d e hget he)⟩
  · rintro ⟨e, he, hway⟩
    obtain ⟨j, hj⟩ := List.mem_iff_getElem?.1 he
    have hdone : j ∉ done := fun hdone => hway.not_visitsBefore (hbefore j hdone e d hj hget)
    have hopen : j ∉ c.collapsed := fun hcollapsed => hdone ((h.mem_collapsed j).1 hcollapsed).1
    have hother : j ≠ current := by
      rintro rfl
      obtain rfl : d = e := Option.some.inj (hget.symm.trans hj)
      exact hway.ne rfl
    exact ⟨j, ⟨e.range, ⟨e, hj, rfl⟩, hway.2.2.1⟩, hother, hopen, e, hj, hway.2.1, Ne.symm hway.ne⟩

/-- A visit to a diagnostic that does not give way changes nothing. -/
theorem Visited.stays (h : Visited uri ds done c) {current : Nat}
    (hnone : ∀ d, ds[current]? = some d → ¬ Collapses ds d) : Visited uri ds (current :: done) c := by
  refine ⟨fun i => ?_, h.getElem?_diagnostics⟩
  rw [h.mem_collapsed, List.mem_cons]
  constructor
  · rintro ⟨hi, hd⟩
    exact ⟨Or.inr hi, hd⟩
  · rintro ⟨rfl | hi, d, hd, hcollapses⟩
    · exact absurd hcollapses (hnone d hd)
    · exact ⟨hi, d, hd, hcollapses⟩

/-- A visit to a diagnostic that gives way collapses it and leaves the others. -/
theorem Visited.collapses (h : Visited uri ds done c) {current : Nat} {d : Diagnostic}
    (hopen : current ∉ c.collapsed) (hget : ds[current]? = some d) (hcollapses : Collapses ds d) :
    Visited uri ds (current :: done)
      { diagnostics := c.diagnostics.set current (d.collapse uri), collapsed := current :: c.collapsed } where
  mem_collapsed i := by
    rw [List.mem_cons, List.mem_cons, h.mem_collapsed]
    constructor
    · rintro (rfl | ⟨hi, hd⟩)
      · exact ⟨Or.inl rfl, d, hget, hcollapses⟩
      · exact ⟨Or.inr hi, hd⟩
    · rintro ⟨rfl | hi, hd⟩
      · exact Or.inl rfl
      · exact Or.inr ⟨hi, hd⟩
  getElem?_diagnostics i := by
    by_cases hi : i = current
    · subst hi
      have hlt : i < c.diagnostics.length :=
        (List.getElem?_eq_some_iff.1 ((h.getElem?_of_not_mem hopen).trans hget)).1
      simp [hget, hlt]
    · rw [List.getElem?_set_ne (Ne.symm hi), h.getElem?_diagnostics]
      simp [hi]

/-- What one visit does, when those visited before come first in the visiting order and all others later. -/
theorem Visited.visit (h : Visited uri ds done c) {current : Nat} (hnew : current ∉ done)
    (hbefore : ∀ j ∈ done, VisitedFirst ds j current)
    (hafter : ∀ j, j ∉ done → VisitedFirst ds current j) :
    Visited uri ds (current :: done)
      (c.visit uri (IntervalIndex.ofRanges (ds.map Diagnostic.range)) current) := by
  have hopen : current ∉ c.collapsed := fun hc => hnew ((h.mem_collapsed current).1 hc).1
  unfold Collapsing.visit
  rw [h.getElem?_of_not_mem hopen]
  cases hget : ds[current]? with
  | none => exact h.stays fun d hd => absurd (hget.symm.trans hd) (by simp)
  | some d =>
      have honly : ∀ d', ds[current]? = some d' → d' = d := fun d' hd' =>
        Option.some.inj (hd'.symm.trans hget)
      dsimp only
      by_cases hd : d.range.start = d.range.stop
      · have hempty : d.range.isEmpty = true := by simp [Range.isEmpty, hd]
        rw [hempty, Bool.not_true, Bool.false_and, if_neg Bool.false_ne_true]
        refine h.stays fun d' hd' => ?_
        rw [honly d' hd']
        rintro ⟨e, -, hway⟩
        exact hway.1 hd
      · have hrule := h.overlapping_any_iff hget hd hbefore hafter
        rw [(not_isEmpty_iff d.range).2 hd, Bool.not_false, Bool.true_and]
        split
        next hany => exact h.collapses hopen hget (hrule.1 hany)
        next hany =>
            refine h.stays fun d' hd' => ?_
            rw [honly d' hd']
            exact fun hcollapses => hany (hrule.2 hcollapses)

/-- What a whole run does. The positions visited so far and those still to come are all there are, in the
    visiting order. -/
theorem Visited.run {rest : List Nat} (h : Visited uri ds done c)
    (hbefore : ∀ i ∈ rest, ∀ j ∈ done, VisitedFirst ds j i)
    (hrest : rest.Pairwise (VisitedFirst ds)) (hnodup : rest.Nodup) (hdisjoint : ∀ i ∈ rest, i ∉ done)
    (hall : ∀ i, i < ds.length → i ∈ done ∨ i ∈ rest) :
    Visited uri ds (rest.reverse ++ done)
      (rest.foldl (Collapsing.visit uri (IntervalIndex.ofRanges (ds.map Diagnostic.range))) c) := by
  induction rest generalizing done c with
  | nil => exact h
  | cons current rest ih =>
      obtain ⟨hfirst, hlater⟩ := List.pairwise_cons.1 hrest
      obtain ⟨hnew, hnodup⟩ := List.nodup_cons.1 hnodup
      have hafter : ∀ j, j ∉ done → VisitedFirst ds current j := by
        intro j hj d e hd he
        rcases hall j (List.getElem?_eq_some_iff.1 he).1 with hdone | hcome
        · exact absurd hdone hj
        · rcases List.mem_cons.1 hcome with rfl | hcome
          · obtain rfl : d = e := Option.some.inj (hd.symm.trans he)
            simp [visitsBefore, Point.le]
          · exact hfirst j hcome d e hd he
      have hstep := h.visit (hdisjoint current List.mem_cons_self)
        (hbefore current List.mem_cons_self) hafter
      rw [List.foldl_cons, List.reverse_cons, List.append_assoc]
      refine ih hstep ?_ hlater hnodup ?_ ?_
      · intro i hi j hj
        rcases List.mem_cons.1 hj with rfl | hj
        · exact hfirst i hi
        · exact hbefore i (List.mem_cons_of_mem current hi) j hj
      · intro i hi hmem
        rcases List.mem_cons.1 hmem with rfl | hmem
        · exact hnew hi
        · exact hdisjoint i (List.mem_cons_of_mem current hi) hmem
      · intro i hi
        rcases hall i hi with hdone | hcome
        · exact Or.inl (List.mem_cons_of_mem current hdone)
        · rcases List.mem_cons.1 hcome with rfl | hcome
          · exact Or.inl List.mem_cons_self
          · exact Or.inr hcome

end Step

end Collapsing

/-! ### The visiting order -/

theorem visitingOrder_perm (ranges : List Range) :
    (visitingOrder ranges).Perm (List.range ranges.length) := by
  have hperm : (visitingOrder ranges).Perm (ranges.zipIdx.map Prod.snd) :=
    (List.mergeSort_perm _ _).map Prod.snd
  rwa [List.zipIdx_map_snd, ← List.range_eq_range'] at hperm

theorem visitingOrder_pairwise (ds : List Diagnostic) :
    (visitingOrder (ds.map Diagnostic.range)).Pairwise (VisitedFirst ds) := by
  let ranges := ds.map Diagnostic.range
  have hsorted : (ranges.zipIdx.mergeSort fun a b => visitsBefore a.1 b.1).Pairwise
      fun a b => visitsBefore a.1 b.1 := by
    apply List.pairwise_mergeSort
    · intro a b c hab hbc
      exact visitsBefore_trans hab hbc
    · intro a b
      exact visitsBefore_total a.1 b.1
  refine List.pairwise_map.2 (hsorted.imp_of_mem ?_)
  intro a b ha hb hvisit d e hd he
  rw [List.mem_mergeSort, List.mem_zipIdx_iff_getElem?, List.getElem?_map] at ha hb
  have hdr : d.range = a.1 := Option.some.inj ((congrArg (Option.map Diagnostic.range) hd).symm.trans ha)
  have her : e.range = b.1 := Option.some.inj ((congrArg (Option.map Diagnostic.range) he).symm.trans hb)
  rw [hdr, her]
  exact hvisit

/-- The loop follows the rule: every diagnostic whose range gives way to another collapses, and the others
    stay. -/
theorem collapseOverlapping_eq_map (uri : Url) (ds : List Diagnostic) :
    collapseOverlapping uri ds = ds.map fun d => if Collapses ds d then d.collapse uri else d := by
  have hperm := visitingOrder_perm (ds.map Diagnostic.range)
  rw [List.length_map] at hperm
  have hrun := (Collapsing.Visited.start uri ds).run (fun _ _ _ hj => absurd hj List.not_mem_nil)
    (visitingOrder_pairwise ds) (hperm.nodup_iff.2 List.nodup_range)
    (fun _ _ => List.not_mem_nil) (fun i hi => Or.inr (hperm.mem_iff.2 (List.mem_range.2 hi)))
  rw [List.append_nil] at hrun
  apply List.ext_getElem?
  intro i
  rw [List.getElem?_map, collapseOverlapping, hrun.getElem?_diagnostics]
  cases hget : ds[i]? with
  | none => rfl
  | some d =>
      have hi : i ∈ (visitingOrder (ds.map Diagnostic.range)).reverse := by
        rw [List.mem_reverse, hperm.mem_iff, List.mem_range]
        exact (List.getElem?_eq_some_iff.1 hget).1
      have hiff : i ∈ (List.foldl (Collapsing.visit uri (IntervalIndex.ofRanges (ds.map Diagnostic.range)))
          { diagnostics := ds } (visitingOrder (ds.map Diagnostic.range))).collapsed ↔ Collapses ds d := by
        rw [hrun.mem_collapsed, hget]
        simp [hi]
      simp only [Option.map_some, hiff]

/-! ### What follows from the rule -/

/-- Whatever has collapsed, structural diagnostics say where they come from. -/
theorem source_of_mem_structuralDiagnostics {uri : Url} {text : String} {d : Diagnostic}
    (h : d ∈ structuralDiagnostics uri text) : d.source = structuralSource := by
  rw [structuralDiagnostics, collapseOverlapping_eq_map, List.mem_map] at h
  obtain ⟨e, he, rfl⟩ := h
  obtain ⟨f, -, rfl⟩ := List.mem_map.1 he
  split
  next => rfl
  next => rfl

/-- Whether a diagnostic collapses depends on which others there are, not on where they stand. -/
theorem collapses_congr {ds ds' : List Diagnostic} (h : ∀ e, e ∈ ds ↔ e ∈ ds') (d : Diagnostic) :
    Collapses ds d ↔ Collapses ds' d := by
  simp only [Collapses, h]

/-- What still covers something afterwards was there before and does not give way. -/
theorem mem_of_mem_collapseOverlapping {uri : Url} {ds : List Diagnostic} {d : Diagnostic}
    (hd : d ∈ collapseOverlapping uri ds) (hcovers : d.range.start ≠ d.range.stop) :
    d ∈ ds ∧ ¬ Collapses ds d := by
  rw [collapseOverlapping_eq_map, List.mem_map] at hd
  obtain ⟨e, he, rfl⟩ := hd
  split at hcovers
  next => exact absurd rfl hcovers
  next hstays =>
      rw [if_neg hstays]
      exact ⟨he, hstays⟩

theorem collapseOverlapping_separates {uri : Url} {ds : List Diagnostic} {a b : Diagnostic}
    (ha : a ∈ collapseOverlapping uri ds) (hb : b ∈ collapseOverlapping uri ds)
    (hacovers : a.range.start ≠ a.range.stop) (hbcovers : b.range.start ≠ b.range.stop)
    (hmeets : Meets a.range b.range) : a.range = b.range := by
  obtain ⟨ha, hastays⟩ := mem_of_mem_collapseOverlapping ha hacovers
  obtain ⟨hb, hbstays⟩ := mem_of_mem_collapseOverlapping hb hbcovers
  by_contra hne
  rcases givesWay_or_givesWay hacovers hbcovers hmeets hne with hway | hway
  · exact hastays ⟨b, hb, hway⟩
  · exact hbstays ⟨a, ha, hway⟩

theorem collapseOverlapping_idem (uri uri' : Url) (ds : List Diagnostic) :
    collapseOverlapping uri' (collapseOverlapping uri ds) = collapseOverlapping uri ds := by
  have hstays : ∀ d ∈ collapseOverlapping uri ds, ¬ Collapses (collapseOverlapping uri ds) d := by
    rintro d hd ⟨e, he, hway⟩
    exact hway.ne (collapseOverlapping_separates hd he hway.1 hway.2.1 hway.2.2.1)
  calc
    collapseOverlapping uri' (collapseOverlapping uri ds) =
        (collapseOverlapping uri ds).map id := by
      rw [collapseOverlapping_eq_map uri']
      exact List.map_congr_left fun d hd => if_neg (hstays d hd)
    _ = collapseOverlapping uri ds := List.map_id _

/-- The result of permuted diagnostics is the permuted result. -/
theorem getElem?_collapseOverlapping_ofFn (uri : Url) (ds : List Diagnostic)
    (order : Equiv.Perm (Fin ds.length)) (i : Fin ds.length) :
    (collapseOverlapping uri (List.ofFn fun k => ds.get (order k)))[i.val]? =
      (collapseOverlapping uri ds)[(order i).val]? := by
  have hmem : ∀ e, e ∈ (List.ofFn fun k => ds.get (order k)) ↔ e ∈ ds := by
    intro e
    rw [List.mem_ofFn, List.mem_iff_get]
    exact (order.surjective.exists (p := fun k => ds.get k = e)).symm
  rw [collapseOverlapping_eq_map, collapseOverlapping_eq_map, List.getElem?_map, List.getElem?_map,
    List.getElem?_ofFn, dif_pos i.isLt, List.getElem?_eq_getElem (order i).isLt]
  simp only [Option.map_some, collapses_congr hmem]
  rfl

/-- A diagnostic collapses exactly when its range gives way to another's: it then shrinks to its start and gains
    one related place at its end, and all else stays as it is and where it is. Hence afterwards two ranges that
    cover something meet only if they are equal, a second pass changes nothing, and permuted diagnostics come
    out permuted in the same way. -/
theorem collapseOverlapping_collapses_exactly (uri : Url) (ds : List Diagnostic) :
    (collapseOverlapping uri ds).length = ds.length ∧
    (∀ (i : Nat) (d : Diagnostic), ds[i]? = some d → (collapseOverlapping uri ds)[i]? = some
      (if ∃ e ∈ ds, GivesWay d.range e.range then
        { d with
          range := Range.point d.range.start
          related := d.related ++ [⟨uri, Range.point d.range.stop, scopeEndMessage⟩] }
      else d)) ∧
    (∀ a ∈ collapseOverlapping uri ds, ∀ b ∈ collapseOverlapping uri ds,
      a.range.start ≠ a.range.stop → b.range.start ≠ b.range.stop → Meets a.range b.range →
        a.range = b.range) ∧
    (∀ uri', collapseOverlapping uri' (collapseOverlapping uri ds) = collapseOverlapping uri ds) ∧
    ∀ (order : Equiv.Perm (Fin ds.length)) (i : Fin ds.length),
      (collapseOverlapping uri (List.ofFn fun k => ds.get (order k)))[i.val]? =
        (collapseOverlapping uri ds)[(order i).val]? := by
  refine ⟨?_, ?_, ?_, ?_, ?_⟩
  · rw [collapseOverlapping_eq_map, List.length_map]
  · intro i d hd
    rw [collapseOverlapping_eq_map, List.getElem?_map, hd]
    rfl
  · intro a ha b hb hacovers hbcovers hmeets
    exact collapseOverlapping_separates ha hb hacovers hbcovers hmeets
  · exact fun uri' => collapseOverlapping_idem uri uri' ds
  · exact getElem?_collapseOverlapping_ofFn uri ds

end PlaybookServer
