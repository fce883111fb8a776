/-
Module: PlaybookServer.Proofs.Diagnostic.Ledger
Purpose: The ledger after any history of calls. The numbers kept for files are those of the documents that
  hold them, what a call hands back are exactly the files that lost their last holder in it, and what is kept
  for a document is told by the last call that concerns it.
Main exports: Ledger.filesOf, Ledger.holders, Ledger.Sound, Ledger.Call, Ledger.after,
  Ledger.track_sound, Ledger.release_sound, Ledger.mem_track_stale, Ledger.mem_release_stale
-/
import Mathlib.Data.Finset.Card
import PlaybookServer.Diagnostic.Ledger
import PlaybookServer.Proofs.Diagnostic.Table

namespace PlaybookServer

namespace Ledger

/-- The files that a document has published for. -/
def filesOf (l : Ledger) (origin : Url) : List Url := (l.references.get? origin).getD []

/-- The documents that have published for a file. -/
def holders (l : Ledger) (f : Url) : Finset Url :=
  (Table.keys l.references).toFinset.filter fun o => f ∈ l.filesOf o

/-- The number kept for a file; zero if there is none. -/
def count (l : Ledger) (f : Url) : Nat := (l.counts.get? f).getD 0

/-- The numbers kept are those of the holders, none of them zero, and no document holds a file twice. -/
structure Sound (l : Ledger) : Prop where
  counted : ∀ f, l.count f = (l.holders f).card
  tidy : ∀ f, l.counts.get? f ≠ some 0
  distinct : ∀ o, (l.filesOf o).Nodup

/-- A document that holds a file has references. -/
theorem mem_keys_of_mem_filesOf {l : Ledger} {o f : Url} (h : f ∈ l.filesOf o) :
    o ∈ Table.keys l.references := by
  rw [Table.mem_keys]
  cases hget : l.references.get? o with
  | none => simp [filesOf, hget] at h
  | some files => rfl

@[simp] theorem mem_holders (l : Ledger) (f o : Url) : o ∈ l.holders f ↔ f ∈ l.filesOf o := by
  simp only [holders, Finset.mem_filter, List.mem_toFinset, and_iff_right_iff_imp]
  exact mem_keys_of_mem_filesOf

/-- What a sound ledger keeps for a file: nothing if nobody holds it, else the number of holders. -/
theorem Sound.get?_counts {l : Ledger} (h : l.Sound) (f : Url) :
    l.counts.get? f = if (l.holders f).card = 0 then none else some (l.holders f).card := by
  have hcount := h.counted f
  have htidy := h.tidy f
  cases hget : l.counts.get? f with
  | none =>
      simp only [count, hget, Option.getD_none] at hcount
      simp [← hcount]
  | some n =>
      simp only [count, hget, Option.getD_some] at hcount
      rw [hget] at htidy
      rw [← hcount, if_neg]
      intro hzero
      exact htidy (by rw [hzero])

/-! ### One reference more, one reference less -/

theorem count_increment (l : Ledger) (u f : Url) :
    (l.increment u).count f = l.count f + if f = u then 1 else 0 := by
  simp only [count, increment, Table.get?_set]
  split
  next h => rw [h]; rfl
  next => rfl

theorem increment_tidy {l : Ledger} (h : ∀ f, l.counts.get? f ≠ some 0) (u f : Url) :
    (l.increment u).counts.get? f ≠ some 0 := by
  simp only [increment, Table.get?_set]
  split
  next => simp
  next => exact h f

theorem decrement_frame (l : Ledger) (u : Url) :
    (l.decrement u).2.references = l.references ∧ (l.decrement u).2.results = l.results := by
  unfold decrement
  split
  next => split <;> exact ⟨rfl, rfl⟩
  next => exact ⟨rfl, rfl⟩

theorem count_decrement (l : Ledger) (u f : Url) :
    (l.decrement u).2.count f = l.count f - if f = u then 1 else 0 := by
  unfold decrement
  split
  next n hn =>
      split
      next hlt =>
          simp only [count, Table.get?_set]
          by_cases h : f = u
          · simp [h, hn]
          · simp [h]
      next hle =>
          simp only [count, Table.get?_erase]
          by_cases h : f = u
          · simp only [h, if_true, hn, Option.getD_none, Option.getD_some]
            omega
          · simp [h]
  next hn =>
      by_cases h : f = u
      · simp [h, count, hn]
      · simp [h]

/-- A file is let go exactly when at most one reference was left. -/
theorem decrement_gone (l : Ledger) (u : Url) : (l.decrement u).1 = decide (l.count u ≤ 1) := by
  unfold decrement count
  split
  next n hn =>
      split
      next hlt => simp [hn, hlt]
      next hle => simp [hn, Nat.not_lt.1 hle]
  next hn => simp [hn]

theorem decrement_tidy {l : Ledger} (h : ∀ f, l.counts.get? f ≠ some 0) (u f : Url) :
    (l.decrement u).2.counts.get? f ≠ some 0 := by
  unfold decrement
  split
  next n hn =>
      split
      next hlt =>
          simp only [Table.get?_set]
          split
          next =>
              intro hzero
              injection hzero with hzero
              omega
          next => exact h f
      next =>
          simp only [Table.get?_erase]
          split
          next => simp
          next => exact h f
  next => exact h f

/-! ### Several references at once -/

theorem foldl_increment_frame (us : List Url) (l : Ledger) :
    (us.foldl increment l).references = l.references ∧ (us.foldl increment l).results = l.results := by
  induction us generalizing l with
  | nil => exact ⟨rfl, rfl⟩
  | cons u us ih => exact ih (l.increment u)

theorem count_foldl_increment (us : List Url) (l : Ledger) (f : Url) :
    (us.foldl increment l).count f = l.count f + us.count f := by
  induction us generalizing l with
  | nil => rfl
  | cons u us ih =>
      rw [List.foldl_cons, ih, count_increment, List.count_cons]
      by_cases h : f = u
      · simp [h]
        omega
      · simp [h, Ne.symm h]

theorem foldl_increment_tidy (us : List Url) {l : Ledger} (h : ∀ f, l.counts.get? f ≠ some 0) :
    ∀ f, (us.foldl increment l).counts.get? f ≠ some 0 := by
  induction us generalizing l with
  | nil => exact h
  | cons u us ih => exact ih (increment_tidy h u)

theorem decrementAll_frame (us : List Url) (l : Ledger) :
    (l.decrementAll us).2.references = l.references ∧ (l.decrementAll us).2.results = l.results := by
  induction us generalizing l with
  | nil => exact ⟨rfl, rfl⟩
  | cons u us ih =>
      obtain ⟨href, hres⟩ := ih (l.decrement u).2
      obtain ⟨href', hres'⟩ := decrement_frame l u
      exact ⟨href.trans href', hres.trans hres'⟩

theorem count_decrementAll (us : List Url) (l : Ledger) (f : Url) :
    (l.decrementAll us).2.count f = l.count f - us.count f := by
  induction us generalizing l with
  | nil => rfl
  | cons u us ih =>
      have hstep : (l.decrementAll (u :: us)).2 = ((l.decrement u).2.decrementAll us).2 := rfl
      rw [hstep, ih, count_decrement, List.count_cons]
      by_cases h : f = u
      · simp [h]
        omega
      · simp [h, Ne.symm h]

theorem decrementAll_tidy (us : List Url) {l : Ledger} (h : ∀ f, l.counts.get? f ≠ some 0) :
    ∀ f, (l.decrementAll us).2.counts.get? f ≠ some 0 := by
  induction us generalizing l with
  | nil => exact h
  | cons u us ih => exact ih (decrement_tidy h u)

/-- Only files that are given come back. -/
theorem decrementAll_subset (us : List Url) (l : Ledger) : (l.decrementAll us).1 ⊆ us := by
  induction us generalizing l with
  | nil => exact List.Subset.refl []
  | cons u us ih =>
      have hstep : (l.decrementAll (u :: us)).1 =
          if (l.decrement u).1 then u :: ((l.decrement u).2.decrementAll us).1
          else ((l.decrement u).2.decrementAll us).1 := rfl
      rw [hstep]
      split
      next => exact List.cons_subset_cons u (ih _)
      next => exact fun f hf => List.mem_cons_of_mem u (ih _ hf)

/-- Of files that are given each once, those come back that had at most one reference left. -/
theorem decrementAll_stale {us : List Url} (hus : us.Nodup) (l : Ledger) :
    (l.decrementAll us).1 = us.filter fun u => l.count u ≤ 1 := by
  induction us generalizing l with
  | nil => rfl
  | cons u us ih =>
      obtain ⟨hnew, hrest⟩ := List.nodup_cons.1 hus
      have hsame : us.filter (fun v => (l.decrement u).2.count v ≤ 1) =
          us.filter fun v => l.count v ≤ 1 := by
        apply List.filter_congr
        intro v hv
        have hne : v ≠ u := fun h => hnew (h ▸ hv)
        rw [count_decrement, if_neg hne, Nat.sub_zero]
      have hstep : (l.decrementAll (u :: us)).1 =
          if (l.decrement u).1 then u :: ((l.decrement u).2.decrementAll us).1
          else ((l.decrement u).2.decrementAll us).1 := rfl
      rw [hstep, ih hrest, hsame, decrement_gone, List.filter_cons]

/-! ### The files of one document replaced

Recording and forgetting both replace the files of one document: by those just published, or by none. -/

/-- The files that a document gives up when others take their place. -/
def dropped (l : Ledger) (origin : Url) (current : List Url) : List Url :=
  (l.filesOf origin).filter fun u => !current.elem u

/-- The files that a document did not have before. -/
def gained (l : Ledger) (origin : Url) (current : List Url) : List Url :=
  current.filter fun u => !(l.filesOf origin).elem u

/-- One ledger comes from another by giving a document other files. -/
structure Replaces (l l' : Ledger) (origin : Url) (current : List Url) : Prop where
  filesOf_eq : ∀ o, l'.filesOf o = if o = origin then current else l.filesOf o
  count_eq : ∀ f, l'.count f =
    l.count f + (l.gained origin current).count f - (l.dropped origin current).count f
  tidy : (∀ f, l.counts.get? f ≠ some 0) → ∀ f, l'.counts.get? f ≠ some 0

theorem mem_dropped (l : Ledger) (origin : Url) (current : List Url) (f : Url) :
    f ∈ l.dropped origin current ↔ f ∈ l.filesOf origin ∧ f ∉ current := by
  simp [dropped]

theorem mem_gained (l : Ledger) (origin : Url) (current : List Url) (f : Url) :
    f ∈ l.gained origin current ↔ f ∈ current ∧ f ∉ l.filesOf origin := by
  simp [gained]

namespace Replaces

variable {l l' : Ledger} {origin : Url} {current : List Url}

/-- The document joins the holders of its new files and leaves those of all others. -/
theorem holders_eq (h : Replaces l l' origin current) (f : Url) :
    l'.holders f = if f ∈ current then insert origin (l.holders f) else (l.holders f).erase origin := by
  ext o
  rw [mem_holders, h.filesOf_eq]
  by_cases ho : o = origin <;> by_cases hf : f ∈ current <;> simp [ho, hf]

theorem card_holders (h : Replaces l l' origin current) (hcurrent : current.Nodup) (hl : l.Sound)
    (f : Url) : (l'.holders f).card =
      (l.holders f).card + (l.gained origin current).count f - (l.dropped origin current).count f := by
  have hgained : (l.gained origin current).Nodup := hcurrent.filter _
  have hdropped : (l.dropped origin current).Nodup := (hl.distinct origin).filter _
  rw [h.holders_eq, hgained.count, hdropped.count]
  simp only [mem_gained, mem_dropped]
  by_cases hnow : f ∈ current
  · by_cases hbefore : f ∈ l.filesOf origin
    · have hin : origin ∈ l.holders f := (mem_holders l f origin).2 hbefore
      simp [hnow, hbefore, Finset.insert_eq_of_mem hin]
    · have hout : origin ∉ l.holders f := fun hin => hbefore ((mem_holders l f origin).1 hin)
      simp [hnow, hbefore, Finset.card_insert_of_notMem hout]
  · by_cases hbefore : f ∈ l.filesOf origin
    · have hin : origin ∈ l.holders f := (mem_holders l f origin).2 hbefore
      simp [hnow, hbefore, Finset.card_erase_of_mem hin]
    · have hout : origin ∉ l.holders f := fun hin => hbefore ((mem_holders l f origin).1 hin)
      rw [if_neg hnow, Finset.erase_eq_of_notMem hout]
      simp [hnow, hbefore]

theorem sound (h : Replaces l l' origin current) (hcurrent : current.Nodup) (hl : l.Sound) :
    l'.Sound where
  counted f := by rw [h.count_eq, hl.counted, h.card_holders hcurrent hl]
  tidy := h.tidy hl.tidy
  distinct o := by
    rw [h.filesOf_eq]
    split
    next => exact hcurrent
    next => exact hl.distinct o

/-- The files that are given up by their only holder are exactly those that somebody held before and that
    nobody holds afterwards. -/
theorem mem_stale (h : Replaces l l' origin current) (hl : l.Sound) (f : Url) :
    (f ∈ l.dropped origin current ∧ l.count f ≤ 1) ↔
      (∃ o, f ∈ l.filesOf o) ∧ ∀ o, f ∉ l'.filesOf o := by
  rw [mem_dropped, hl.counted]
  constructor
  · rintro ⟨⟨hbefore, hnow⟩, hone⟩
    refine ⟨⟨origin, hbefore⟩, fun o => ?_⟩
    rw [h.filesOf_eq]
    split
    next => exact hnow
    next ho =>
        intro hf
        exact ho (Finset.card_le_one.1 hone o ((mem_holders l f o).2 hf) origin
          ((mem_holders l f origin).2 hbefore))
  · rintro ⟨⟨o, ho⟩, hgone⟩
    have honly : ∀ p, f ∈ l.filesOf p → p = origin := by
      intro p hp
      by_contra hne
      have := hgone p
      rw [h.filesOf_eq, if_neg hne] at this
      exact this hp
    have hnow : f ∉ current := by
      have := hgone origin
      rwa [h.filesOf_eq, if_pos rfl] at this
    refine ⟨⟨honly o ho ▸ ho, hnow⟩, Finset.card_le_one.2 ?_⟩
    intro p hp q hq
    rw [mem_holders] at hp hq
    rw [honly p hp, honly q hq]

end Replaces

/-! ### Recording and forgetting -/

theorem track_results (l : Ledger) (origin : Url) (m : ByFile) :
    (l.track origin m).2.results = l.results :=
  (decrementAll_frame _ _).2.trans (foldl_increment_frame _ l).2

theorem track_references (l : Ledger) (origin : Url) (m : ByFile) :
    (l.track origin m).2.references = (l.references.erase origin).set origin m.files := by
  simp only [track]
  rw [(decrementAll_frame _ _).1, (foldl_increment_frame _ l).1]

theorem track_replaces (l : Ledger) (origin : Url) (m : ByFile) :
    Replaces l (l.track origin m).2 origin m.files where
  filesOf_eq o := by
    simp only [filesOf, track_references, Table.get?_set, Table.get?_erase]
    split
    next => rfl
    next => rfl
  count_eq f := (count_decrementAll _ _ f).trans (congrArg (· - _) (count_foldl_increment _ l f))
  tidy h := decrementAll_tidy _ (foldl_increment_tidy _ h)

/-- What is published for now is not cleared. -/
theorem not_mem_track {l : Ledger} {origin f : Url} {m : ByFile} (hf : f ∈ m.files) : f ∉ (l.track origin m).1 := by
  intro hstale
  have hdropped : f ∈ l.dropped origin m.files := decrementAll_subset _ _ hstale
  exact ((mem_dropped l origin m.files f).1 hdropped).2 hf

/-- A file that is given up is none of the new ones, so the additions do not count for it. -/
theorem track_stale {l : Ledger} (hl : l.Sound) (origin : Url) (m : ByFile) :
    (l.track origin m).1 = (l.dropped origin m.files).filter fun u => l.count u ≤ 1 := by
  have hdropped : (l.dropped origin m.files).Nodup := (hl.distinct origin).filter _
  have hstale : (l.track origin m).1 = (l.dropped origin m.files).filter fun u =>
      ((l.gained origin m.files).foldl increment l).count u ≤ 1 := decrementAll_stale hdropped _
  rw [hstale]
  apply List.filter_congr
  intro u hu
  have hnot : u ∉ l.gained origin m.files := by
    rw [mem_gained]
    exact fun h => ((mem_dropped l origin _ u).1 hu).2 h.1
  rw [count_foldl_increment, List.count_eq_zero.2 hnot, Nat.add_zero]

theorem release_results (l : Ledger) (origin : Url) :
    (l.release origin).2.results = l.results.erase origin :=
  (decrementAll_frame _ _).2

theorem release_references (l : Ledger) (origin : Url) :
    (l.release origin).2.references = l.references.erase origin :=
  (decrementAll_frame _ _).1

theorem dropped_nil (l : Ledger) (origin : Url) : l.dropped origin [] = l.filesOf origin := by
  simp [dropped]

theorem release_replaces (l : Ledger) (origin : Url) : Replaces l (l.release origin).2 origin [] where
  filesOf_eq o := by
    simp only [filesOf, release_references, Table.get?_erase]
    split
    next => rfl
    next => rfl
  count_eq f := by
    rw [dropped_nil]
    exact count_decrementAll _ _ f
  tidy h := decrementAll_tidy _ h

theorem release_stale {l : Ledger} (hl : l.Sound) (origin : Url) :
    (l.release origin).1 = (l.dropped origin []).filter fun u => l.count u ≤ 1 := by
  rw [dropped_nil]
  exact decrementAll_stale (hl.distinct origin) _

theorem track_sound {l : Ledger} (hl : l.Sound) (origin : Url) {m : ByFile} (hm : m.files.Nodup) :
    (l.track origin m).2.Sound :=
  (track_replaces l origin m).sound hm hl

theorem release_sound {l : Ledger} (hl : l.Sound) (origin : Url) : (l.release origin).2.Sound :=
  (release_replaces l origin).sound List.nodup_nil hl

/-- Recording hands back exactly the files that somebody held before and nobody holds afterwards. -/
theorem mem_track_stale {l : Ledger} (hl : l.Sound) (origin : Url) (m : ByFile) (f : Url) :
    f ∈ (l.track origin m).1 ↔
      (∃ o, f ∈ l.filesOf o) ∧ ∀ o, f ∉ (l.track origin m).2.filesOf o := by
  rw [track_stale hl, ← (track_replaces l origin m).mem_stale hl]
  simp

/-- Forgetting hands back exactly the files that somebody held before and nobody holds afterwards. -/
theorem mem_release_stale {l : Ledger} (hl : l.Sound) (origin : Url) (f : Url) :
    f ∈ (l.release origin).1 ↔
      (∃ o, f ∈ l.filesOf o) ∧ ∀ o, f ∉ (l.release origin).2.filesOf o := by
  rw [release_stale hl, ← (release_replaces l origin).mem_stale hl]
  simp

/-- A file that was held and is not handed back is held still. -/
theorem still_held {l l' : Ledger} {stale : List Url}
    (hstale : ∀ f, f ∈ stale ↔ (∃ o, f ∈ l.filesOf o) ∧ ∀ o, f ∉ l'.filesOf o) {f : Url}
    (hf : f ∉ stale) (hheld : ∃ o, f ∈ l.filesOf o) : ∃ o, f ∈ l'.filesOf o := by
  by_contra hnone
  exact hf ((hstale f).2 ⟨hheld, fun o ho => hnone ⟨o, ho⟩⟩)

/-! ### Histories -/

/-- Files in the strict order of their addresses. -/
def Ascending (files : List Url) : Prop := files.Pairwise fun a b => a.text < b.text

theorem Ascending.nodup {files : List Url} (h : Ascending files) : files.Nodup := by
  refine List.Pairwise.imp ?_ h
  rintro a b hlt rfl
  exact lt_irrefl _ hlt

/-- A call to the ledger. A published map has its files in the order of their addresses. -/
inductive Call where
  | store (origin : Url) (results : ByFile)
  | track (origin : Url) (published : ByFile) (ascending : Ascending published.files)
  | release (origin : Url)

/-- What a call hands back, and the ledger after it. -/
def perform (l : Ledger) : Call → List Url × Ledger
  | .store origin results => ([], l.store origin results)
  | .track origin published _ => l.track origin published
  | .release origin => l.release origin

/-- The ledger after a history of calls. -/
def after (calls : List Call) : Ledger := calls.foldl (fun l call => (l.perform call).2) {}

/-- The files that a call leaves a document with, if it concerns them. -/
def Call.files? (o : Url) : Call → Option (List Url)
  | .store _ _ => none
  | .track origin published _ => if origin = o then some published.files else none
  | .release origin => if origin = o then some [] else none

/-- The results that a call leaves a document with, if it concerns them. -/
def Call.results? (o : Url) : Call → Option ByFile
  | .store origin results => if origin = o then some results else none
  | .track _ _ _ => none
  | .release origin => if origin = o then some [] else none

theorem after_append (calls : List Call) (call : Call) :
    after (calls ++ [call]) = ((after calls).perform call).2 := by
  rw [after, List.foldl_append]
  rfl

theorem perform_sound {l : Ledger} (hl : l.Sound) (call : Call) : (l.perform call).2.Sound := by
  cases call with
  | store origin results => exact ⟨hl.counted, hl.tidy, hl.distinct⟩
  | track origin published ascending => exact track_sound hl origin ascending.nodup
  | release origin => exact release_sound hl origin

theorem filesOf_perform (l : Ledger) (call : Call) (o : Url) :
    (l.perform call).2.filesOf o = (call.files? o).getD (l.filesOf o) := by
  cases call with
  | store origin results => rfl
  | track origin published ascending =>
      simp only [perform, (track_replaces l origin published).filesOf_eq, Call.files?, eq_comm (a := o)]
      split <;> rfl
  | release origin =>
      simp only [perform, (release_replaces l origin).filesOf_eq, Call.files?, eq_comm (a := o)]
      split <;> rfl

theorem cached_perform (l : Ledger) (call : Call) (o : Url) :
    (l.perform call).2.cached o = (call.results? o).getD (l.cached o) := by
  cases call with
  | store origin results =>
      simp only [perform, store, cached, Table.get?_set, Call.results?, eq_comm (a := o)]
      split <;> rfl
  | track origin published ascending =>
      simp only [perform, cached, track_results, Call.results?]
      rfl
  | release origin =>
      simp only [perform, cached, release_results, Table.get?_erase, Call.results?, eq_comm (a := o)]
      split <;> rfl

theorem perform_ascending {l : Ledger} (hl : ∀ o, Ascending (l.filesOf o)) (call : Call) (o : Url) :
    Ascending ((l.perform call).2.filesOf o) := by
  rw [filesOf_perform]
  cases call with
  | store origin results => exact hl o
  | track origin published ascending =>
      simp only [Call.files?]
      split
      next => exact ascending
      next => exact hl o
  | release origin =>
      simp only [Call.files?]
      split
      next => exact List.Pairwise.nil
      next => exact hl o

/-- What a call hands back are files of its document, in their order. -/
theorem perform_sublist {l : Ledger} (hl : l.Sound) (call : Call) :
    ∃ o, List.Sublist (l.perform call).1 (l.filesOf o) := by
  cases call with
  | store origin results => exact ⟨origin, List.nil_sublist _⟩
  | track origin published ascending =>
      refine ⟨origin, ?_⟩
      rw [perform, track_stale hl]
      exact List.filter_sublist.trans List.filter_sublist
  | release origin =>
      refine ⟨origin, ?_⟩
      rw [perform, release_stale hl, dropped_nil]
      exact List.filter_sublist

theorem mem_perform {l : Ledger} (hl : l.Sound) (call : Call) (f : Url) :
    f ∈ (l.perform call).1 ↔ (∃ o, f ∈ l.filesOf o) ∧ ∀ o, f ∉ (l.perform call).2.filesOf o := by
  cases call with
  | store origin results =>
      constructor
      · intro hf
        exact absurd hf List.not_mem_nil
      · rintro ⟨⟨o, ho⟩, hgone⟩
        exact absurd ho (hgone o)
  | track origin published ascending => exact mem_track_stale hl origin published f
  | release origin => exact mem_release_stale hl origin f

theorem after_sound (calls : List Call) : (after calls).Sound := by
  induction calls using List.reverseRecOn with
  | nil => exact ⟨fun f => rfl, fun f => nofun, fun o => List.nodup_nil⟩
  | append_singleton calls call ih =>
      rw [after_append]
      exact perform_sound ih call

theorem after_ascending (calls : List Call) (o : Url) : Ascending ((after calls).filesOf o) := by
  induction calls using List.reverseRecOn generalizing o with
  | nil => exact List.Pairwise.nil
  | append_singleton calls call ih =>
      rw [after_append]
      exact perform_ascending ih call o

/-- The files of a document are those that the last call concerning them left it with. -/
theorem filesOf_after (calls : List Call) (o : Url) :
    (after calls).filesOf o = (calls.reverse.findSome? (Call.files? o)).getD [] := by
  induction calls using List.reverseRecOn with
  | nil => rfl
  | append_singleton calls call ih =>
      rw [after_append, filesOf_perform, ih, List.reverse_append]
      cases hcall : call.files? o <;> simp [hcall]

/-- The results kept for a document are those that the last call concerning them left it with. -/
theorem cached_after (calls : List Call) (o : Url) :
    (after calls).cached o = (calls.reverse.findSome? (Call.results? o)).getD [] := by
  induction calls using List.reverseRecOn with
  | nil => rfl
  | append_singleton calls call ih =>
      rw [after_append, cached_perform, ih, List.reverse_append]
      cases hcall : call.results? o <;> simp [hcall]

/-- After any history of calls: the number kept for a file is that of its holders, and there is none if there
    are none; a document holds the files of the last map recorded for it, unless it was forgotten since; the
    results kept for it are the last that were stored, unless it was forgotten since; and a further call hands
    back, in the order of their addresses, exactly the files that had a holder before it and have none after. -/
theorem history_counts_and_stale_files (calls : List Call) :
    (∀ f, (after calls).counts.get? f =
      if ((after calls).holders f).card = 0 then none else some ((after calls).holders f).card) ∧
    (∀ o, (after calls).filesOf o = (calls.reverse.findSome? (Call.files? o)).getD []) ∧
    (∀ o, (after calls).cached o = (calls.reverse.findSome? (Call.results? o)).getD []) ∧
    ∀ call, Ascending ((after calls).perform call).1 ∧
      ∀ f, f ∈ ((after calls).perform call).1 ↔
        (∃ o, f ∈ (after calls).filesOf o) ∧ ∀ o, f ∉ (after (calls ++ [call])).filesOf o := by
  refine ⟨(after_sound calls).get?_counts, filesOf_after calls, cached_after calls, ?_⟩
  intro call
  constructor
  · obtain ⟨o, hsub⟩ := perform_sublist (after_sound calls) call
    exact List.Pairwise.sublist hsub (after_ascending calls o)
  · intro f
    rw [after_append]
    exact mem_perform (after_sound calls) call f

end Ledger

end PlaybookServer
