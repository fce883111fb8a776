/-
Module: PlaybookServer.Proofs.Diagnostic.Table
Purpose: What finite maps answer after a change, for tables by key and for diagnostics by file. A map by file
  that is built by additions alone stays in the order of the files' addresses and has each file once.
Main exports: Table.get?_set, Table.get?_erase, Table.mem_keys, Table.get?_of_mem, ByFile.Ordered,
  ByFile.Ordered.alter
-/
import Mathlib.Data.String.Basic
import PlaybookServer.Diagnostic.Model

namespace PlaybookServer

/-! ### Tables -/

namespace Table

variable {κ α : Type} [DecidableEq κ]

@[simp] theorem get?_nil (k : κ) : Table.get? ([] : Table κ α) k = none := rfl

theorem get?_cons (e : κ × α) (t : Table κ α) (k : κ) :
    Table.get? (e :: t) k = if e.1 = k then some e.2 else Table.get? t k := by
  by_cases h : e.1 = k <;> simp [Table.get?, h]

/-- Setting a key changes the answer for that key and for no other. -/
theorem get?_set (t : Table κ α) (k k' : κ) (v : α) :
    Table.get? (Table.set t k v) k' = if k' = k then some v else Table.get? t k' := by
  induction t with
  | nil =>
      rw [Table.set, get?_cons]
      by_cases h : k' = k
      · simp [h]
      · simp [h, Ne.symm h]
  | cons e t ih =>
      rw [Table.set]
      by_cases he : e.1 = k
      · rw [if_pos he, get?_cons, get?_cons, he]
        by_cases h : k' = k
        · simp [h]
        · simp [h, Ne.symm h]
      · rw [if_neg he, get?_cons, get?_cons, ih]
        by_cases h : k' = k
        · subst h
          simp [he]
        · simp [h]

/-- Erasing a key leaves no answer for it and changes no other. -/
theorem get?_erase (t : Table κ α) (k k' : κ) :
    Table.get? (Table.erase t k) k' = if k' = k then none else Table.get? t k' := by
  induction t with
  | nil => simp [Table.erase]
  | cons e t ih =>
      rw [get?_cons]
      by_cases he : e.1 = k
      · have hdrop : Table.erase (e :: t) k = Table.erase t k := by simp [Table.erase, he]
        rw [hdrop, ih, he]
        by_cases h : k' = k
        · simp [h]
        · simp [h, Ne.symm h]
      · have hkeep : Table.erase (e :: t) k = e :: Table.erase t k := by simp [Table.erase, he]
        rw [hkeep, get?_cons, ih]
        by_cases h : k' = k
        · subst h
          simp [he]
        · simp [h]

/-- The keys are those that have an answer. -/
theorem mem_keys (t : Table κ α) (k : κ) : k ∈ Table.keys t ↔ (Table.get? t k).isSome := by
  induction t with
  | nil => simp [Table.keys]
  | cons e t ih =>
      have hkeys : Table.keys (e :: t) = e.1 :: Table.keys t := rfl
      rw [hkeys, List.mem_cons, ih, get?_cons]
      by_cases h : e.1 = k
      · simp [h]
      · simp [h, Ne.symm h]

theorem mem_of_get? {t : Table κ α} {k : κ} {v : α} (h : Table.get? t k = some v) : (k, v) ∈ t := by
  obtain ⟨⟨k', v'⟩, hfind, rfl⟩ := Option.map_eq_some_iff.1 h
  have hk : k' = k := by simpa using List.find?_some hfind
  exact hk ▸ List.mem_of_find?_eq_some hfind

/-- If no key stands twice, every entry is an answer. -/
theorem get?_of_mem {t : Table κ α} (hdistinct : (Table.keys t).Nodup) {k : κ} {v : α} (h : (k, v) ∈ t) :
    Table.get? t k = some v := by
  induction t with
  | nil => cases h
  | cons e t ih =>
      obtain ⟨hnot, hrest⟩ := List.nodup_cons.1 hdistinct
      rw [get?_cons]
      rcases List.mem_cons.1 h with rfl | h
      · exact if_pos rfl
      · have hne : e.1 ≠ k := fun heq => hnot (List.mem_map.2 ⟨(k, v), h, heq.symm⟩)
        rw [if_neg hne, ih hrest h]

/-- A new key comes after the others. -/
theorem set_of_get?_eq_none {t : Table κ α} {k : κ} (h : Table.get? t k = none) (v : α) :
    Table.set t k v = t ++ [(k, v)] := by
  induction t with
  | nil => rfl
  | cons e t ih =>
      rw [get?_cons] at h
      split at h
      next => cases h
      next hne => rw [Table.set, if_neg hne, ih h, List.cons_append]

end Table

/-! ### Diagnostics by file -/

namespace ByFile

/-- The files stand in the order of their addresses, each once. -/
def Ordered (m : ByFile) : Prop := m.files.Pairwise fun a b => a.text ≤ b.text ∧ a ≠ b

theorem Ordered.nil : Ordered [] := List.Pairwise.nil

theorem Ordered.single (u : Url) (ds : List Diagnostic) : Ordered [(u, ds)] := by
  simp [Ordered, files]

theorem Ordered.nodup {m : ByFile} (h : m.Ordered) : m.files.Nodup :=
  h.imp fun hab => hab.2

/-- A change of one file adds that file at most. -/
theorem mem_files_alter (m : ByFile) (u v : Url) (f : List Diagnostic → List Diagnostic) :
    v ∈ (m.alter u f).files ↔ v = u ∨ v ∈ m.files := by
  induction m with
  | nil => simp [alter, files]
  | cons e m ih =>
      obtain ⟨w, ds⟩ := e
      simp only [alter]
      split
      next hw =>
          subst hw
          simp [files]
      next hw =>
          split
          next => simp [files]
          next =>
              simp only [files, List.map_cons, List.mem_cons] at ih ⊢
              rw [ih]
              exact or_left_comm

/-- A change of one file keeps the order: a new file goes before the first larger one, and a file that is
    there is met before any larger one. -/
theorem Ordered.alter {m : ByFile} (h : m.Ordered) (u : Url) (f : List Diagnostic → List Diagnostic) :
    (m.alter u f).Ordered := by
  induction m with
  | nil => exact Ordered.single u _
  | cons e m ih =>
      obtain ⟨w, ds⟩ := e
      obtain ⟨hfirst, hrest⟩ := List.pairwise_cons.1 h
      simp only [ByFile.alter]
      split
      next => exact List.pairwise_cons.2 ⟨hfirst, hrest⟩
      next hne =>
          split
          next hlt =>
              refine List.pairwise_cons.2 ⟨?_, h⟩
              intro v hv
              rcases List.mem_cons.1 hv with rfl | hv
              · exact ⟨le_of_lt hlt, Ne.symm hne⟩
              · have hlater : u.text < v.text := lt_of_lt_of_le hlt (hfirst v hv).1
                refine ⟨le_of_lt hlater, ?_⟩
                rintro rfl
                exact lt_irrefl _ hlater
          next hge =>
              refine List.pairwise_cons.2 ⟨?_, ih hrest⟩
              intro v hv
              rcases (mem_files_alter m u v f).1 hv with rfl | hv
              · exact ⟨le_of_not_gt hge, hne⟩
              · exact hfirst v hv

theorem Ordered.add {m : ByFile} (h : m.Ordered) (u : Url) (ds : List Diagnostic) : (m.add u ds).Ordered :=
  h.alter u _

theorem get?_cons (e : Url × List Diagnostic) (m : ByFile) (v : Url) :
    ByFile.get? (e :: m) v = if e.1 = v then some e.2 else ByFile.get? m v := by
  by_cases h : e.1 = v <;> simp [ByFile.get?, h]

theorem get?_eq_none {m : ByFile} {v : Url} (h : v ∉ m.files) : m.get? v = none := by
  induction m with
  | nil => rfl
  | cons e m ih =>
      obtain ⟨hne, hrest⟩ := not_or.1 (List.mem_cons.not.1 h)
      rw [get?_cons, if_neg (Ne.symm hne), ih hrest]

/-- In a map in order, what is added to a file comes after what the file has, and other files stay as they are. -/
theorem Ordered.get?_add {m : ByFile} (h : m.Ordered) (u v : Url) (ds : List Diagnostic) :
    (m.add u ds).get? v = if v = u then some ((m.get? u).getD [] ++ ds) else m.get? v := by
  induction m with
  | nil =>
      rw [ByFile.add, ByFile.alter, get?_cons]
      exact ite_congr (propext eq_comm) (fun _ => rfl) fun _ => rfl
  | cons e m ih =>
      obtain ⟨w, es⟩ := e
      obtain ⟨hfirst, hrest⟩ := List.pairwise_cons.1 h
      have ih := ih hrest
      simp only [ByFile.add, ByFile.alter] at ih ⊢
      split
      next hw =>
          subst hw
          by_cases hv : v = w
          · simp [get?_cons, hv]
          · simp [get?_cons, hv, Ne.symm hv]
      next hw =>
          split
          next hlt =>
              -- the file comes before all others, so it is none of them
              have hnew : u ∉ ByFile.files ((w, es) :: m) := by
                intro hmem
                rcases List.mem_cons.1 hmem with heq | hmem
                · exact hw heq.symm
                · exact absurd (lt_of_lt_of_le hlt (hfirst u hmem).1) (lt_irrefl _)
              rw [get?_cons, get?_eq_none hnew]
              by_cases hv : v = u
              · simp [hv]
              · simp [hv, Ne.symm hv]
          next =>
              rw [get?_cons, ih]
              by_cases hv : v = u
              · simp [hv, hw, get?_cons]
              · simp [hv, get?_cons]

end ByFile

end PlaybookServer
