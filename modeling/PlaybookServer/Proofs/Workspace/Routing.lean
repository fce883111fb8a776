/-
Module: PlaybookServer.Proofs.Workspace.Routing
Purpose: Which folder and which context serve a document, after any calls to the workspace. Folders stay in order of
  their addresses' lengths, so the first folder that holds a document is the innermost one. A folder's context is kept
  under the folder's address until the folder is removed; every context in use has the latest settings.
Main exports: Folder.segments, Serving, serving_folderFor?, RoutingCall, after, latestSettings, Registered, Routed,
  Routed.perform, routing_after_calls
-/
import PlaybookServer.Proofs.Diagnostic.Table
import PlaybookServer.Proofs.Url.File
import PlaybookServer.Workspace.State

namespace PlaybookServer.Workspace

open Text Files

/-! ### The folder of a document -/

/-- What stands between the slashes of an address. -/
def segments (u : Url) : List (List Char) := splitOn '/' u.text.toList

/-- What stands between the slashes of a folder's address, slashes at its end left out. -/
def Folder.segments (f : Folder) : List (List Char) := splitOn '/' (dropEndWhile (· = '/') f.uri.text.toList)

/-- A folder holds a document if its segments are the first of the document's. -/
theorem holds_iff (f : Folder) (doc : Url) : f.holds doc = true ↔ f.segments <+: segments doc := by
  rw [Folder.segments, segments, splitOn_prefix_iff, Folder.holds]
  generalize dropEndWhile (· = '/') f.uri.text.toList = base
  cases hstem : stripStem? base doc.text.toList with
  | none =>
      have hnone (rest : List Char) : doc.text.toList ≠ base ++ rest := by
        rw [Ne, ← stripStem?_eq_some_iff, hstem]
        exact nofun
      simpa using ⟨fun h => hnone [] (by rw [h, List.append_nil]), fun more => hnone ('/' :: more)⟩
  | some rest =>
      have hrest := (stripStem?_eq_some_iff base doc.text.toList rest).1 hstem
      rw [hrest]
      cases rest with
      | nil => simp
      | cons c rest => simp

/-- Which folder serves a document: a registered one that holds it, as long as any that does; else a folder for the
    document's own directory, if that is given by an absolute path. -/
inductive Serving (folders : List Folder) (doc : Url) : Option Folder → Prop where
  | registered (f : Folder) (hmem : f ∈ folders) (hholds : f.segments <+: segments doc)
      (hlongest : ∀ g ∈ folders, g.segments <+: segments doc → g.addressSize ≤ f.addressSize) :
      Serving folders doc (some f)
  | own (f : Folder) (dir : String) (hnone : ∀ g ∈ folders, ¬ g.segments <+: segments doc)
      (hdir : parent? (uriToPath doc) = some dir) (habsolute : isAbsolute dir = true)
      (hroot : components f.root = components dir) (hcanonical : pathToUri? f.root = some f.uri)
      (hname : f.name = (fileName? dir).getD "") : Serving folders doc (some f)
  | nowhere (hnone : ∀ g ∈ folders, ¬ g.segments <+: segments doc)
      (hrelative : ∀ dir, parent? (uriToPath doc) = some dir → isAbsolute dir = false) : Serving folders doc none

/-- Inner folders before outer ones. -/
def InOrder (folders : List Folder) : Prop := folders.Pairwise fun f g => g.addressSize ≤ f.addressSize

theorem inOrder_sortFolders (fs : List Folder) : InOrder (sortFolders fs) := by
  have hsorted : (sortFolders fs).Pairwise fun f g => decide (g.addressSize ≤ f.addressSize) = true := by
    apply List.pairwise_mergeSort
    · intro f g h hfg hgh
      simp only [decide_eq_true_eq] at hfg hgh ⊢
      exact Nat.le_trans hgh hfg
    · intro f g
      simpa using Nat.le_total g.addressSize f.addressSize
  exact hsorted.imp of_decide_eq_true

/-- In order of lengths the first that is found is as long as any. -/
theorem InOrder.longest_of_find? {folders : List Folder} (h : InOrder folders) {p : Folder → Bool} {f : Folder}
    (hfind : folders.find? p = some f) {g : Folder} (hg : g ∈ folders) (hp : p g = true) :
    g.addressSize ≤ f.addressSize := by
  obtain ⟨-, before, behind, rfl, hbefore⟩ := List.find?_eq_some_iff_append.1 hfind
  rcases List.mem_append.1 hg with hg | hg
  · exact absurd hp (by simpa using hbefore g hg)
  · rcases List.mem_cons.1 hg with rfl | hg
    · exact Nat.le_refl _
    · exact (List.pairwise_cons.1 (List.pairwise_append.1 h).2.1).1 g hg

/-- The folder of a document's own directory, which is its root. -/
theorem ownFolder?_of_absolute {doc : Url} {dir : String} (hdir : parent? (uriToPath doc) = some dir)
    (habsolute : isAbsolute dir = true) : ∃ u, pathToUri? dir = some u ∧
      ownFolder? doc = some ⟨u, (fileName? dir).getD ""⟩ := by
  obtain ⟨u, hu⟩ : ∃ u, pathToUri? dir = some u := by
    rw [pathToUri?, Url.ofFilePath?, if_pos habsolute]
    exact ⟨_, rfl⟩
  refine ⟨u, hu, ?_⟩
  rw [ownFolder?, hdir]
  show (pathToUri? dir).bind _ = _
  rw [hu]
  rfl

theorem ownFolder?_of_relative {doc : Url} (h : ∀ dir, parent? (uriToPath doc) = some dir → isAbsolute dir = false) :
    ownFolder? doc = none := by
  rw [ownFolder?]
  cases hdir : parent? (uriToPath doc) with
  | none => rfl
  | some dir =>
      show (pathToUri? dir).bind _ = _
      rw [pathToUri?, Url.ofFilePath?, if_neg (by simp [h dir hdir])]
      rfl

theorem serving_folderFor? {folders : List Folder} (h : InOrder folders) (doc : Url) :
    Serving folders doc (folderFor? folders doc) := by
  rw [folderFor?]
  cases hfind : folders.find? fun f => f.holds doc with
  | some f =>
      have hholds : f.holds doc = true := by simpa using List.find?_some hfind
      refine .registered f (List.mem_of_find?_eq_some hfind) ((holds_iff f doc).1 hholds) ?_
      exact fun g hg hholds => h.longest_of_find? hfind hg ((holds_iff g doc).2 hholds)
  | none =>
      have hnone (g : Folder) (hg : g ∈ folders) : ¬ g.segments <+: segments doc := by
        rw [← holds_iff]
        exact List.find?_eq_none.1 hfind g hg
      show Serving folders doc (ownFolder? doc)
      by_cases hown : ∃ dir, parent? (uriToPath doc) = some dir ∧ isAbsolute dir = true
      · obtain ⟨dir, hdir, habsolute⟩ := hown
        obtain ⟨u, hu, hfolder⟩ := ownFolder?_of_absolute hdir habsolute
        rw [hfolder]
        exact .own _ dir hnone hdir habsolute (components_uriToPath hu) ((pathToUri?_uriToPath_iff u).2 ⟨dir, hu⟩) rfl
      · have hrelative (dir : String) (hdir : parent? (uriToPath doc) = some dir) : isAbsolute dir = false := by
          by_contra habsolute
          exact hown ⟨dir, hdir, by simpa using habsolute⟩
        rw [ownFolder?_of_relative hrelative]
        exact .nowhere hnone hrelative

/-! ### Calls -/

/-- A call that routes a document or changes how documents are routed. -/
inductive RoutingCall where
  | setFolders (folders : List Folder)
  | changeFolders (added removed : List Folder)
  | updateSettings (settings : Settings)
  | contextFor (doc : Url)

namespace RoutingCall

/-- The workspace after a call. -/
def perform (s : State) : RoutingCall → State
  | .setFolders folders => s.setFolders folders
  | .changeFolders added removed => s.changeFolders added removed
  | .updateSettings settings => s.updateSettings settings
  | .contextFor doc => (s.contextFor? doc).2

/-- A folder change removes an address. -/
def Removes (u : Url) : RoutingCall → Prop
  | .changeFolders _ removed => ∃ f ∈ removed, f.uri = u
  | _ => False

/-- The settings after a call. -/
def settingsAfter (settings : Settings) : RoutingCall → Settings
  | .updateSettings new => new
  | _ => settings

/-- Whether an address is registered after a call. -/
def registersAfter (u : Url) (before : Prop) : RoutingCall → Prop
  | .setFolders folders => ∃ f ∈ folders, f.uri = u
  | .changeFolders added removed => (before ∧ ¬ ∃ f ∈ removed, f.uri = u) ∨ ∃ f ∈ added, f.uri = u
  | _ => before

end RoutingCall

/-- The workspace after some calls. -/
def after (s : State) (calls : List RoutingCall) : State := calls.foldl RoutingCall.perform s

/-- The settings that were given last. -/
def latestSettings (settings : Settings) (calls : List RoutingCall) : Settings :=
  calls.foldl RoutingCall.settingsAfter settings

/-- An address is that of a folder that is registered: the last call that says so counts. -/
def Registered (u : Url) (calls : List RoutingCall) : Prop := calls.foldl (RoutingCall.registersAfter u) False

/-! ### What a call keeps -/

/-- How a document comes by a context: there is no folder for it, or its folder has a context, or gets a new one. -/
inductive Provided (s : State) (doc : Url) : Option Nat → State → Prop where
  | nowhere (hfolder : s.folderFor? doc = none) : Provided s doc none s
  | there (f : Folder) (n : Nat) (hfolder : s.folderFor? doc = some f) (hthere : Table.get? s.inUse f.uri = some n) :
      Provided s doc (some n) s
  | made (f : Folder) (hfolder : s.folderFor? doc = some f) (hnone : Table.get? s.inUse f.uri = none) :
      Provided s doc (some s.contexts.length) { s with
        inUse := Table.set s.inUse f.uri s.contexts.length
        contexts := s.contexts ++ [{ folder := f, host := s.host, settings := s.settings }] }

theorem provided_contextFor? (s : State) (doc : Url) :
    Provided s doc (s.contextFor? doc).1 (s.contextFor? doc).2 := by
  unfold State.contextFor?
  split
  next hfolder => exact .nowhere hfolder
  next f hfolder =>
      split
      next n hthere => exact .there f n hfolder hthere
      next hnone => exact .made f hfolder hnone

theorem context_putContext (s : State) (n m : Nat) (c : Context) :
    (State.putContext n c s).context m = if m = n ∧ n < s.contexts.length then c else s.context m := by
  simp only [State.context, State.putContext, List.getD_eq_getElem?_getD, List.getElem?_set]
  by_cases h : n = m
  · subst h
    by_cases hn : n < s.contexts.length
    · simp [hn]
    · simp [hn]
  · simp [h, Ne.symm h]

/-- Changing contexts one after the other leaves the rest of the workspace as it is, and there are as many. -/
theorem foldl_putContext_frame (f : Context → Context) (entries : Table Url Nat) (s : State) :
    let s' := entries.foldl (fun (s : State) (_, n) => State.putContext n (f (s.context n)) s) s
    s'.settings = s.settings ∧ s'.folders = s.folders ∧ s'.inUse = s.inUse ∧
      s'.contexts.length = s.contexts.length := by
  induction entries generalizing s with
  | nil => exact ⟨rfl, rfl, rfl, rfl⟩
  | cons e entries ih =>
      obtain ⟨hsettings, hfolders, hinUse, hlength⟩ := ih (State.putContext e.2 (f (s.context e.2)) s)
      exact ⟨hsettings, hfolders, hinUse, hlength.trans (List.length_set ..)⟩

/-- A change that keeps folders and gives settings gives them to every context that is changed, and what has them keeps
    them. -/
theorem foldl_putContext_context (f : Context → Context) {settings : Settings}
    (hfolder : ∀ c, (f c).folder = c.folder) (hsettings : ∀ c, (f c).settings = settings) (entries : Table Url Nat)
    (s : State) (n : Nat) (hn : n < s.contexts.length) :
    let s' := entries.foldl (fun (s : State) (_, n) => State.putContext n (f (s.context n)) s) s
    (s'.context n).folder = (s.context n).folder ∧
      ((s.context n).settings = settings ∨ n ∈ entries.map Prod.snd → (s'.context n).settings = settings) := by
  induction entries generalizing s with
  | nil => exact ⟨rfl, fun h => h.resolve_right List.not_mem_nil⟩
  | cons e entries ih =>
      obtain ⟨u, m⟩ := e
      obtain ⟨hkept, hgiven⟩ := ih (State.putContext m (f (s.context m)) s) (by simpa [State.putContext] using hn)
      rw [context_putContext] at hkept hgiven
      refine ⟨hkept.trans ?_, fun h => hgiven ?_⟩
      · split
        next heq => rw [hfolder, heq.1]
        next => rfl
      · split
        next heq => exact .inl (hsettings _)
        next hne =>
            rcases h with h | h
            · exact .inl h
            · rcases List.mem_cons.1 h with rfl | h
              · exact absurd ⟨rfl, hn⟩ hne
              · exact .inr h

/-- The workspace is routed as it should be: inner folders stand before outer ones, an address has one context at
    most, and the context is that of a folder of this address and has the settings given. -/
structure Routed (settings : Settings) (s : State) : Prop where
  settings_eq : s.settings = settings
  inOrder : InOrder s.folders
  distinct : (Table.keys s.inUse).Nodup
  keyed : ∀ u n, (u, n) ∈ s.inUse →
    n < s.contexts.length ∧ (s.context n).folder.uri = u ∧ (s.context n).settings = settings

theorem Routed.start (host : Tool.HostEnv) (settings : Settings) : Routed settings { host, settings } where
  settings_eq := rfl
  inOrder := List.Pairwise.nil
  distinct := List.nodup_nil
  keyed _ _ h := absurd h List.not_mem_nil

section Steps

variable {settings : Settings} {s : State}

theorem Routed.setFolders (h : Routed settings s) (folders : List Folder) : Routed settings (s.setFolders folders) where
  settings_eq := h.settings_eq
  inOrder := inOrder_sortFolders folders
  distinct := h.distinct
  keyed := h.keyed

theorem foldl_erase_sublist (removed : List Folder) (t : Table Url Nat) :
    (removed.foldl (fun (t : Table Url Nat) f => t.erase f.uri) t).Sublist t := by
  induction removed generalizing t with
  | nil => exact List.Sublist.refl t
  | cons f removed ih => exact (ih _).trans List.filter_sublist

theorem Routed.changeFolders (h : Routed settings s) (added removed : List Folder) :
    Routed settings (s.changeFolders added removed) where
  settings_eq := h.settings_eq
  inOrder := inOrder_sortFolders _
  distinct := h.distinct.sublist ((foldl_erase_sublist removed s.inUse).map Prod.fst)
  keyed u n hmem := h.keyed u n ((foldl_erase_sublist removed s.inUse).subset hmem)

theorem updateSettings_frame (s : State) (new : Settings) :
    (s.updateSettings new).settings = new ∧ (s.updateSettings new).folders = s.folders ∧
      (s.updateSettings new).inUse = s.inUse ∧ (s.updateSettings new).contexts.length = s.contexts.length :=
  foldl_putContext_frame (fun c => c.updateSettings new) s.inUse { s with settings := new }

theorem Routed.updateSettings (h : Routed settings s) (new : Settings) : Routed new (s.updateSettings new) := by
  obtain ⟨hsettings, hfolders, hinUse, hlength⟩ := updateSettings_frame s new
  refine ⟨hsettings, hfolders ▸ h.inOrder, hinUse ▸ h.distinct, fun u n hmem => ?_⟩
  rw [hinUse] at hmem
  obtain ⟨hn, huri, -⟩ := h.keyed u n hmem
  obtain ⟨hfolder, hgiven⟩ := foldl_putContext_context (fun c => c.updateSettings new) (fun _ => rfl) (fun _ => rfl)
    s.inUse { s with settings := new } n hn
  exact ⟨hlength ▸ hn, (congrArg Folder.uri hfolder).trans huri, hgiven (.inr (List.mem_map_of_mem hmem))⟩

theorem Routed.contextFor (h : Routed settings s) (doc : Url) : Routed settings (s.contextFor? doc).2 := by
  have hprovided := provided_contextFor? s doc
  generalize (s.contextFor? doc).1 = number, (s.contextFor? doc).2 = s' at hprovided ⊢
  cases hprovided with
  | nowhere => exact h
  | there => exact h
  | made f hfolder hnone =>
      have hnew : f.uri ∉ Table.keys s.inUse := by
        rw [Table.mem_keys, hnone]
        exact nofun
      rw [Table.set_of_get?_eq_none hnone]
      refine ⟨h.settings_eq, h.inOrder, ?_, fun u n hmem => ?_⟩
      · rw [Table.keys, List.map_append]
        refine List.nodup_append.2 ⟨h.distinct, List.pairwise_singleton _ _, fun u hu v hv huv => ?_⟩
        have hv : v = f.uri := List.mem_singleton.1 hv
        exact hnew (hv ▸ huv ▸ hu)
      · simp only [State.context, List.getD_eq_getElem?_getD, List.length_append, List.length_singleton]
        rcases List.mem_append.1 hmem with hmem | hmem
        · obtain ⟨hn, hkept⟩ := h.keyed u n hmem
          rw [List.getElem?_append_left hn, ← List.getD_eq_getElem?_getD]
          exact ⟨Nat.lt_succ_of_lt hn, hkept⟩
        · obtain ⟨rfl, rfl⟩ := Prod.mk.inj (List.mem_singleton.1 hmem)
          rw [List.getElem?_concat_length, Option.getD_some]
          exact ⟨Nat.lt_succ_self _, rfl, h.settings_eq⟩

/-- What a call keeps. -/
theorem Routed.perform (h : Routed settings s) (c : RoutingCall) : Routed (c.settingsAfter settings) (c.perform s) := by
  cases c with
  | setFolders folders => exact h.setFolders folders
  | changeFolders added removed => exact h.changeFolders added removed
  | updateSettings new => exact h.updateSettings new
  | contextFor doc => exact h.contextFor doc

/-- What any calls keep. -/
theorem Routed.after (h : Routed settings s) (calls : List RoutingCall) :
    Routed (latestSettings settings calls) (after s calls) := by
  induction calls generalizing settings s with
  | nil => exact h
  | cons c calls ih => exact ih (h.perform c)

end Steps

/-! ### Registered addresses -/

theorem exists_foldl_add (added fs : List Folder) (u : Url) :
    (∃ f ∈ added.foldl (fun (fs : List Folder) f => if fs.any fun g => g.uri = f.uri then fs else fs ++ [f]) fs,
      f.uri = u) ↔ (∃ f ∈ fs, f.uri = u) ∨ ∃ f ∈ added, f.uri = u := by
  induction added generalizing fs with
  | nil => simp
  | cons a added ih =>
      rw [List.foldl_cons, ih]
      split
      next hthere =>
          obtain ⟨g, hg, hsame⟩ := List.any_eq_true.1 hthere
          have hsame : g.uri = a.uri := by simpa using hsame
          constructor
          · rintro (h | ⟨f, hf, hu⟩)
            · exact .inl h
            · exact .inr ⟨f, List.mem_cons_of_mem a hf, hu⟩
          · rintro (h | ⟨f, hf, hu⟩)
            · exact .inl h
            · rcases List.mem_cons.1 hf with rfl | hf
              · exact .inl ⟨g, hg, hsame.trans hu⟩
              · exact .inr ⟨f, hf, hu⟩
      next => simp [or_and_right, exists_or, or_assoc]

theorem exists_perform (s : State) (c : RoutingCall) (u : Url) :
    (∃ f ∈ (c.perform s).folders, f.uri = u) ↔ c.registersAfter u (∃ f ∈ s.folders, f.uri = u) := by
  cases c with
  | setFolders folders => simp [RoutingCall.perform, State.setFolders, sortFolders, RoutingCall.registersAfter]
  | changeFolders added removed =>
      simp only [RoutingCall.perform, State.changeFolders, changeFolders, sortFolders, List.mem_mergeSort,
        exists_foldl_add, RoutingCall.registersAfter]
      refine or_congr_left ?_
      constructor
      · rintro ⟨f, hf, rfl⟩
        obtain ⟨hmem, hkept⟩ := List.mem_filter.1 hf
        exact ⟨⟨f, hmem, rfl⟩, by simpa using hkept⟩
      · rintro ⟨⟨f, hmem, rfl⟩, hkept⟩
        exact ⟨f, List.mem_filter.2 ⟨hmem, by simpa using hkept⟩, rfl⟩
  | updateSettings new =>
      obtain ⟨-, hfolders, -⟩ := updateSettings_frame s new
      simp [RoutingCall.perform, hfolders, RoutingCall.registersAfter]
  | contextFor doc =>
      have hprovided := provided_contextFor? s doc
      simp only [RoutingCall.perform, RoutingCall.registersAfter]
      generalize (s.contextFor? doc).1 = number, (s.contextFor? doc).2 = s' at hprovided ⊢
      cases hprovided <;> exact Iff.rfl

theorem exists_after (s : State) (calls : List RoutingCall) (u : Url) : (∃ f ∈ (after s calls).folders, f.uri = u) ↔
    calls.foldl (RoutingCall.registersAfter u) (∃ f ∈ s.folders, f.uri = u) := by
  induction calls generalizing s with
  | nil => exact Iff.rfl
  | cons c calls ih =>
      rw [List.foldl_cons, ← propext (exists_perform s c u)]
      exact ih (c.perform s)

/-! ### The same context or a new one -/

section Contexts

variable {s : State} {u : Url} {n k : Nat}

theorem get?_foldl_erase (removed : List Folder) (t : Table Url Nat) (u : Url) :
    Table.get? (removed.foldl (fun (t : Table Url Nat) f => t.erase f.uri) t) u =
      if ∃ f ∈ removed, f.uri = u then none else Table.get? t u := by
  induction removed generalizing t with
  | nil => simp
  | cons f removed ih =>
      rw [List.foldl_cons, ih, Table.get?_erase]
      by_cases hf : f.uri = u
      · simp [hf]
      · simp [hf, Ne.symm hf]

/-- An address keeps its context unless it is removed. -/
theorem get?_perform_of_not_removes (h : Table.get? s.inUse u = some n) {c : RoutingCall} (hc : ¬ c.Removes u) :
    Table.get? (c.perform s).inUse u = some n := by
  cases c with
  | setFolders folders => exact h
  | changeFolders added removed =>
      rw [RoutingCall.perform, State.changeFolders, get?_foldl_erase]
      exact (if_neg hc).trans h
  | updateSettings new =>
      obtain ⟨-, -, hinUse, -⟩ := updateSettings_frame s new
      rw [RoutingCall.perform, hinUse, h]
  | contextFor doc =>
      have hprovided := provided_contextFor? s doc
      simp only [RoutingCall.perform]
      generalize (s.contextFor? doc).1 = number, (s.contextFor? doc).2 = s' at hprovided ⊢
      cases hprovided with
      | nowhere => exact h
      | there => exact h
      | made f hfolder hnone =>
          have hne : u ≠ f.uri := by
            rintro rfl
            rw [h] at hnone
            cases hnone
          rw [Table.get?_set, if_neg hne, h]

theorem get?_perform_of_removes (s : State) {c : RoutingCall} (hc : c.Removes u) :
    Table.get? (c.perform s).inUse u = none := by
  cases c with
  | changeFolders added removed =>
      rw [RoutingCall.perform, State.changeFolders, get?_foldl_erase]
      exact if_pos hc
  | setFolders folders => exact absurd hc id
  | updateSettings new => exact absurd hc id
  | contextFor doc => exact absurd hc id

/-- Contexts stay. -/
theorem length_le_perform (s : State) (c : RoutingCall) : s.contexts.length ≤ (c.perform s).contexts.length := by
  cases c with
  | setFolders folders => exact Nat.le_refl _
  | changeFolders added removed => exact Nat.le_refl _
  | updateSettings new =>
      obtain ⟨-, -, -, hlength⟩ := updateSettings_frame s new
      exact Nat.le_of_eq hlength.symm
  | contextFor doc =>
      have hprovided := provided_contextFor? s doc
      simp only [RoutingCall.perform]
      generalize (s.contextFor? doc).1 = number, (s.contextFor? doc).2 = s' at hprovided ⊢
      cases hprovided with
      | nowhere => exact Nat.le_refl _
      | there => exact Nat.le_refl _
      | made => simp

theorem length_le_after (s : State) (calls : List RoutingCall) :
    s.contexts.length ≤ (after s calls).contexts.length := by
  induction calls generalizing s with
  | nil => exact Nat.le_refl _
  | cons c calls ih => exact Nat.le_trans (length_le_perform s c) (ih (c.perform s))

/-- There are so many contexts, and that of an address, if it has one, was made after all of these. -/
structure MadeAfter (k : Nat) (u : Url) (s : State) : Prop where
  length_le : k ≤ s.contexts.length
  later : ∀ n, Table.get? s.inUse u = some n → k ≤ n

theorem MadeAfter.perform (h : MadeAfter k u s) (c : RoutingCall) : MadeAfter k u (c.perform s) := by
  refine ⟨Nat.le_trans h.length_le (length_le_perform s c), fun n hn => ?_⟩
  cases c with
  | setFolders folders => exact h.later n hn
  | changeFolders added removed =>
      rw [RoutingCall.perform, State.changeFolders, get?_foldl_erase] at hn
      split at hn
      next => cases hn
      next => exact h.later n hn
  | updateSettings new =>
      obtain ⟨-, -, hinUse, -⟩ := updateSettings_frame s new
      exact h.later n (hinUse ▸ hn)
  | contextFor doc =>
      have hprovided := provided_contextFor? s doc
      simp only [RoutingCall.perform] at hn
      generalize (s.contextFor? doc).1 = number, (s.contextFor? doc).2 = s' at hprovided hn
      cases hprovided with
      | nowhere => exact h.later n hn
      | there => exact h.later n hn
      | made f hfolder hnone =>
          rw [Table.get?_set] at hn
          split at hn
          next => exact Option.some.inj hn ▸ h.length_le
          next => exact h.later n hn

theorem MadeAfter.after (h : MadeAfter k u s) (calls : List RoutingCall) : MadeAfter k u (after s calls) := by
  induction calls generalizing s with
  | nil => exact h
  | cons c calls ih => exact ih (h.perform c)

/-- The context that a document is given is kept under the address of its folder. -/
theorem get?_contextFor? {doc : Url} {f : Folder} (hf : s.folderFor? doc = some f) :
    ∃ n, (s.contextFor? doc).1 = some n ∧ Table.get? (s.contextFor? doc).2.inUse f.uri = some n := by
  have hprovided := provided_contextFor? s doc
  generalize (s.contextFor? doc).1 = number, (s.contextFor? doc).2 = s' at hprovided ⊢
  cases hprovided with
  | nowhere hnone =>
      rw [hf] at hnone
      cases hnone
  | there g n hg hthere =>
      obtain rfl := Option.some.inj (hf.symm.trans hg)
      exact ⟨n, rfl, hthere⟩
  | made g hg hnone =>
      obtain rfl := Option.some.inj (hf.symm.trans hg)
      exact ⟨_, rfl, by rw [Table.get?_set, if_pos rfl]⟩

theorem get?_after_of_not_removes (h : Table.get? s.inUse u = some n) {calls : List RoutingCall}
    (hcalls : ∀ c ∈ calls, ¬ c.Removes u) : Table.get? (after s calls).inUse u = some n := by
  induction calls generalizing s with
  | nil => exact h
  | cons c calls ih =>
      obtain ⟨hc, hcalls⟩ := List.forall_mem_cons.1 hcalls
      exact ih (get?_perform_of_not_removes h hc) hcalls

/-- Any document that is served later by a folder of the same address has the same context, unless a folder change has
    removed the address; then it has one that was made after that. -/
theorem context_until_removed (hthere : Table.get? s.inUse u = some n) (hn : n < s.contexts.length)
    (later : List RoutingCall) {doc : Url} {f : Folder} (hf : (after s later).folderFor? doc = some f)
    (hu : f.uri = u) :
    ∃ m, ((after s later).contextFor? doc).1 = some m ∧ ((∀ c ∈ later, ¬ c.Removes u) → m = n) ∧
      ∀ before c behind, later = before ++ c :: behind → c.Removes u →
        (after s before).contexts.length ≤ m ∧ m ≠ n := by
  obtain ⟨m, hm, hkept⟩ := get?_contextFor? hf
  rw [hu] at hkept
  refine ⟨m, hm, fun hcalls => ?_, ?_⟩
  · have hstays := get?_perform_of_not_removes (get?_after_of_not_removes hthere hcalls) (c := .contextFor doc) id
    exact Option.some.inj (hkept.symm.trans hstays)
  · rintro before c behind rfl hremoves
    -- right after the removal the address has no context, and any later one is new
    have hremoved : MadeAfter (after s before).contexts.length u (c.perform (after s before)) := by
      refine ⟨length_le_perform _ c, fun n' hn' => ?_⟩
      rw [get?_perform_of_removes _ hremoves] at hn'
      cases hn'
    have hsplit : after s (before ++ c :: behind) = after (c.perform (after s before)) behind := List.foldl_append
    rw [hsplit] at hkept
    have hle := ((hremoved.after behind).perform (.contextFor doc)).later m hkept
    have hbefore := length_le_after s before
    exact ⟨hle, by omega⟩

end Contexts

/-- After any calls: folders stand in order of their addresses' lengths, they are those that the calls registered, and
    a document is served by the innermost one that holds it, or by its own directory. An address has one context at
    most, that of a folder of this address, with the settings given last. A document that is served has the context of
    its folder's address. Any document that is served later by a folder of this address has the same one, unless a
    folder change has removed the address; then it has one that was made after that. -/
theorem routing_after_calls (host : Tool.HostEnv) (settings : Settings) (calls : List RoutingCall) :
    let s := after { host, settings } calls
    InOrder s.folders ∧ (∀ u, (∃ f ∈ s.folders, f.uri = u) ↔ Registered u calls) ∧
    (∀ doc, Serving s.folders doc (s.folderFor? doc)) ∧
    (Table.keys s.inUse).Nodup ∧
    (∀ u n, (u, n) ∈ s.inUse → n < s.contexts.length ∧ (s.context n).folder.uri = u ∧
      (s.context n).settings = latestSettings settings calls) ∧
    (∀ doc, s.folderFor? doc = none → (s.contextFor? doc).1 = none) ∧
    ∀ doc f, s.folderFor? doc = some f → ∃ n, (s.contextFor? doc).1 = some n ∧
      (f.uri, n) ∈ (s.contextFor? doc).2.inUse ∧
      ∀ later doc' f', (after (s.contextFor? doc).2 later).folderFor? doc' = some f' → f'.uri = f.uri →
        ∃ m, ((after (s.contextFor? doc).2 later).contextFor? doc').1 = some m ∧
          ((∀ c ∈ later, ¬ c.Removes f.uri) → m = n) ∧
          ∀ before c behind, later = before ++ c :: behind → c.Removes f.uri →
            (after (s.contextFor? doc).2 before).contexts.length ≤ m ∧ m ≠ n := by
  intro s
  have hrouted : Routed (latestSettings settings calls) s := (Routed.start host settings).after calls
  refine ⟨hrouted.inOrder, fun u => ?_, serving_folderFor? hrouted.inOrder, hrouted.distinct, hrouted.keyed,
    fun doc hnone => ?_, fun doc f hf => ?_⟩
  · simpa [Registered] using exists_after { host, settings } calls u
  · rw [State.contextFor?, hnone]
  · obtain ⟨n, hn, hthere⟩ := get?_contextFor? hf
    have hmem := Table.mem_of_get? hthere
    refine ⟨n, hn, hmem, fun later doc' f' hf' hu => ?_⟩
    exact context_until_removed hthere ((hrouted.contextFor doc).keyed f.uri n hmem).1 later hf' hu

end PlaybookServer.Workspace
