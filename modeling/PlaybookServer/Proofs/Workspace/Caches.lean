/-
Module: PlaybookServer.Proofs.Workspace.Caches
Purpose: What the caches of configurations and of role metadata answer along a history of reads, changes of files and
  announcements of changes. Where every change is announced before the file is read, they answer what the files say.
  A configuration is kept for all spellings of its path, as it was read under the first of them.
Main exports: CacheStep, Caches.after, Announced, loadedAs?, freshList, freshFault, declaredFor,
  caches_answer_what_files_say
-/
import Mathlib.Data.List.Induction
import PlaybookServer.Files.Disk
import PlaybookServer.Lint.Config
import PlaybookServer.Proofs.Diagnostic.Table
import PlaybookServer.Proofs.Files.Path
import PlaybookServer.Workspace.RoleMetadata

namespace PlaybookServer.Workspace

open Files Lint

/-! ### Histories -/

/-- What happens to the caches, or to the files behind them. -/
inductive CacheStep where
  | readConfig (path : String)
  | readRoles (doc : Url)
  /-- A batch of events: these files are said to have changed. -/
  | announce (changed : List Url)
  /-- Something outside changes files, which are as follows from now on. -/
  | change (fs : FileView)

/-- The caches of a folder, and the files. -/
structure Caches where
  fs : FileView
  configs : ConfigCache := []
  roles : RoleMetadata := []

namespace Caches

/-- What a step leaves. -/
def step (c : Caches) : CacheStep → Caches
  | .readConfig path => { c with configs := (c.configs.get c.fs path).2.2 }
  | .readRoles doc => { c with roles := (c.roles.collectionsFor c.fs doc).2 }
  | .announce changed => { c with configs := c.configs.forget changed, roles := c.roles.forget changed }
  | .change fs => { c with fs }

/-- What a history leaves, from empty caches on. -/
def after (fs : FileView) (h : List CacheStep) : Caches := h.foldl step { fs }

/-- What a read of a configuration file answers: its warn list, and what the user is told. -/
def config (c : Caches) (path : String) : WarnList × Option String :=
  ((c.configs.get c.fs path).1, (c.configs.get c.fs path).2.1)

/-- What a read of a document's role metadata answers. -/
def collections (c : Caches) (doc : Url) : List String := (c.roles.collectionsFor c.fs doc).1

theorem after_concat (fs : FileView) (h : List CacheStep) (s : CacheStep) :
    after fs (h ++ [s]) = (after fs h).step s := by
  simp [after, List.foldl_append]

end Caches

/-- Whether one of some events is about a file. -/
def Announces (changed : List Url) (file : List Component) : Bool :=
  changed.any fun u => components (uriToPath u) = file

/-- Whether every change of a file, under any spelling of its path, is announced later on. A history in which this comes
    before the next read of the file has this property at each read. -/
def Announced (fs : FileView) (h : List CacheStep) (file : List Component) : Prop :=
  ∀ before view later, h = before ++ .change view :: later →
    (∃ path, components path = file ∧ view.read path ≠ (Caches.after fs before).fs.read path) →
    ∃ changed, .announce changed ∈ later ∧ Announces changed file = true

section Announced

variable {fs : FileView} {h : List CacheStep} {file : List Component}

theorem announced_of_announces {changed : List Url} (announces : Announces changed file = true) :
    Announced fs (h ++ [.announce changed]) file := by
  intro before view later split _
  refine ⟨changed, ?_, announces⟩
  rcases List.eq_nil_or_concat later with rfl | ⟨front, last, rfl⟩
  · have same := congrArg List.getLast? split
    simp at same
  · have same := congrArg List.getLast? split
    simp only [List.getLast?_append, List.getLast?_cons] at same
    simp at same
    simp [same]

/-- Before a step that does not announce the file, its changes are announced already. -/
theorem Announced.before {s : CacheStep} (announced : Announced fs (h ++ [s]) file)
    (other : ∀ changed, s = .announce changed → Announces changed file = false) : Announced fs h file := by
  rintro before view later rfl altered
  obtain ⟨changed, member, announces⟩ := announced before view (later ++ [s]) (by simp) altered
  rcases List.mem_append.1 member with earlier | last
  · exact ⟨changed, earlier, announces⟩
  · have silent := other changed (List.mem_singleton.1 last).symm
    rw [silent] at announces
    cases announces

/-- A change that has not been announced yet left the file as it was. -/
theorem Announced.read_eq {view : FileView} (announced : Announced fs (h ++ [.change view]) file) {path : String}
    (spelled : components path = file) : view.read path = (Caches.after fs h).fs.read path := by
  by_contra altered
  obtain ⟨changed, member, -⟩ := announced h view [] rfl ⟨path, spelled, altered⟩
  cases member

end Announced

/-! ### What the files say -/

/-- The warn list of a configuration file as it is now, empty if it cannot be read. -/
def freshList (fs : FileView) (path : String) : WarnList := (ConfigCache.load fs path).toOption.getD []

/-- Why a configuration file cannot be read now, as the user is told. -/
def freshFault (fs : FileView) (path : String) : Option String :=
  match ConfigCache.load fs path with
  | .ok _ => none
  | .error reason => some ("Could not load lint config " ++ path ++ ": " ++ reason)

/-- The collections that a metadata file names now, none if it cannot be read. -/
def declaredAt (fs : FileView) (path : String) : List String :=
  match fs.read path with
  | .ok text => declaredIn text
  | .error _ => []

/-- The collections that the metadata file of a document's role names now. -/
def declaredFor (fs : FileView) (doc : Url) : List String :=
  ((metaPathFor? (uriToPath doc)).map (declaredAt fs)).getD []

/-- The spelling under which a file is kept after a step. -/
def keptAs (file : List Component) (kept : Option String) : CacheStep → Option String
  | .readConfig path => if components path = file then kept.or (some path) else kept
  | .announce changed => if Announces changed file then none else kept
  | .readRoles _ | .change _ => kept

/-- The spelling under which a file was first read as a configuration, since it was last announced. -/
def loadedAs? (file : List Component) (h : List CacheStep) : Option String := h.foldl (keptAs file) none

theorem loadedAs?_concat (file : List Component) (h : List CacheStep) (s : CacheStep) :
    loadedAs? file (h ++ [s]) = keptAs file (loadedAs? file h) s := by
  simp [loadedAs?, List.foldl_append]

theorem components_of_loadedAs? {file : List Component} {h : List CacheStep} {path : String}
    (loaded : loadedAs? file h = some path) : components path = file := by
  induction h using List.reverseRecOn with
  | nil => cases loaded
  | append_singleton h s ih =>
      rw [loadedAs?_concat] at loaded
      cases s with
      | readConfig read =>
          simp only [keptAs] at loaded
          split at loaded
          next same =>
              rcases Option.or_eq_some_iff.1 loaded with earlier | ⟨-, now⟩
              · exact ih earlier
              · obtain rfl := Option.some.inj now
                exact same
          next => exact ih loaded
      | readRoles doc => exact ih loaded
      | announce changed =>
          simp only [keptAs, Option.ite_none_left_eq_some] at loaded
          exact ih loaded.2
      | change view => exact ih loaded

/-! ### Forgetting -/

/-- A batch of events empties the entries of the files that it is about, and no others. -/
theorem get?_forget {α : Type} (t : Table (List Component) α) (changed : List Url) (file : List Component) :
    Table.get? (changed.foldl (fun c u => Table.erase c (components (uriToPath u))) t) file
      = if Announces changed file then none else Table.get? t file := by
  induction changed generalizing t with
  | nil => rfl
  | cons u changed ih =>
      have here : Announces (u :: changed) file
          = (decide (components (uriToPath u) = file) || Announces changed file) := rfl
      rw [List.foldl_cons, ih, Table.get?_erase, here]
      by_cases same : components (uriToPath u) = file
      · simp [same]
      · simp [same, Ne.symm same]

theorem get?_forget_configs (t : ConfigCache) (changed : List Url) (file : List Component) :
    Table.get? (t.forget changed) file = if Announces changed file then none else Table.get? t file :=
  get?_forget t changed file

theorem get?_forget_roles (t : RoleMetadata) (changed : List Url) (file : List Component) :
    Table.get? (t.forget changed) file = if Announces changed file then none else Table.get? t file :=
  get?_forget t changed file

/-! ### Configurations -/

section Configs

variable {fs : FileView} {h : List CacheStep} {cache : ConfigCache} {path : String} {file : List Component}

/-- What is kept is answered without a word. -/
theorem get_of_kept {list : WarnList} (kept : Table.get? cache (components path) = some list) :
    cache.get fs path = (list, none, cache) := by
  simp only [ConfigCache.get, kept]

/-- What is not kept is read, and kept from then on. -/
theorem get_of_unread (unread : Table.get? cache (components path) = none) : cache.get fs path =
    (freshList fs path, freshFault fs path, Table.set cache (components path) (freshList fs path)) := by
  simp only [ConfigCache.get, unread, freshList, freshFault]
  cases ConfigCache.load fs path <;> rfl

/-- After a read the file is kept as it was before, or as it is now; other files stay as they are. -/
theorem get?_get (cache : ConfigCache) (fs : FileView) (path : String) (file : List Component) :
    Table.get? (cache.get fs path).2.2 file = if components path = file
      then (Table.get? cache file).or (some (freshList fs path)) else Table.get? cache file := by
  cases kept : Table.get? cache (components path) with
  | some list =>
      rw [get_of_kept kept]
      split
      next same => rw [← same, kept]; rfl
      next => rfl
  | none =>
      rw [get_of_unread kept, Table.get?_set]
      by_cases same : components path = file
      · rw [if_pos same.symm, if_pos same, ← same, kept]
        rfl
      · rw [if_neg (Ne.symm same), if_neg same]

theorem freshList_congr {view : FileView} {spelling : String} (same : view.read spelling = fs.read path) :
    freshList view spelling = freshList fs path := by
  rw [freshList, freshList, ConfigCache.load, ConfigCache.load, same]

/-- The cache holds for a file what it says now under the spelling in which it was read. -/
theorem get?_configs_after (announced : Announced fs h file) : Table.get? (Caches.after fs h).configs file
    = (loadedAs? file h).map (freshList (Caches.after fs h).fs) := by
  induction h using List.reverseRecOn with
  | nil => rfl
  | append_singleton h s ih =>
      rw [Caches.after_concat, loadedAs?_concat]
      cases s with
      | readConfig path =>
          have known := ih (announced.before (by rintro _ ⟨⟩))
          simp only [Caches.step, keptAs, get?_get, known]
          split
          next => cases loadedAs? file h <;> rfl
          next => rfl
      | readRoles doc =>
          simp only [Caches.step, keptAs]
          exact ih (announced.before (by rintro _ ⟨⟩))
      | announce changed =>
          simp only [Caches.step, keptAs, get?_forget_configs]
          cases announces : Announces changed file with
          | true => rfl
          | false =>
              apply ih
              apply announced.before
              rintro _ ⟨⟩
              exact announces
      | change view =>
          rw [keptAs]
          have known := ih (announced.before (by rintro _ ⟨⟩))
          simp only [Caches.step, known]
          cases loaded : loadedAs? file h with
          | none => rfl
          | some path =>
              have same := freshList_congr (announced.read_eq (components_of_loadedAs? loaded))
              rw [Option.map_some, Option.map_some, same]

end Configs

/-! ### Role metadata -/

section Roles

variable {fs : FileView} {h : List CacheStep} {cache : RoleMetadata} {doc : Url} {path : String}
  {file : List Component}

/-- The components of a metadata file are those of its role and two names. -/
theorem components_metaPath {tasks : String} (found : metaPathFor? tasks = some path) : ∃ role : List Component,
    path = joinPath (joinPath (ofComponents role) "meta") "main.yml" ∧
    components path = role ++ [Component.name "meta"] ++ [Component.name "main.yml"] := by
  simp only [metaPathFor?, Option.ite_none_right_eq_some, Option.some.injEq] at found
  obtain ⟨-, rfl⟩ := found
  have written := (written_components tasks).takeWhile (fun c => decide (c ≠ .name "tasks")) rfl rfl
  have metaName : IsName "meta" := ⟨rfl, by decide⟩
  have mainName : IsName "main.yml" := ⟨rfl, by decide⟩
  refine ⟨_, rfl, ?_⟩
  rw [components_joinPath _ mainName, components_joinPath _ metaName, components_ofComponents written]

/-- Metadata files have one spelling each. -/
theorem metaPathFor?_inj {a b m n : String} (ha : metaPathFor? a = some m) (hb : metaPathFor? b = some n)
    (same : components m = components n) : m = n := by
  obtain ⟨roleA, rfl, componentsA⟩ := components_metaPath ha
  obtain ⟨roleB, rfl, componentsB⟩ := components_metaPath hb
  rw [componentsA, componentsB, List.append_assoc, List.append_assoc] at same
  rw [List.append_cancel_right same]

theorem declaredAt_congr {view : FileView} (same : view.read path = fs.read path) :
    declaredAt view path = declaredAt fs path := by
  rw [declaredAt, declaredAt, same]

/-- Whether a cache holds what the metadata file of these components names now, if it holds anything for it. -/
def Current (fs : FileView) (roles : RoleMetadata) (file : List Component) : Prop :=
  ∀ list, Table.get? roles file = some list →
    ∃ tasks path, metaPathFor? tasks = some path ∧ components path = file ∧ list = declaredAt fs path

/-- What is answered for a document whose metadata file is current is what the file names. -/
theorem collectionsFor_eq (current : ∀ path, metaPathFor? (uriToPath doc) = some path →
    Current fs cache (components path)) : (cache.collectionsFor fs doc).1 = declaredFor fs doc := by
  delta RoleMetadata.collectionsFor RoleMetadata.get?
  rw [declaredFor]
  cases found : metaPathFor? (uriToPath doc) with
  | none => rfl
  | some path =>
      dsimp only
      cases kept : Table.get? cache (components path) with
      | none => rfl
      | some list =>
          obtain ⟨tasks, other, named, same, rfl⟩ := current path found list kept
          rw [metaPathFor?_inj named found same]
          rfl

/-- A read keeps current what is current. -/
theorem current_collectionsFor (current : Current fs cache file) :
    Current fs (cache.collectionsFor fs doc).2 file := by
  delta RoleMetadata.collectionsFor RoleMetadata.get?
  cases found : metaPathFor? (uriToPath doc) with
  | none => exact current
  | some path =>
      dsimp only
      cases kept : Table.get? cache (components path) with
      | some list => exact current
      | none =>
          intro list now
          rw [Table.get?_set] at now
          split at now
          next same =>
              obtain rfl := Option.some.inj now
              exact ⟨_, path, found, same.symm, rfl⟩
          next => exact current list now

/-- The cache holds for a metadata file what the file names now, if it holds anything for it. -/
theorem current_after (announced : Announced fs h file) :
    Current (Caches.after fs h).fs (Caches.after fs h).roles file := by
  induction h using List.reverseRecOn with
  | nil =>
      rintro list ⟨⟩
  | append_singleton h s ih =>
      rw [Caches.after_concat]
      cases s with
      | readConfig path => exact ih (announced.before (by rintro _ ⟨⟩))
      | readRoles doc =>
          simp only [Caches.step]
          exact current_collectionsFor (ih (announced.before (by rintro _ ⟨⟩)))
      | announce changed =>
          intro list kept
          simp only [Caches.step, get?_forget_roles, Option.ite_none_left_eq_some, Bool.not_eq_true] at kept
          apply ih
          · apply announced.before
            rintro _ ⟨⟩
            exact kept.1
          · exact kept.2
      | change view =>
          intro list kept
          obtain ⟨tasks, path, named, same, rfl⟩ := ih (announced.before (by rintro _ ⟨⟩)) list kept
          exact ⟨tasks, path, named, same, (declaredAt_congr (announced.read_eq same)).symm⟩

end Roles

/-! ### Events about other files -/

section Others

variable {c : Caches} {changed : List Url} {path : String} {doc : Url}

theorem config_announce_other (other : Announces changed (components path) = false) :
    (c.step (.announce changed)).config path = c.config path := by
  have same : Table.get? (c.configs.forget changed) (components path) = Table.get? c.configs (components path) := by
    rw [get?_forget_configs, other]
    rfl
  simp only [Caches.config, Caches.step]
  cases kept : Table.get? c.configs (components path) with
  | some list => rw [get_of_kept kept, get_of_kept (same.trans kept)]
  | none => rw [get_of_unread kept, get_of_unread (same.trans kept)]

theorem collections_announce_other
    (other : ∀ path, metaPathFor? (uriToPath doc) = some path → Announces changed (components path) = false) :
    (c.step (.announce changed)).collections doc = c.collections doc := by
  simp only [Caches.collections, Caches.step]
  delta RoleMetadata.collectionsFor RoleMetadata.get?
  cases found : metaPathFor? (uriToPath doc) with
  | none => rfl
  | some path =>
      have same : Table.get? (c.roles.forget changed) (components path) = Table.get? c.roles (components path) := by
        rw [get?_forget_roles, other path found]
        rfl
      dsimp only
      rw [same]
      cases Table.get? c.roles (components path) <;> rfl

end Others

/-! ### Answers -/

/-- A configuration that is kept is answered as it was read under the spelling of then; otherwise it is read now, and
    what is wrong with it is told. -/
theorem config_after {fs : FileView} {h : List CacheStep} {path : String}
    (announced : Announced fs h (components path)) : (Caches.after fs h).config path =
      match loadedAs? (components path) h with
      | some spelling => (freshList (Caches.after fs h).fs spelling, none)
      | none => (freshList (Caches.after fs h).fs path, freshFault (Caches.after fs h).fs path) := by
  have known := get?_configs_after announced
  rw [Caches.config]
  cases loaded : loadedAs? (components path) h with
  | some spelling =>
      rw [loaded] at known
      rw [get_of_kept known]
  | none =>
      rw [loaded] at known
      rw [get_of_unread known]

/-- Where every change of a file is announced before the file is read, a configuration is answered as it is read now
    under the spelling in which it was first read since the file was last announced, and what is wrong with it is told
    exactly at that first read. So it is answered as it is read now, wherever the files are the same under both
    spellings. The collections of a document are those that its metadata file names now. Events about other files
    change neither answer. -/
theorem caches_answer_what_files_say (fs : FileView) (h : List CacheStep) :
    (∀ path, Announced fs h (components path) →
      ((Caches.after fs h).config path).1
        = freshList (Caches.after fs h).fs ((loadedAs? (components path) h).getD path) ∧
      ((Caches.after fs h).config path).2
        = (if (loadedAs? (components path) h).isSome then none else freshFault (Caches.after fs h).fs path) ∧
      ((∀ spelling, loadedAs? (components path) h = some spelling →
        (Caches.after fs h).fs.read spelling = (Caches.after fs h).fs.read path) →
        ((Caches.after fs h).config path).1 = freshList (Caches.after fs h).fs path)) ∧
    (∀ doc, (∀ path, metaPathFor? (uriToPath doc) = some path → Announced fs h (components path)) →
      (Caches.after fs h).collections doc = declaredFor (Caches.after fs h).fs doc) ∧
    (∀ changed path, Announces changed (components path) = false →
      (Caches.after fs (h ++ [.announce changed])).config path = (Caches.after fs h).config path) ∧
    ∀ changed doc, (∀ path, metaPathFor? (uriToPath doc) = some path → Announces changed (components path) = false) →
      (Caches.after fs (h ++ [.announce changed])).collections doc = (Caches.after fs h).collections doc := by
  constructor
  · intro path announced
    rw [config_after announced]
    cases loadedAs? (components path) h with
    | none => exact ⟨rfl, rfl, fun _ => rfl⟩
    | some spelling =>
        refine ⟨rfl, rfl, ?_⟩
        intro alike
        exact freshList_congr (alike spelling rfl)
  constructor
  · intro doc announced
    apply collectionsFor_eq
    intro path found
    exact current_after (announced path found)
  constructor
  · intro changed path other
    rw [Caches.after_concat]
    exact config_announce_other other
  · intro changed doc other
    rw [Caches.after_concat]
    exact collections_announce_other other

/-! ### A file that changes, and one with two spellings -/

/-- Files of which a configuration and the metadata of a role can be read. -/
def twoFiles (config metadata : String) : FileView where
  read path :=
    if path = "/w/.ansible-lint" then .ok config
    else if path = "/w/roles/web/meta/main.yml" then .ok metadata
    else .error .notFound
  isThere _ := false
  listFiles _ _ := []
  listDirs _ := []

/-- The address of a file. -/
def fileUrl (path : String) : Url := { scheme := "file", authority := some "", path }

/-- Both files are read, change and are announced. -/
def bothChange : List CacheStep :=
  [.readConfig "/w/.ansible-lint", .readRoles (fileUrl "/w/roles/web/tasks/main.yml"),
    .change (twoFiles "{warn_list: [b]}" "{collections: [c.d]}")] ++
  [.announce [fileUrl "/w/.ansible-lint", fileUrl "/w/roles/web/meta/main.yml"]]

theorem both_are_read_again_after_announcement :
    ((Caches.after (twoFiles "{warn_list: [a]}" "{collections: [a.b]}") bothChange).config "/w/.ansible-lint").1
      = ["b"] ∧
    (Caches.after (twoFiles "{warn_list: [a]}" "{collections: [a.b]}") bothChange).collections
      (fileUrl "/w/roles/web/tasks/main.yml") = ["c.d"] := by
  obtain ⟨configs, roles, -, -⟩ :=
    caches_answer_what_files_say (twoFiles "{warn_list: [a]}" "{collections: [a.b]}") bothChange
  have files : (Caches.after (twoFiles "{warn_list: [a]}" "{collections: [a.b]}") bothChange).fs
      = twoFiles "{warn_list: [b]}" "{collections: [c.d]}" := rfl
  constructor
  · have answer := (configs "/w/.ansible-lint" (announced_of_announces (by decide +kernel))).1
    rw [answer, files]
    decide +kernel
  · have meta_ : metaPathFor? (uriToPath (fileUrl "/w/roles/web/tasks/main.yml"))
        = some "/w/roles/web/meta/main.yml" := by decide +kernel
    have answer := roles (fileUrl "/w/roles/web/tasks/main.yml") (by
      intro path found
      rw [meta_] at found
      obtain rfl := Option.some.inj found
      exact announced_of_announces (by decide +kernel))
    rw [answer, files]
    decide +kernel

/-- A disk with a configuration file. -/
def configDisk : Disk where
  entries := [(["w"], .dir), (["w", ".ansible-lint"], .file ("{warn_list: [x]}".toList.map Char.toNat) false)]

/-- The names on the way to the configuration file can be followed. -/
theorem configDisk_names : (¬ 255 < "w".utf8ByteSize ∧ configDisk.entries.lookup ["w"] = some .dir) ∧
    ¬ 255 < ".ansible-lint".utf8ByteSize ∧ configDisk.entries.lookup ["w", ".ansible-lint"]
      = some (.file ("{warn_list: [x]}".toList.map Char.toNat) false) := by
  decide

/-- What stands before a slash at the end must be a directory. -/
theorem freshList_with_slash : freshList configDisk.view "/w/.ansible-lint/" = [] := by
  have names : Disk.names "/w/.ansible-lint/" = ["w", ".ansible-lint", "."] := by decide
  have plain : ¬ 4096 ≤ "/w/.ansible-lint/".utf8ByteSize ∧ "/w/.ansible-lint/".toList.contains '\x00' = false := by
    decide
  have led : configDisk.follow "/w/.ansible-lint/" = .error .notADirectory := by
    simp [Disk.follow, Disk.walkPath, names, plain, Disk.walk, Disk.entry?, configDisk_names]
  have text : configDisk.view.read "/w/.ansible-lint/" = .error .notADirectory := by
    simp only [Disk.view, Disk.read, Disk.readBytes, led]
    rfl
  rw [freshList, ConfigCache.load, text]
  rfl

theorem freshList_without_slash : freshList configDisk.view "/w/.ansible-lint" = ["x"] := by
  have names : Disk.names "/w/.ansible-lint" = ["w", ".ansible-lint"] := by decide
  have plain : ¬ 4096 ≤ "/w/.ansible-lint".utf8ByteSize ∧ "/w/.ansible-lint".toList.contains '\x00' = false := by
    decide
  have led : configDisk.follow "/w/.ansible-lint"
      = .ok (.found ["w", ".ansible-lint"] (.file ("{warn_list: [x]}".toList.map Char.toNat) false)) := by
    simp [Disk.follow, Disk.walkPath, names, plain, Disk.walk, Disk.entry?, configDisk_names]
  have text : configDisk.view.read "/w/.ansible-lint" = .ok "{warn_list: [x]}" := by
    simp only [Disk.view, Disk.read, Disk.readBytes, led]
    decide +kernel
  rw [freshList, ConfigCache.load, text]
  decide +kernel

/-- A slash at the end makes a file one that cannot be read, for all spellings of its path: nothing has changed, but
    the file is taken for an empty configuration. -/
theorem slash_hides_configuration : ¬ ∀ (fs : FileView) (h : List CacheStep) (path : String),
    Announced fs h (components path) →
    ((Caches.after fs h).config path).1 = freshList (Caches.after fs h).fs path := by
  intro claim
  have announced : Announced configDisk.view [.readConfig "/w/.ansible-lint/"] (components "/w/.ansible-lint") := by
    intro before view later split
    have member : CacheStep.change view ∈ [CacheStep.readConfig "/w/.ansible-lint/"] := by simp [split]
    cases member with
    | tail _ rest => cases rest
  have answer := claim _ _ _ announced
  have loaded : loadedAs? (components "/w/.ansible-lint") [.readConfig "/w/.ansible-lint/"]
      = some "/w/.ansible-lint/" := by
    decide
  have fs : (Caches.after configDisk.view [.readConfig "/w/.ansible-lint/"]).fs = configDisk.view := rfl
  rw [config_after announced, loaded, fs, freshList_without_slash] at answer
  dsimp only at answer
  rw [freshList_with_slash] at answer
  cases answer

end PlaybookServer.Workspace
