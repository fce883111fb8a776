/-
Module: PlaybookServer.Proofs.Workspace.RoleFiles
Purpose: Which role's metadata a task file gets. The metadata is looked for beside the outermost directory named
  `tasks` on the way to the file. That is the one of the role unless a directory above the role has the name, or the
  role itself: then the metadata comes from a place higher up, which has nothing to do with the role.
Main exports: metaFileIn, metaPathFor?_eq_of_split, roleDirectory, taskFile, samePath_metaFileIn_iff,
  role_metadata_found_iff
-/
import PlaybookServer.Proofs.Workspace.Caches

namespace PlaybookServer.Workspace

open Files

/-! ### The outermost `tasks` -/

/-- The metadata file of a role's directory. -/
def metaFileIn (role : String) : String := joinPath (joinPath role "meta") "main.yml"

section MetadataFiles

variable {path : String} {front back : List Component}

theorem components_metaFileIn (role : String) :
    components (metaFileIn role) = components role ++ [.name "meta", .name "main.yml"] := by
  have metaName : IsName "meta" := ⟨rfl, by decide⟩
  have mainName : IsName "main.yml" := ⟨rfl, by decide⟩
  rw [metaFileIn, components_joinPath _ mainName, components_joinPath _ metaName, List.append_assoc]
  rfl

theorem takeWhile_of_split (split : components path = front ++ .name "tasks" :: back)
    (first : .name "tasks" ∉ front) : (components path).takeWhile (· ≠ .name "tasks") = front := by
  rw [split, List.takeWhile_append_of_pos]
  · simp
  · intro c member
    have other : c ≠ .name "tasks" := fun same => first (same ▸ member)
    simpa using other

/-- The metadata file lies in the directory above the first `tasks`. -/
theorem metaPathFor?_eq_of_split (split : components path = front ++ .name "tasks" :: back)
    (first : .name "tasks" ∉ front) : metaPathFor? path = some (metaFileIn (ofComponents front)) := by
  have among : (components path).contains (.name "tasks") = true := by
    rw [split]
    simp
  simp only [metaPathFor?, among, if_true, takeWhile_of_split split first]
  rfl

/-- What stands above the first `tasks` of a path is read back. -/
theorem components_ofComponents_of_split (split : components path = front ++ .name "tasks" :: back)
    (first : .name "tasks" ∉ front) : components (ofComponents front) = front := by
  have written := (written_components path).takeWhile (fun c => decide (c ≠ .name "tasks")) rfl rfl
  rw [takeWhile_of_split split first] at written
  exact components_ofComponents written

end MetadataFiles

/-! ### Files of a role -/

/-- The directory of a role in a directory of roles. -/
def roleDirectory (root role : String) : String := joinPath (joinPath root "roles") role

/-- A file below the tasks of a role. -/
def taskFile (root role rest : String) : String := joinPath (joinPath (roleDirectory root role) "tasks") rest

section TaskFiles

variable {root role rest : String} {above below : List Component}

theorem components_roleDirectory (root : String) (named : IsName role) :
    components (roleDirectory root role) = components root ++ [.name "roles", .name role] := by
  have rolesName : IsName "roles" := ⟨rfl, by decide⟩
  rw [roleDirectory, components_joinPath _ named, components_joinPath _ rolesName, List.append_assoc]
  rfl

theorem components_taskFile (root role : String) (relative : isAbsolute rest = false) :
    components (taskFile root role rest) =
      components (roleDirectory root role) ++ .name "tasks" :: innerComponents rest := by
  have tasksName : IsName "tasks" := ⟨rfl, by decide⟩
  rw [taskFile, components_joinPath_relative (joinPath_ne_empty _ tasksName) relative,
    components_joinPath _ tasksName, List.append_assoc]
  rfl

/-- The name is that of a directory above the role, or of the role. -/
theorem tasks_mem_roleDirectory_iff (root : String) (named : IsName role) :
    .name "tasks" ∈ components (roleDirectory root role) ↔ .name "tasks" ∈ components root ∨ role = "tasks" := by
  rw [components_roleDirectory root named]
  simp [eq_comm]

/-- A task file gets the metadata file beside the first `tasks` among the directory of the role and what is above. -/
theorem metaPathFor?_taskFile (relative : isAbsolute rest = false)
    (split : components (roleDirectory root role) ++ [.name "tasks"] = above ++ .name "tasks" :: below)
    (first : .name "tasks" ∉ above) :
    metaPathFor? (taskFile root role rest) = some (metaFileIn (ofComponents above)) ∧
      components (ofComponents above) = above := by
  have whole : components (taskFile root role rest) = above ++ .name "tasks" :: (below ++ innerComponents rest) := by
    rw [components_taskFile root role relative, ← List.singleton_append, ← List.append_assoc, split, List.append_assoc,
      List.cons_append]
  exact ⟨metaPathFor?_eq_of_split whole first, components_ofComponents_of_split whole first⟩

/-- The file that is found is the one of the role exactly if no directory down to the role has the name. -/
theorem samePath_metaFileIn_iff (relative : isAbsolute rest = false) :
    (∃ file, metaPathFor? (taskFile root role rest) = some file ∧
      samePath file (metaFileIn (roleDirectory root role)) = true) ↔
    .name "tasks" ∉ components (roleDirectory root role) := by
  constructor
  · rintro ⟨file, found, same⟩ among
    obtain ⟨above, below, split, first⟩ := List.eq_append_cons_of_mem among
    have more : components (roleDirectory root role) ++ [.name "tasks"] =
        above ++ .name "tasks" :: (below ++ [.name "tasks"]) := by simp [split]
    obtain ⟨higher, read⟩ := metaPathFor?_taskFile relative more first
    obtain rfl := Option.some.inj (higher.symm.trans found)
    rw [samePath, decide_eq_true_eq, components_metaFileIn, components_metaFileIn, read] at same
    -- The directory would be no longer than what is above it.
    have lengths := congrArg List.length (List.append_cancel_right same)
    rw [split] at lengths
    simp at lengths
  · intro first
    have split : components (roleDirectory root role) ++ [.name "tasks"] =
        components (roleDirectory root role) ++ .name "tasks" :: [] := rfl
    obtain ⟨own, read⟩ := metaPathFor?_taskFile relative split first
    refine ⟨_, own, ?_⟩
    rw [samePath, decide_eq_true_eq, components_metaFileIn, components_metaFileIn, read]

end TaskFiles

/-- A task file of a role gets the metadata file of the role if and only if neither a directory above the roles nor
    the role is named `tasks`. Otherwise it gets the metadata file beside the outermost of them. So in the first case,
    and with a cache that is not out of date, the collections attached to the file are those that the role's metadata
    file names, in the spelling without idle slashes and dots. -/
theorem role_metadata_found_iff (root role rest : String) (named : IsName role) (relative : isAbsolute rest = false) :
    ((∃ file, metaPathFor? (taskFile root role rest) = some file ∧
        samePath file (metaFileIn (roleDirectory root role)) = true) ↔
      .name "tasks" ∉ components root ∧ role ≠ "tasks") ∧
    (∀ above below, components (roleDirectory root role) = above ++ .name "tasks" :: below → .name "tasks" ∉ above →
      metaPathFor? (taskFile root role rest) = some (metaFileIn (ofComponents above))) ∧
    (.name "tasks" ∉ components root → role ≠ "tasks" → ∀ fs cache doc,
      components (uriToPath doc) = components (taskFile root role rest) →
      Current fs cache (components (metaFileIn (roleDirectory root role))) →
      (RoleMetadata.collectionsFor cache fs doc).1 =
        declaredAt fs (metaFileIn (ofComponents (components (roleDirectory root role))))) := by
  refine ⟨?_, ?_, ?_⟩
  · rw [samePath_metaFileIn_iff relative, tasks_mem_roleDirectory_iff root named, not_or]
  · intro above below split first
    have more : components (roleDirectory root role) ++ [.name "tasks"] =
        above ++ .name "tasks" :: (below ++ [.name "tasks"]) := by simp [split]
    exact (metaPathFor?_taskFile relative more first).1
  · intro clear other fs cache doc same current
    have first : .name "tasks" ∉ components (roleDirectory root role) := by
      rw [tasks_mem_roleDirectory_iff root named]
      simp [clear, other]
    have split : components (uriToPath doc) =
        components (roleDirectory root role) ++ .name "tasks" :: innerComponents rest := by
      rw [same, components_taskFile root role relative]
    have found := metaPathFor?_eq_of_split split first
    have read := components_ofComponents_of_split split first
    rw [collectionsFor_eq, declaredFor, found]
    · rfl
    · intro path found'
      obtain rfl := Option.some.inj (found.symm.trans found')
      rw [components_metaFileIn, read, ← components_metaFileIn]
      exact current

/-- A role below another directory of roles, in a root that is written with idle slashes. -/
theorem nested_role_finds_metadata : IsName "web" ∧ isAbsolute "sub/main.yml" = false ∧
    ∃ file, metaPathFor? (taskFile "/srv//roles/site/" "web" "sub/main.yml") = some file ∧
      samePath file (metaFileIn (roleDirectory "/srv//roles/site/" "web")) = true := by
  have named : IsName "web" := ⟨rfl, by decide⟩
  have relative : isAbsolute "sub/main.yml" = false := by decide
  have found := role_metadata_found_iff "/srv//roles/site/" "web" "sub/main.yml" named relative
  exact ⟨named, relative, found.1.2 ⟨by decide, by decide⟩⟩

/-- A directory named `tasks` above the roles is taken for that of the role. -/
theorem tasks_above_roles_hides_metadata : IsName "web" ∧ isAbsolute "main.yml" = false ∧
    metaPathFor? (taskFile "/srv/tasks/site" "web" "main.yml") = some "/srv/meta/main.yml" ∧
    samePath "/srv/meta/main.yml" (metaFileIn (roleDirectory "/srv/tasks/site" "web")) = false :=
  ⟨⟨rfl, by decide⟩, by decide, by decide, by decide⟩

end PlaybookServer.Workspace
