/-
Module: PlaybookServer.Proofs.Lint.Config
Purpose: Which configuration file a document gets when none is named. It is looked for in the directories above the
  document that lie in the folder, the folder's root included. The deepest of them that holds a file with one of the
  three names decides, and there the first of the names counts.
Main exports: HoldsConfig, IsFirstConfig, IsNearest, mem_searched_iff, nearest_config_is_found
-/
import Mathlib.Data.List.TakeWhile
import PlaybookServer.Lint.Config
import PlaybookServer.Proofs.Files.Ancestors

namespace PlaybookServer.Lint

open Files

/-! ### Configuration files in a directory -/

/-- A directory holds a configuration file. -/
def HoldsConfig (isThere : String → Bool) (dir : String) : Prop :=
  ∃ name ∈ configNames, isThere (joinPath dir name) = true

/-- A name is the first one of the table that exists in a directory. -/
structure IsFirstConfig (isThere : String → Bool) (dir name : String) : Prop where
  found : isThere (joinPath dir name) = true
  first : ∃ before after, configNames = before ++ name :: after ∧
    ∀ other ∈ before, isThere (joinPath dir other) = false

section Directory

variable {isThere : String → Bool} {dir file name : String}

theorem configIn?_eq_some_iff : configIn? isThere dir = some file ↔
    ∃ name, IsFirstConfig isThere dir name ∧ file = joinPath dir name := by
  rw [configIn?, List.find?_map, Option.map_eq_some_iff]
  constructor
  · intro ⟨name, found, same⟩
    obtain ⟨there, before, after, split, others⟩ := List.find?_eq_some_iff_append.1 found
    exact ⟨name, ⟨there, before, after, split, fun other member => by simpa using others other member⟩, same.symm⟩
  · intro ⟨name, ⟨there, before, after, split, others⟩, same⟩
    refine ⟨name, List.find?_eq_some_iff_append.2 ⟨there, before, after, split, ?_⟩, same.symm⟩
    intro other member
    simpa using others other member

theorem configIn?_eq_none_iff : configIn? isThere dir = none ↔ ¬ HoldsConfig isThere dir := by
  simp [configIn?, HoldsConfig]

/-- A configuration file lies where its directory does. -/
theorem isUnder_config {root : String} (inFolder : isUnder dir root = true) (first : IsFirstConfig isThere dir name) :
    isUnder (joinPath dir name) root = true := by
  have names : ∀ name ∈ configNames, IsName name := by
    intro name member
    simp only [configNames, List.mem_cons, List.not_mem_nil, or_false] at member
    rcases member with rfl | rfl | rfl <;> exact ⟨by decide, by decide⟩
  obtain ⟨before, after, split, -⟩ := first.first
  have named : IsName name := names name (by rw [split]; simp)
  rw [isUnder_iff] at inFolder ⊢
  rw [components_joinPath dir named]
  exact inFolder.trans (List.prefix_append _ _)

end Directory

/-! ### The nearest directory -/

/-- The directory that decides: the deepest one above the document that lies in the folder and holds a configuration
    file. -/
structure IsNearest (isThere : String → Bool) (doc root dir : String) : Prop where
  above : LiesIn doc dir
  inFolder : isUnder dir root = true
  holds : HoldsConfig isThere dir
  deepest : ∀ other, LiesIn doc other → isUnder other root = true → HoldsConfig isThere other →
    (components other).length ≤ (components dir).length

/-- The directories that are searched, in this order. -/
def searched (doc root : String) : List String :=
  match parent? doc with
  | none => []
  | some dir => (ancestors dir).takeWhile fun d => isUnder d root

section Search

variable {isThere : String → Bool} {doc root dir : String}

theorem findConfigFile?_eq_findSome? (isThere : String → Bool) (doc root : String) :
    findConfigFile? isThere doc root = (searched doc root).findSome? (configIn? isThere) := by
  rw [findConfigFile?, searched]
  cases parent? doc <;> rfl

/-- What is taken from a list in which whatever comes before a chosen element is chosen, too. -/
theorem mem_takeWhile_iff {α : Type} {p : α → Bool} {xs : List α}
    (before : xs.Pairwise fun a b => p b = true → p a = true) (x : α) :
    x ∈ xs.takeWhile p ↔ x ∈ xs ∧ p x = true := by
  constructor
  · intro member
    exact ⟨List.takeWhile_subset p member, List.mem_takeWhile_imp member⟩
  · intro ⟨member, chosen⟩
    induction xs with
    | nil => cases member
    | cons a xs ih =>
        obtain ⟨first, rest⟩ := List.pairwise_cons.1 before
        rcases List.mem_cons.1 member with rfl | later
        · rw [List.takeWhile_cons_of_pos chosen]
          exact List.mem_cons_self
        · rw [List.takeWhile_cons_of_pos (first x later chosen)]
          exact List.mem_cons_of_mem a (ih rest later)

/-- The directories above a document that lie in the folder are searched, and no others. -/
theorem mem_searched_iff : dir ∈ searched doc root ↔ LiesIn doc dir ∧ isUnder dir root = true := by
  rw [searched]
  cases found : parent? doc with
  | none =>
      constructor
      · intro member
        cases member
      · intro ⟨within, _⟩
        cases within with
        | parent found' | up found' =>
            rw [found] at found'
            cases found'
  | some parent =>
      have closed : (ancestors parent).Pairwise fun a b => isUnder b root = true → isUnder a root = true := by
        apply (ancestors_deepest_first parent).imp
        intro a b ⟨begins, _⟩ inFolder
        rw [isUnder_iff] at inFolder ⊢
        exact inFolder.trans begins
      rw [mem_takeWhile_iff closed, mem_ancestors_iff]
      apply and_congr_left'
      constructor
      · intro here
        rcases here with rfl | within
        · exact .parent found
        · exact .up found within
      · intro within
        cases within with
        | parent found' =>
            rw [found] at found'
            exact .inl (Option.some.inj found'.symm)
        | up found' rest =>
            rw [found] at found'
            cases found'
            exact .inr rest

theorem searched_deepest_first (doc root : String) :
    (searched doc root).Pairwise fun a b => (components b).length < (components a).length := by
  rw [searched]
  cases parent? doc with
  | none => exact List.Pairwise.nil
  | some dir =>
      have sorted := (ancestors_deepest_first dir).imp fun {a b} steps => steps.2
      exact sorted.sublist (List.takeWhile_sublist _)

/-- A directory that is found before the others that are searched is the deepest of those that hold a file. -/
theorem isNearest_of_split {before after : List String} (split : searched doc root = before ++ dir :: after)
    (holds : HoldsConfig isThere dir) (others : ∀ other ∈ before, ¬ HoldsConfig isThere other) :
    IsNearest isThere doc root dir := by
  have sorted := searched_deepest_first doc root
  rw [split] at sorted
  have here : dir ∈ searched doc root := by
    rw [split]
    exact List.mem_append_right before List.mem_cons_self
  obtain ⟨above, inFolder⟩ := mem_searched_iff.1 here
  refine ⟨above, inFolder, holds, ?_⟩
  intro other within otherInFolder otherHolds
  have among : other ∈ searched doc root := mem_searched_iff.2 ⟨within, otherInFolder⟩
  rw [split, List.mem_append, List.mem_cons] at among
  rcases among with earlier | same | later
  · exact absurd otherHolds (others other earlier)
  · rw [same]
  · have behind := List.pairwise_cons.1 (List.pairwise_append.1 sorted).2.1
    exact Nat.le_of_lt (behind.1 other later)

/-- Of the directories that are searched none before the nearest holds a file. -/
theorem IsNearest.split (nearest : IsNearest isThere doc root dir) : ∃ before after,
    searched doc root = before ++ dir :: after ∧ ∀ other ∈ before, ¬ HoldsConfig isThere other := by
  have here : dir ∈ searched doc root := mem_searched_iff.2 ⟨nearest.above, nearest.inFolder⟩
  obtain ⟨before, after, split⟩ := List.append_of_mem here
  refine ⟨before, after, split, ?_⟩
  intro other earlier holds
  have sorted := searched_deepest_first doc root
  rw [split] at sorted
  have deeper := (List.pairwise_append.1 sorted).2.2 other earlier dir List.mem_cons_self
  have among : other ∈ searched doc root := by
    rw [split]
    exact List.mem_append_left _ earlier
  obtain ⟨within, inFolder⟩ := mem_searched_iff.1 among
  exact absurd (nearest.deepest other within inFolder holds) (Nat.not_le_of_lt deeper)

theorem IsFirstConfig.holds {name : String} (first : IsFirstConfig isThere dir name) : HoldsConfig isThere dir := by
  obtain ⟨before, after, split, -⟩ := first.first
  refine ⟨name, ?_, first.found⟩
  rw [split]
  exact List.mem_append_right before List.mem_cons_self

theorem findConfigFile?_eq_some_iff {file : String} : findConfigFile? isThere doc root = some file ↔
    ∃ dir name, IsNearest isThere doc root dir ∧ IsFirstConfig isThere dir name ∧ file = joinPath dir name := by
  rw [findConfigFile?_eq_findSome?, List.findSome?_eq_some_iff]
  constructor
  · intro ⟨before, dir, after, split, found, others⟩
    obtain ⟨name, first, same⟩ := configIn?_eq_some_iff.1 found
    have nearest := isNearest_of_split split first.holds
      fun other member => configIn?_eq_none_iff.1 (others other member)
    exact ⟨dir, name, nearest, first, same⟩
  · intro ⟨dir, name, nearest, first, same⟩
    obtain ⟨before, after, split, others⟩ := nearest.split
    exact ⟨before, dir, after, split, configIn?_eq_some_iff.2 ⟨name, first, same⟩,
      fun other member => configIn?_eq_none_iff.2 (others other member)⟩

theorem findConfigFile?_eq_none_iff : findConfigFile? isThere doc root = none ↔
    ∀ dir, LiesIn doc dir → isUnder dir root = true → ¬ HoldsConfig isThere dir := by
  rw [findConfigFile?_eq_findSome?, List.findSome?_eq_none_iff]
  constructor
  · intro nothing dir within inFolder
    exact configIn?_eq_none_iff.1 (nothing dir (mem_searched_iff.2 ⟨within, inFolder⟩))
  · intro nothing dir member
    obtain ⟨within, inFolder⟩ := mem_searched_iff.1 member
    exact configIn?_eq_none_iff.2 (nothing dir within inFolder)

/-- No directory above a document outside a folder lies in the folder. -/
theorem isUnder_of_liesIn (within : LiesIn doc dir) (inFolder : isUnder dir root = true) :
    isUnder doc root = true := by
  rw [isUnder_iff] at inFolder ⊢
  exact inFolder.trans within.components_prefix.1

end Search

/-- Above an absolute path of a document there is one directory for each beginning of its components. The file that is
    found is the first of the three names in the deepest of those directories that lies in the folder, or is its root,
    and holds one of them. None is found exactly if there is no such directory, as for each document outside the folder;
    and none outside the folder is ever found. -/
theorem nearest_config_is_found (isThere : String → Bool) {doc : String} (absolute : isAbsolute doc = true)
    (root : String) :
    (∀ front, (∃ dir, LiesIn doc dir ∧ components dir = front) ↔
      front ≠ [] ∧ front <+: components doc ∧ front ≠ components doc) ∧
    (∀ file, findConfigFile? isThere doc root = some file ↔ ∃ dir name,
      IsNearest isThere doc root dir ∧ IsFirstConfig isThere dir name ∧ file = joinPath dir name) ∧
    (findConfigFile? isThere doc root = none ↔
      ∀ dir, LiesIn doc dir → isUnder dir root = true → ¬ HoldsConfig isThere dir) ∧
    (isUnder doc root = false → findConfigFile? isThere doc root = none) ∧
    ∀ file, findConfigFile? isThere doc root = some file → isUnder file root = true := by
  have outside : isUnder doc root = false → findConfigFile? isThere doc root = none := by
    intro apart
    apply findConfigFile?_eq_none_iff.2
    intro dir within inFolder
    rw [isUnder_of_liesIn within inFolder] at apart
    cases apart
  have inside : ∀ file, findConfigFile? isThere doc root = some file → isUnder file root = true := by
    intro file found
    obtain ⟨dir, name, nearest, first, same⟩ := findConfigFile?_eq_some_iff.1 found
    rw [same]
    exact isUnder_config nearest.inFolder first
  exact ⟨exists_liesIn_iff absolute, fun _ => findConfigFile?_eq_some_iff, findConfigFile?_eq_none_iff, outside, inside⟩

/-- Two files with a name of the table, one of them outside the folder. -/
def twoConfigs (path : String) : Bool :=
  ["/work/.ansible-lint", "/work/site/roles/.ansible-lint.yml"].contains path

/-- The one in the folder is found from two directories below it. -/
theorem config_of_role_is_found : isAbsolute "/work/site/roles/web/tasks/main.yml" = true ∧
    ∃ dir name, IsNearest twoConfigs "/work/site/roles/web/tasks/main.yml" "/work/site" dir ∧
      IsFirstConfig twoConfigs dir name ∧ "/work/site/roles/.ansible-lint.yml" = joinPath dir name := by
  have absolute : isAbsolute "/work/site/roles/web/tasks/main.yml" = true := by decide
  have found : findConfigFile? twoConfigs "/work/site/roles/web/tasks/main.yml" "/work/site" =
      some "/work/site/roles/.ansible-lint.yml" := by decide +kernel
  exact ⟨absolute, ((nearest_config_is_found twoConfigs absolute "/work/site").2.1 _).1 found⟩

end PlaybookServer.Lint
