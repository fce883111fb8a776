/-
Module: PlaybookServer.Proofs.Files.Ancestors
Purpose: The directories above a path. The parent of a path has all its components but the last, and a shorter text, so
  the way upward ends. From an absolute path it passes one directory for each beginning of the components, the deepest
  first.
Main exports: components_parent?, length_parent?, LiesIn, exists_liesIn_iff, mem_ancestors_iff, ancestors_deepest_first
-/
import Mathlib.Data.List.Induction
import PlaybookServer.Proofs.Files.Path

namespace PlaybookServer.Files

open Text

/-! ### Trailing slashes and dots -/

section Trailing

variable {base : String}

theorem components_dot_end (nonempty : base ≠ "") : components (base ++ "/.") = components base := by
  have nothing : innerComponents "." = [] := rfl
  have together : "/" ++ "." = "/." := rfl
  have trailing := components_slash nonempty "."
  rw [nothing, List.append_nil, String.append_assoc, together] at trailing
  exact trailing

/-- What is dropped at the end of a path is no component of it. -/
theorem components_dropTrailing (fuel : Nat) (cs : List Char) :
    components (String.ofList (dropTrailing fuel cs)) = components (String.ofList cs) := by
  have nonempty : ∀ {rest : List Char}, ¬ rest.isEmpty = true → String.ofList rest.reverse ≠ "" := by
    intro rest more empty
    apply more
    simpa using congrArg String.toList empty
  fun_induction dropTrailing fuel cs with
  | case1 | case2 | case6 => rfl
  | case3 fuel cs rest turned more ih =>
      rw [List.reverse_eq_iff, List.reverse_cons] at turned
      subst turned
      rw [ih, String.ofList_append]
      exact (components_slash_end (nonempty more)).symm
  | case4 fuel cs rest turned alone =>
      rw [List.isEmpty_iff.1 alone, List.reverse_eq_iff] at turned
      subst turned
      rfl
  | case5 fuel cs rest turned more ih =>
      rw [List.reverse_eq_iff, List.reverse_cons, List.reverse_cons, List.append_assoc] at turned
      subst turned
      rw [ih, String.ofList_append]
      exact (components_dot_end (nonempty more)).symm

/-- Whether a text ends in a slash only if that is all of it, and never in a slash and a dot. -/
structure Tidy (cs : List Char) : Prop where
  slash : ∀ stem, cs = stem ++ ['/'] → stem = []
  dot : ∀ stem, cs ≠ stem ++ ['/', '.']

theorem tidy_slash : Tidy ['/'] where
  slash stem same := by
    have lengths := congrArg List.length same
    simpa using lengths
  dot stem same := by
    have lengths := congrArg List.length same
    simp at lengths

theorem tidy_dropTrailing (fuel : Nat) (cs : List Char) (enough : cs.length < fuel) :
    Tidy (dropTrailing fuel cs) := by
  fun_induction dropTrailing fuel cs with
  | case1 => exact absurd enough (Nat.not_lt_zero _)
  | case2 fuel cs rest turned alone =>
      rw [List.isEmpty_iff.1 alone, List.reverse_eq_iff] at turned
      subst turned
      exact tidy_slash
  | case3 fuel cs rest turned more ih =>
      apply ih
      rw [← List.length_reverse, turned, List.length_cons] at enough
      rw [List.length_reverse]
      omega
  | case4 => exact tidy_slash
  | case5 fuel cs rest turned more ih =>
      apply ih
      rw [← List.length_reverse, turned, List.length_cons, List.length_cons] at enough
      rw [List.length_reverse]
      omega
  | case6 fuel cs noSlash noDot =>
      constructor
      · intro stem same
        apply absurd _ (noSlash stem.reverse)
        simp [same]
      · intro stem same
        apply noDot stem.reverse
        simp [same]

theorem length_dropTrailing_le (fuel : Nat) (cs : List Char) : (dropTrailing fuel cs).length ≤ cs.length := by
  fun_induction dropTrailing fuel cs with
  | case1 | case2 | case6 => exact Nat.le_refl _
  | case3 fuel cs rest turned more ih =>
      rw [← @List.length_reverse _ cs, turned, List.length_cons]
      rw [List.length_reverse] at ih
      omega
  | case4 fuel cs rest turned alone =>
      rw [← @List.length_reverse _ cs, turned, List.length_cons, List.length_cons]
      exact Nat.succ_le_succ (Nat.zero_le _)
  | case5 fuel cs rest turned more ih =>
      rw [← @List.length_reverse _ cs, turned, List.length_cons, List.length_cons]
      rw [List.length_reverse] at ih
      omega

end Trailing

/-! ### The parent -/

section Parent

variable {path dir base tail : String}

/-- What comes after the last slash of a path is its last component. -/
theorem components_slash_name {c : Component} (noSlash : '/' ∉ tail.toList) (read : component? tail = some c) :
    components (base ++ "/" ++ tail) = components (base ++ "/") ++ [c] := by
  have alone : innerComponents tail = [c] := by
    rw [innerComponents, pieces_of_noSlash noSlash]
    exact List.filterMap_cons_some read
  by_cases root : base = ""
  · rw [root, String.empty_append, components_root, alone]
    rfl
  · rw [components_slash root, components_slash_end root, alone]

/-- A path without a slash has at most one component. -/
theorem dropLast_components_of_noSlash (noSlash : '/' ∉ path.toList) : (components path).dropLast = [] := by
  rw [components, pieces_of_noSlash noSlash, isAbsolute_of_noSlash noSlash]
  by_cases dot : path = "."
  · rw [dot]
    rfl
  · cases read : component? path with
    | none => simp [dot, read]
    | some c => simp [dot, read]

/-- A text is cut behind its last slash. -/
theorem exists_last_slash (cs : List Char) : ∃ stem tail, cs = stem ++ tail ∧ '/' ∉ tail ∧
    stem = (cs.reverse.dropWhile (· ≠ '/')).reverse ∧ (stem = [] ∨ ∃ base, stem = base ++ ['/']) := by
  refine ⟨_, (cs.reverse.takeWhile (· ≠ '/')).reverse, ?_, ?_, rfl, ?_⟩
  · rw [← List.reverse_append, List.takeWhile_append_dropWhile, List.reverse_reverse]
  · intro member
    have other := List.mem_takeWhile_imp (List.mem_reverse.1 member)
    simp at other
  · cases rest : cs.reverse.dropWhile (· ≠ '/') with
    | nil => exact .inl rfl
    | cons c more =>
        have last := List.head_dropWhile_not (fun c => decide (c ≠ '/')) (rest ▸ List.cons_ne_nil c more)
        simp only [rest, List.head_cons] at last
        obtain rfl : c = '/' := by simpa using last
        exact .inr ⟨more.reverse, List.reverse_cons⟩

/-- What stands behind a slash is a component, if the text is tidy and not the root. -/
theorem exists_component?_of_tidy {base tail : List Char} (tidy : Tidy (base ++ ['/'] ++ tail))
    (other : base ++ ['/'] ++ tail ≠ ['/']) : ∃ c, component? (String.ofList tail) = some c := by
  have notEmpty : tail ≠ [] := by
    intro nothing
    rw [nothing, List.append_nil] at tidy other
    rw [tidy.slash base rfl] at other
    exact other rfl
  have noDot : tail ≠ ['.'] := by
    intro dot
    apply tidy.dot base
    rw [dot, List.append_assoc]
    rfl
  have text : String.ofList tail ≠ "" ∧ String.ofList tail ≠ "." := by
    constructor
    · intro empty
      exact notEmpty (by simpa using congrArg String.toList empty)
    · intro dot
      exact noDot (by simpa using congrArg String.toList dot)
  cases read : component? (String.ofList tail) with
  | some c => exact ⟨c, rfl⟩
  | none =>
      rw [component?] at read
      by_cases up : String.ofList tail = ".." <;> simp [text, up] at read

/-- A path that has a parent is, apart from what does not count at its end, the text of the parent and one component
    more. -/
theorem exists_of_parent? (found : parent? path = some dir) : ∃ stem tail : List Char,
    components path = components (String.ofList (stem ++ tail)) ∧ (stem ++ tail).length ≤ path.length ∧
      components dir = components (String.ofList stem) ∧ dir.length ≤ stem.length ∧ '/' ∉ tail ∧ tail ≠ [] ∧
      (stem = [] ∨ ∃ base c, stem = base ++ ['/'] ∧ component? (String.ofList tail) = some c) := by
  have same := components_dropTrailing (path.toList.length + 1) path.toList
  have shorter := length_dropTrailing_le (path.toList.length + 1) path.toList
  have tidy := tidy_dropTrailing _ path.toList (Nat.lt_succ_self _)
  rw [String.ofList_toList] at same
  simp only [parent?] at found
  generalize dropTrailing (path.toList.length + 1) path.toList = cs at same shorter tidy found
  obtain ⟨stem, tail, rfl, noSlash, isStem, shape⟩ := exists_last_slash cs
  rw [String.length_toList] at shorter
  split at found
  next => cases found
  next => cases found
  next last notRoot atEnd =>
      rw [← same] at atEnd
      cases found
      rw [← isStem]
      have notSlash : stem ++ tail ≠ ['/'] := by
        intro slash
        rw [slash] at atEnd
        exact notRoot (Option.some.inj atEnd.symm)
      have notEmpty : stem ++ tail ≠ [] := by
        intro empty
        rw [empty] at atEnd
        cases atEnd
      have notLonger : (String.ofList (dropTrailing (stem.length + 1) stem)).length ≤ stem.length := by
        rw [← String.length_toList, String.toList_ofList]
        exact length_dropTrailing_le _ stem
      refine ⟨stem, tail, same.symm, shorter, components_dropTrailing _ stem, notLonger, noSlash, ?_, ?_⟩
      · intro nothing
        rcases shape with rfl | ⟨base, rfl⟩
        · exact notEmpty (by simp [nothing])
        · obtain ⟨c, read⟩ := exists_component?_of_tidy tidy notSlash
          rw [nothing] at read
          cases read
      · rcases shape with rfl | ⟨base, rfl⟩
        · exact .inl rfl
        · obtain ⟨c, read⟩ := exists_component?_of_tidy tidy notSlash
          exact .inr ⟨base, c, rfl, read⟩

/-- The parent of a path has all its components but the last. -/
theorem components_parent? (found : parent? path = some dir) : components dir = (components path).dropLast := by
  obtain ⟨stem, tail, whole, -, ofDir, -, noSlash, -, shape⟩ := exists_of_parent? found
  rw [whole, ofDir]
  rcases shape with rfl | ⟨base, c, rfl, read⟩
  · rw [List.nil_append, dropLast_components_of_noSlash (by rwa [String.toList_ofList])]
    rfl
  · have behind : components (String.ofList base ++ "/" ++ String.ofList tail) =
        components (String.ofList base ++ "/") ++ [c] := components_slash_name (by rwa [String.toList_ofList]) read
    have whole : String.ofList (base ++ ['/'] ++ tail) = String.ofList base ++ "/" ++ String.ofList tail := by
      rw [String.ofList_append, String.ofList_append]
    rw [whole, behind, List.dropLast_concat, String.ofList_append]

/-- The way upward ends: the text of the parent is shorter. -/
theorem length_parent? (found : parent? path = some dir) : dir.length < path.length := by
  obtain ⟨stem, tail, -, shorter, -, notLonger, -, notEmpty, -⟩ := exists_of_parent? found
  have positive := List.length_pos_iff.2 notEmpty
  rw [List.length_append] at shorter
  omega

/-- The root has no parent, and neither has a path without components. -/
theorem parent?_eq_none_iff : parent? path = none ↔
    components path = [] ∨ (components path).getLast? = some .root := by
  rw [parent?]
  split
  next empty => simp [List.getLast?_eq_none_iff.1 empty]
  next root => simp [root]
  next c notRoot last =>
      have notEmpty : components path ≠ [] := by
        intro empty
        rw [empty] at last
        cases last
      simpa [last, notEmpty] using notRoot

/-- Of the absolute paths only the root has no parent. -/
theorem parent?_of_absolute (absolute : isAbsolute path = true) (below : innerComponents path ≠ []) :
    ∃ dir, parent? path = some dir := by
  cases found : parent? path with
  | some dir => exact ⟨dir, rfl⟩
  | none =>
      have last := List.getLast?_eq_some_getLast below
      rcases parent?_eq_none_iff.1 found with empty | root
      · rw [components_of_absolute absolute] at empty
        cases empty
      · rw [components_of_absolute absolute, List.getLast?_cons, last, Option.getD_some] at root
        have noSlash := (inner_of_mem (List.getLast_mem below)).noSlash
        rw [Option.some.inj root] at noSlash
        exact absurd noSlash (by decide)

theorem isAbsolute_parent? (absolute : isAbsolute path = true) (found : parent? path = some dir) :
    isAbsolute dir = true := by
  have split := components_of_absolute absolute
  have below : innerComponents path ≠ [] := by
    intro nothing
    rw [nothing] at split
    rw [parent?_eq_none_iff.2 (.inr (by rw [split]; rfl))] at found
    cases found
  rw [← root_mem_components_iff, components_parent? found, split, List.dropLast_cons_of_ne_nil below]
  exact List.mem_cons_self

end Parent

/-! ### The directories above a path -/

/-- A path lies in a directory at some depth: the directory is the parent of the path, or the parent lies in it. -/
inductive LiesIn : String → String → Prop where
  | parent {path dir : String} (found : parent? path = some dir) : LiesIn path dir
  | up {path dir outer : String} (found : parent? path = some dir) (rest : LiesIn dir outer) : LiesIn path outer

section Above

variable {path dir outer : String}

theorem components_parent?_shorter (found : parent? path = some dir) :
    (components dir).length < (components path).length := by
  have notEmpty : components path ≠ [] := by
    intro empty
    rw [parent?_eq_none_iff.2 (.inl empty)] at found
    cases found
  have positive := List.length_pos_iff.2 notEmpty
  rw [components_parent? found, List.length_dropLast]
  omega

/-- The components of a directory are a beginning of those of what lies in it, and not all of them. -/
theorem LiesIn.components_prefix (within : LiesIn path dir) :
    components dir <+: components path ∧ (components dir).length < (components path).length := by
  induction within with
  | @parent path dir found =>
      have front := List.dropLast_prefix (components path)
      rw [← components_parent? found] at front
      exact ⟨front, components_parent?_shorter found⟩
  | @up path dir outer found _ ih =>
      have front := List.dropLast_prefix (components path)
      rw [← components_parent? found] at front
      exact ⟨ih.1.trans front, Nat.lt_trans ih.2 (components_parent?_shorter found)⟩

theorem LiesIn.isAbsolute_dir (within : LiesIn path dir) (absolute : isAbsolute path = true) :
    isAbsolute dir = true := by
  induction within with
  | parent found => exact isAbsolute_parent? absolute found
  | up found _ ih => exact ih (isAbsolute_parent? absolute found)

/-- An absolute path lies in one directory for each beginning of its components. -/
theorem exists_liesIn_iff (absolute : isAbsolute path = true) (front : List Component) :
    (∃ dir, LiesIn path dir ∧ components dir = front) ↔
      front ≠ [] ∧ front <+: components path ∧ front ≠ components path := by
  constructor
  · intro ⟨dir, within, same⟩
    obtain ⟨begins, shorter⟩ := within.components_prefix
    have ofDir := components_of_absolute (within.isAbsolute_dir absolute)
    rw [same] at begins shorter ofDir
    exact ⟨ofDir ▸ List.cons_ne_nil _ _, begins, fun whole => absurd (whole ▸ shorter) (Nat.lt_irrefl _)⟩
  · intro ⟨nonempty, ⟨rest, split⟩, part⟩
    -- The way upward drops the rest of the components one after the other, from the end.
    induction rest using List.reverseRecOn generalizing path with
    | nil =>
        rw [List.append_nil] at split
        exact absurd split part
    | append_singleton rest c ih =>
        have below : innerComponents path ≠ [] := by
          intro nothing
          rw [components_of_absolute absolute, nothing] at split
          have lengths := congrArg List.length split
          simp only [List.length_append, List.length_singleton] at lengths
          have positive := List.length_pos_iff.2 nonempty
          omega
        obtain ⟨dir, found⟩ := parent?_of_absolute absolute below
        have ofDir : front ++ rest = components dir := by
          rw [components_parent? found, ← split, ← List.append_assoc, List.dropLast_concat]
        by_cases whole : front = components dir
        · exact ⟨dir, .parent found, whole.symm⟩
        · obtain ⟨outer, within, same⟩ := ih (isAbsolute_parent? absolute found) ofDir whole
          exact ⟨outer, .up found within, same⟩

/-- Texts get shorter on the way upward, so the length of the text is enough to list it. -/
theorem ancestors_go_eq {fuel more : Nat} (enough : path.length < fuel) (enough' : path.length < more) :
    ancestors.go fuel path = ancestors.go more path := by
  induction fuel generalizing path more with
  | zero => exact absurd enough (Nat.not_lt_zero _)
  | succ fuel ih =>
      cases more with
      | zero => exact absurd enough' (Nat.not_lt_zero _)
      | succ more =>
          rw [ancestors.go, ancestors.go]
          cases found : parent? path with
          | none => rfl
          | some dir =>
              have shorter := length_parent? found
              exact congrArg (path :: ·) (ih (by omega) (by omega))

theorem ancestors_of_parent? (found : parent? path = some dir) : ancestors path = path :: ancestors dir := by
  have shorter := length_parent? found
  rw [ancestors, ancestors.go, found, ancestors]
  exact congrArg (path :: ·) (ancestors_go_eq shorter (Nat.lt_succ_self _))

theorem ancestors_of_top (top : parent? path = none) : ancestors path = [path] := by
  rw [ancestors, ancestors.go, top]

/-- The list of a path and the directories above it holds these and no others. -/
theorem mem_ancestors_iff : dir ∈ ancestors path ↔ dir = path ∨ LiesIn path dir := by
  constructor
  · intro member
    induction size : path.length using Nat.strongRecOn generalizing path with
    | ind n ih =>
        cases found : parent? path with
        | none =>
            rw [ancestors_of_top found] at member
            exact .inl (List.mem_singleton.1 member)
        | some above =>
            rw [ancestors_of_parent? found] at member
            rcases List.mem_cons.1 member with same | higher
            · exact .inl same
            · rcases ih _ (size ▸ length_parent? found) higher rfl with rfl | within
              · exact .inr (.parent found)
              · exact .inr (.up found within)
  · intro here
    rcases here with rfl | within
    · rw [ancestors, ancestors.go]
      exact List.mem_cons_self
    · induction within with
      | parent found =>
          rw [ancestors_of_parent? found, ancestors, ancestors.go]
          exact List.mem_cons_of_mem _ List.mem_cons_self
      | up found _ ih =>
          rw [ancestors_of_parent? found]
          exact List.mem_cons_of_mem _ ih

/-- In that list each directory lies deeper than the ones after it. -/
theorem ancestors_deepest_first (path : String) :
    (ancestors path).Pairwise fun a b => components b <+: components a ∧
      (components b).length < (components a).length := by
  induction size : path.length using Nat.strongRecOn generalizing path with
  | ind n ih =>
      cases found : parent? path with
      | none =>
          rw [ancestors_of_top found]
          exact List.pairwise_singleton _ _
      | some dir =>
          rw [ancestors_of_parent? found, List.pairwise_cons]
          constructor
          · intro above member
            apply LiesIn.components_prefix
            rcases mem_ancestors_iff.1 member with rfl | within
            · exact .parent found
            · exact .up found within
          · exact ih _ (size ▸ length_parent? found) dir rfl

/-- A path lies at or below another if its components begin with those of the other. -/
theorem isUnder_iff {base : String} : isUnder path base = true ↔ components base <+: components path :=
  List.isPrefixOf_iff_prefix

end Above

end PlaybookServer.Files
