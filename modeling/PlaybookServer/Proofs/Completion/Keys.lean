/-
Module: PlaybookServer.Proofs.Completion.Keys
Purpose: What is offered at a key of a play, block, role entry or task. Keywords come from up to three tables that
  overlap nowhere, without the keys that the mapping has; a task without a module is offered every module once. The
  ranking puts candidates into tiers by their priorities and keeps the order in which they came inside each tier.
Main exports: tiers, map_unnumbered_rank, keywordLabels, contextKeywords,
  Library.demotes, Request.withholds, HasEntry, EntryIn, ranked, key_candidates_by_tier
-/
import PlaybookServer.Proofs.Completion.SortText
import PlaybookServer.Proofs.Document.Ancestry
import PlaybookServer.Proofs.Docs.Names
import Mathlib.Data.List.Nodup

namespace PlaybookServer

/-! ### Names that lead elsewhere -/

namespace Docs.Library

/-- Whether the route of a name redirects it. -/
def redirects (l : Library) (name : String) : Bool := (l.route? name).any fun route => route.redirect.isSome

/-- Whether a name is redirected or deprecated. -/
def demotes (l : Library) (name : String) : Bool :=
  l.redirects name || (l.route? name).any fun route => route.deprecation.isSome

end Docs.Library

namespace Completion

open Text Docs Source Playbook

/-! ### Tiers of a ranking -/

/-- A candidate without its place among the others. -/
def Candidate.unnumbered (c : Candidate) : Candidate := { c with order := 0 }

/-- The candidates of the priorities below a bound, tier after tier, each tier in the order in which it came. -/
def tiers (bound : Nat) (cs : List Candidate) : List Candidate :=
  (List.range bound).flatMap fun n => cs.filter fun c => c.priority = n

section Tiers

variable {cs : List Candidate} {bound : Nat}

theorem tiers_succ (bound : Nat) (cs : List Candidate) :
    tiers (bound + 1) cs = tiers bound cs ++ cs.filter fun c => c.priority = bound := by
  simp [tiers, List.range_succ, List.flatMap_append]

/-- The tiers hold each candidate below the bound once. -/
theorem tiers_perm (bound : Nat) (cs : List Candidate) :
    (tiers bound cs).Perm (cs.filter fun c => c.priority < bound) := by
  induction bound with
  | zero => simp [tiers]
  | succ bound ih =>
      rw [tiers_succ]
      have parts := List.filter_append_perm (fun c : Candidate => decide (c.priority < bound))
        (cs.filter fun c => c.priority < bound + 1)
      rw [List.filter_filter, List.filter_filter] at parts
      have lower : (cs.filter fun c => decide (c.priority < bound) && decide (c.priority < bound + 1))
          = cs.filter fun c => c.priority < bound := by
        apply List.filter_congr
        intro c _
        grind
      have last : (cs.filter fun c => !decide (c.priority < bound) && decide (c.priority < bound + 1))
          = cs.filter fun c => c.priority = bound := by
        apply List.filter_congr
        intro c _
        grind
      rw [lower, last] at parts
      exact (ih.append_right _).trans parts

/-- Candidates in ascending order make tiers in the order of the ranking. -/
theorem tiers_outrank (bound : Nat) (ascending : cs.Pairwise fun a b => a.order < b.order) :
    (tiers bound cs).Pairwise Candidate.Outranks := by
  rw [tiers, List.pairwise_flatMap]
  constructor
  · intro n _
    apply (ascending.filter _).imp_of_mem
    intro a b ha hb before
    have priorityA : a.priority = n := by simpa using (List.mem_filter.1 ha).2
    have priorityB : b.priority = n := by simpa using (List.mem_filter.1 hb).2
    exact .inr ⟨priorityA.trans priorityB.symm, before⟩
  · apply List.pairwise_lt_range.imp
    intro m n less a ha b hb
    have priorityA : a.priority = m := by simpa using (List.mem_filter.1 ha).2
    have priorityB : b.priority = n := by simpa using (List.mem_filter.1 hb).2
    left
    omega

/-- The candidates with their places. -/
def numbered (cs : List Candidate) : List Candidate := cs.mapIdx fun i c => { c with order := i }

theorem numbered_ascending (cs : List Candidate) : (numbered cs).Pairwise fun a b => a.order < b.order := by
  rw [List.pairwise_iff_getElem]
  intro i j hi hj before
  simpa [numbered] using before

theorem map_unnumbered_numbered (cs : List Candidate) :
    (numbered cs).map Candidate.unnumbered = cs.map Candidate.unnumbered := by
  apply List.ext_getElem
  · simp [numbered]
  · intro i _ _
    simp [numbered, Candidate.unnumbered]

theorem rank_perm (cs : List Candidate) : (rank cs).Perm (numbered cs) := List.mergeSort_perm _ _

/-- Nothing but tiers is in the order of the ranking. -/
theorem rank_eq_tiers (below : ∀ c ∈ cs, c.priority < bound) : rank cs = tiers bound (numbered cs) := by
  have all : (numbered cs).filter (fun c => c.priority < bound) = numbered cs := by
    rw [List.filter_eq_self]
    intro c member
    obtain ⟨i, inside, rfl⟩ := List.mem_mapIdx.1 member
    simpa using below cs[i] (List.getElem_mem inside)
  have same : (rank cs).Perm (tiers bound (numbered cs)) := by
    apply (rank_perm cs).trans
    have parts := tiers_perm bound (numbered cs)
    rw [all] at parts
    exact parts.symm
  apply same.eq_of_pairwise _ (outranks_rank cs) (tiers_outrank bound (numbered_ascending cs))
  intro a b _ _ before after
  unfold Candidate.Outranks at before after
  omega

theorem map_unnumbered_tiers (bound : Nat) (cs : List Candidate) :
    (tiers bound cs).map Candidate.unnumbered = tiers bound (cs.map Candidate.unnumbered) := by
  simp only [tiers, List.map_flatMap, List.filter_map]
  rfl

/-- Apart from their places in the list, ranked candidates are the tiers of those that came. -/
theorem map_unnumbered_rank (below : ∀ c ∈ cs, c.priority < bound) (fresh : ∀ c ∈ cs, c.order = 0) :
    (rank cs).map Candidate.unnumbered = tiers bound cs := by
  have same : cs.map Candidate.unnumbered = cs := by
    nth_rewrite 2 [← List.map_id cs]
    apply List.map_congr_left
    intro c member
    simp [Candidate.unnumbered, ← fresh c member]
  rw [rank_eq_tiers below, map_unnumbered_tiers, map_unnumbered_numbered, same]

/-- What does not depend on places is the same before and after the ranking. -/
theorem filterMap_rank_perm {α : Type} (f : Candidate → Option α) (anywhere : ∀ c, f c.unnumbered = f c)
    (cs : List Candidate) : ((rank cs).filterMap f).Perm (cs.filterMap f) := by
  have forget : ∀ xs : List Candidate, xs.filterMap f = (xs.map Candidate.unnumbered).filterMap f := by
    intro xs
    simp [List.filterMap_map, anywhere]
  have perm := (rank_perm cs).filterMap f
  rw [forget (numbered cs), map_unnumbered_numbered, ← forget] at perm
  exact perm

end Tiers

/-! ### Keywords -/

/-- The label of a keyword. -/
def Candidate.keyword? (c : Candidate) : Option String := if c.kind = .keyword then some c.label else none

/-- The keywords among candidates. -/
def keywordLabels (cs : List Candidate) : List String := cs.filterMap Candidate.keyword?

/-- Whether the cursor is at a key of a play, block, role entry or task. -/
def Context.isKey : Context → Bool
  | .playKey | .blockKey | .roleKey | .taskKey _ => true
  | .template | .optionKey _ | .optionValue _ => false

/-- Whether a task has no key that finds a module. -/
def Request.lacksModule (r : Request) (path : Path) : Bool :=
  (r.library.findProvided? path r.roleCollections).isNone

/-- The keywords of a task's keys, in the order of their tables: those of plays join in while the mapping may become a
    play, and `block` while there is no module. -/
def taskKeyKeywords (openPlay lacksModule : Bool) : List String :=
  taskKeywords ++ (if openPlay then playWithoutTaskKeywords else []) ++ (if lacksModule then ["block"] else [])

/-- The keywords that a context draws on. -/
def contextKeywords (r : Request) (path : Path) : Context → List String
  | .playKey => playKeywords
  | .blockKey => blockKeywords
  | .roleKey => roleKeywords
  | .taskKey openPlay => taskKeyKeywords openPlay (r.lacksModule path)
  | .template | .optionKey _ | .optionValue _ => []

/-- The modules that a context offers. -/
def contextModules (r : Request) (p : Prepared) (path : Path) : Context → List Candidate
  | .taskKey _ => if r.lacksModule path then moduleCandidates r p path else []
  | _ => []

section Keywords

variable {r : Request} {p : Prepared} {path : Path} {context : Context} {ks : List String} {k : String}

theorem taskKeyKeywords_nodup (openPlay lacksModule : Bool) : (taskKeyKeywords openPlay lacksModule).Nodup := by
  have whole : (taskKeyKeywords true true).Nodup := by decide +kernel
  apply List.Nodup.sublist _ whole
  cases openPlay <;> cases lacksModule <;> simp [taskKeyKeywords]

theorem contextKeywords_nodup (r : Request) (path : Path) (context : Context) :
    (contextKeywords r path context).Nodup := by
  have play : playKeywords.Nodup := by simp [playKeywords]
  have block : blockKeywords.Nodup := by simp [blockKeywords]
  have role : roleKeywords.Nodup := by simp [roleKeywords]
  cases context with
  | playKey => exact play
  | blockKey => exact block
  | roleKey => exact role
  | taskKey openPlay => exact taskKeyKeywords_nodup openPlay _
  | template => exact List.nodup_nil
  | optionKey _ => exact List.nodup_nil
  | optionValue _ => exact List.nodup_nil

theorem name_mem_contextKeywords (key : context.isKey = true) : "name" ∈ contextKeywords r path context := by
  have play : "name" ∈ playKeywords := by simp [playKeywords]
  have block : "name" ∈ blockKeywords := by simp [blockKeywords]
  have role : "name" ∈ roleKeywords := by simp [roleKeywords]
  have task : "name" ∈ taskKeywords := by simp [taskKeywords]
  cases context with
  | playKey => exact play
  | blockKey => exact block
  | roleKey => exact role
  | taskKey openPlay => exact List.mem_append_left _ (List.mem_append_left _ task)
  | template => cases key
  | optionKey _ => cases key
  | optionValue _ => cases key

theorem keywordCandidates_append (ks ks' : List String) :
    keywordCandidates p path (ks ++ ks') = keywordCandidates p path ks ++ keywordCandidates p path ks' := by
  simp [keywordCandidates]

theorem keywordCandidates_nil : keywordCandidates p path [] = [] := rfl

/-- At a key, keywords come first and modules after them. -/
theorem contextCandidates_of_isKey (key : context.isKey = true) : contextCandidates r p path context =
    keywordCandidates p path (contextKeywords r path context) ++ contextModules r p path context := by
  cases context with
  | playKey => exact (List.append_nil _).symm
  | blockKey => exact (List.append_nil _).symm
  | roleKey => exact (List.append_nil _).symm
  | taskKey openPlay =>
      have lacks : (r.library.findProvided? path r.roleCollections).isNone = r.lacksModule path := rfl
      simp only [contextCandidates, taskCandidates, contextKeywords, contextModules, taskKeyKeywords,
        keywordCandidates_append, lacks]
      cases openPlay <;> by_cases without : r.lacksModule path = true <;> simp [without, keywordCandidates_nil]
  | template => cases key
  | optionKey _ => cases key
  | optionValue _ => cases key

theorem mem_keywordCandidates {c : Candidate} (member : c ∈ keywordCandidates p path ks) :
    c.kind = .keyword ∧ c.priority = (if c.label = "name" then 1 else 4) ∧ c.order = 0 ∧ c.moduleName = none := by
  obtain ⟨k, -, rfl⟩ := List.mem_map.1 member
  exact ⟨rfl, rfl, rfl, rfl⟩

theorem keywordLabels_keywordCandidates :
    keywordLabels (keywordCandidates p path ks) = ks.filter fun k => !(siblingKeys path).elem k := by
  simp [keywordLabels, keywordCandidates, Candidate.keyword?, Candidate.make, List.filterMap_map, Function.comp_def]

theorem filter_keywordCandidates (q : Candidate → Bool) (q' : String → Bool)
    (agree : ∀ c, c.kind = .keyword → c.priority = (if c.label = "name" then 1 else 4) → q c = q' c.label) :
    (keywordCandidates p path ks).filter q = keywordCandidates p path (ks.filter q') := by
  simp only [keywordCandidates, List.filter_map, List.filter_filter]
  congr 1
  apply List.filter_congr
  intro k _
  rw [Function.comp_apply, agree _ rfl rfl, Bool.and_comm]
  rfl

end Keywords

/-! ### Modules -/

/-- Whether a name is held back because redirected names are not wanted. -/
def Request.withholds (r : Request) (name : String) : Bool :=
  r.library.redirects name && !r.settings.completion.redirectModules

section Modules

variable {r : Request} {p : Prepared} {path : Path} {name : String} {c : Candidate}

/-- What is offered for a name carries it. -/
theorem moduleCandidate?_eq_some (offered : moduleCandidate? r p path name = some c) :
    c.moduleName = some name ∧ c.kind ≠ .keyword ∧ c.order = 0 ∧
      c.priority = if r.library.demotes name then 3 else 2 := by
  simp only [moduleCandidate?, Option.bind_eq_bind, Option.pure_def] at offered
  split at offered
  next => cases offered
  next =>
      obtain ⟨parts, -, made⟩ := Option.bind_eq_some_iff.1 offered
      obtain rfl := Option.some.inj made
      refine ⟨rfl, ?_, rfl, rfl⟩
      dsimp only [Candidate.make]
      split
      · decide
      · decide

theorem moduleCandidate?_isSome (point : '.' ∈ name.toList) :
    (moduleCandidate? r p path name).isSome = !r.withholds name := by
  obtain ⟨parts, cut⟩ := Option.isSome_iff_exists.1 (cutLast?_isSome point)
  have held : ((r.library.route? name).any fun route => route.redirect.isSome) = r.library.redirects name := rfl
  simp only [moduleCandidate?, cut, held, Request.withholds]
  cases r.library.redirects name && !r.settings.completion.redirectModules <;> rfl

/-- Modules of one tier are those of the names that belong there, in the order of the names. -/
theorem filter_moduleCandidates (q : Candidate → Bool) (q' : String → Bool)
    (agree : ∀ c name, c.priority = (if r.library.demotes name then 3 else 2) → q c = q' name) :
    (moduleCandidates r p path).filter q = (r.library.names.filter q').filterMap (moduleCandidate? r p path) := by
  rw [moduleCandidates, List.filter_filterMap, List.filterMap_filter]
  apply List.filterMap_congr
  intro name _
  cases made : moduleCandidate? r p path name with
  | none => simp
  | some c =>
      obtain ⟨-, -, -, priority⟩ := moduleCandidate?_eq_some made
      simp [Option.filter, agree c name priority]

/-- The names that are offered, each once. -/
theorem moduleNames_moduleCandidates (built : r.library.Built) :
    (moduleCandidates r p path).filterMap Candidate.moduleName
      = r.library.names.filter fun name => !r.withholds name := by
  rw [moduleCandidates, List.filterMap_filterMap, ← List.filterMap_eq_filter]
  apply List.filterMap_congr
  intro name offered
  have present : (moduleCandidate? r p path name).isSome = !r.withholds name :=
    moduleCandidate?_isSome (built.point_mem_of_mem_names offered)
  cases made : moduleCandidate? r p path name with
  | none =>
      rw [made] at present
      simp [Option.guard, ← present]
  | some c =>
      rw [made] at present
      simp [Option.guard, ← present, (moduleCandidate?_eq_some made).1]

theorem keywordLabels_moduleCandidates : keywordLabels (moduleCandidates r p path) = [] := by
  rw [keywordLabels, List.filterMap_eq_nil_iff]
  intro c member
  obtain ⟨name, -, made⟩ := List.mem_filterMap.1 member
  rw [Candidate.keyword?, if_neg (moduleCandidate?_eq_some made).2.1]

theorem moduleNames_keywordCandidates {ks : List String} :
    (keywordCandidates p path ks).filterMap Candidate.moduleName = [] := by
  rw [List.filterMap_eq_nil_iff]
  intro c member
  exact (mem_keywordCandidates member).2.2.2

end Modules

/-! ### Key candidates -/

section Keys

variable {r : Request} {p : Prepared} {path : Path} {context : Context}

theorem keywordLabels_contextModules : keywordLabels (contextModules r p path context) = [] := by
  cases context with
  | taskKey openPlay =>
      simp only [contextModules]
      split
      next => exact keywordLabels_moduleCandidates
      next => rfl
  | _ => rfl

/-- The keywords that are offered at a key. -/
theorem keywordLabels_contextCandidates (key : context.isKey = true) :
    keywordLabels (contextCandidates r p path context)
      = (contextKeywords r path context).filter fun k => !(siblingKeys path).elem k := by
  have modules : keywordLabels (contextModules r p path context) = [] := keywordLabels_contextModules
  rw [contextCandidates_of_isKey key]
  unfold keywordLabels at modules ⊢
  rw [List.filterMap_append, modules, List.append_nil]
  exact keywordLabels_keywordCandidates

theorem mem_contextModules {c : Candidate} (member : c ∈ contextModules r p path context) :
    c ∈ moduleCandidates r p path := by
  cases context with
  | taskKey openPlay =>
      simp only [contextModules] at member
      split at member
      next => exact member
      next => exact absurd member List.not_mem_nil
  | _ => exact absurd member List.not_mem_nil

theorem fresh_contextCandidates (key : context.isKey = true) {c : Candidate}
    (member : c ∈ contextCandidates r p path context) : c.order = 0 ∧ c.priority < 5 := by
  rw [contextCandidates_of_isKey key] at member
  rcases List.mem_append.1 member with keyword | module
  · obtain ⟨-, priority, fresh, -⟩ := mem_keywordCandidates keyword
    refine ⟨fresh, ?_⟩
    rw [priority]
    split <;> decide
  · obtain ⟨name, -, made⟩ := List.mem_filterMap.1 (mem_contextModules module)
    obtain ⟨-, -, fresh, priority⟩ := moduleCandidate?_eq_some made
    refine ⟨fresh, ?_⟩
    rw [priority]
    split <;> decide

theorem filter_contextKeywords_name (key : context.isKey = true) :
    (contextKeywords r path context).filter (fun k => k = "name") = ["name"] := by
  rw [List.filter_eq, List.count_eq_one_of_mem (contextKeywords_nodup r path context) (name_mem_contextKeywords key)]
  rfl

theorem filter_contextModules {n : Nat} (other : n ≠ 2 ∧ n ≠ 3) :
    (contextModules r p path context).filter (fun c => c.priority = n) = [] := by
  rw [List.filter_eq_nil_iff]
  intro c member
  obtain ⟨name, -, made⟩ := List.mem_filterMap.1 (mem_contextModules member)
  obtain ⟨-, -, -, priority⟩ := moduleCandidate?_eq_some made
  rw [priority, decide_eq_true_eq]
  split <;> omega

/-- The tiers at a key: `name`, modules that stand as they are, modules that are redirected or deprecated, and the
    other keywords. -/
theorem tiers_contextCandidates (key : context.isKey = true) :
    tiers 5 (contextCandidates r p path context) =
      keywordCandidates p path ["name"]
      ++ (contextModules r p path context).filter (fun c => c.priority = 2)
      ++ (contextModules r p path context).filter (fun c => c.priority = 3)
      ++ keywordCandidates p path ((contextKeywords r path context).filter fun k => k ≠ "name") := by
  have keywords : ∀ n : Nat, (keywordCandidates p path (contextKeywords r path context)).filter
      (fun c => c.priority = n) = keywordCandidates p path
        ((contextKeywords r path context).filter fun k => (if k = "name" then 1 else 4) = n) := by
    intro n
    apply filter_keywordCandidates
    intro c _ priority
    rw [priority]
  have otherTiers : ∀ n : Nat, n ≠ 1 → n ≠ 4 → (contextKeywords r path context).filter
      (fun k => (if k = "name" then 1 else 4) = n) = [] := by
    intro n first last
    rw [List.filter_eq_nil_iff]
    intro k _
    rw [decide_eq_true_eq]
    split <;> omega
  have first : (contextKeywords r path context).filter (fun k => (if k = "name" then 1 else 4) = 1) = ["name"] := by
    have name : (contextKeywords r path context).filter (fun k => k = "name") = ["name"] :=
      filter_contextKeywords_name key
    rw [← name]
    apply List.filter_congr
    intro k _
    split <;> simp_all
  have last : (contextKeywords r path context).filter (fun k => (if k = "name" then 1 else 4) = 4)
      = (contextKeywords r path context).filter fun k => k ≠ "name" := by
    apply List.filter_congr
    intro k _
    split <;> simp_all
  rw [contextCandidates_of_isKey key]
  simp only [tiers_succ, List.filter_append, keywords, first, last]
  rw [otherTiers 0 (by decide) (by decide), otherTiers 2 (by decide) (by decide), otherTiers 3 (by decide) (by decide),
    filter_contextModules (n := 0) (by decide), filter_contextModules (n := 1) (by decide),
    filter_contextModules (n := 4) (by decide)]
  simp [tiers, keywordCandidates_nil]

/-- Ranked, a key's candidates are its tiers. -/
theorem map_unnumbered_rank_contextCandidates (key : context.isKey = true) :
    (rank (contextCandidates r p path context)).map Candidate.unnumbered
      = tiers 5 (contextCandidates r p path context) := by
  apply map_unnumbered_rank
  · intro c member
    exact (fresh_contextCandidates key member).2
  · intro c member
    exact (fresh_contextCandidates key member).1

/-- `name` is the first candidate wherever it is not given. -/
theorem name_first (key : context.isKey = true) (free : "name" ∉ siblingKeys path) :
    ∃ first rest, rank (contextCandidates r p path context) = first :: rest ∧ first.kind = .keyword ∧
      first.label = "name" := by
  have ranked : (rank (contextCandidates r p path context)).map Candidate.unnumbered
      = tiers 5 (contextCandidates r p path context) := map_unnumbered_rank_contextCandidates key
  have offered : keywordCandidates p path ["name"] ≠ [] := by
    simp [keywordCandidates, free]
  obtain ⟨c, cs, made⟩ := List.exists_cons_of_ne_nil offered
  have member : c ∈ keywordCandidates p path ["name"] := made ▸ List.mem_cons_self
  rw [tiers_contextCandidates key, made, List.cons_append, List.cons_append, List.cons_append,
    List.map_eq_cons_iff] at ranked
  obtain ⟨first, rest, split, rfl, -⟩ := ranked
  refine ⟨first, rest, split, ?_, ?_⟩
  · exact (mem_keywordCandidates member).1
  · obtain ⟨k, chosen, same⟩ := List.mem_map.1 member
    have label : k = first.label := congrArg Candidate.label same
    rw [← label]
    exact List.mem_singleton.1 (List.mem_filter.1 chosen).1

end Keys

/-! ### Mappings of tasks -/

section Tasks

variable {path : Path}

/-- In a list of entries that are no blocks no entry has a key `block`. -/
theorem block_not_mem_siblingKeys_of_not_block {i : Nat}
    (listed : (path.ancestry.parentOfKey.parent (some .sequence)).index = some i)
    (notBlock : isBlockParam path = false) : "block" ∉ siblingKeys path := by
  obtain ⟨list, listNode⟩ := Option.isSome_iff_exists.1 (Ancestry.node?_parent_isSome listed)
  obtain ⟨n, owner⟩ := Ancestry.index_of_parent listed
  unfold siblingKeys
  split
  next map mapping =>
      obtain ⟨m, above, node⟩ : ∃ m, (path.ancestry.parent (some .mapping)).index = some m ∧
          path.ancestry.nodeAt? m = some map := by
        rw [Ancestry.node?_eq_bind, Option.bind_eq_some_iff] at mapping
        exact mapping
      obtain rfl := Ancestry.parentOfKey_index owner above
      have own : path.ancestry.parentOfKey.node? = some map := by
        rw [Ancestry.node?_eq_bind, owner, Option.bind_some, Ancestry.nodeAt?, Ancestry.path_parentOfKey]
        exact node
      have isMapping : path.doc.isMapping map = true := by
        obtain ⟨_, -, -, asked⟩ := Ancestry.parent_mapping_index above
        rw [Ancestry.isAt, node] at asked
        exact asked
      simp only [isBlockParam, own, listNode, isMapping, Bool.true_and, List.elem_eq_mem,
        decide_eq_false_iff_not] at notBlock
      exact notBlock
  next => exact List.not_mem_nil

/-- A task that is no block has no key `block`. -/
theorem block_not_mem_siblingKeys (task : isTaskParam path = true) : "block" ∉ siblingKeys path := by
  unfold isTaskParam at task
  split at task
  next => cases task
  next list reached =>
      split at task
      next => cases task
      next other =>
          obtain ⟨i, listed, -⟩ := Option.map_eq_some_iff.1 reached
          simp only [Bool.or_eq_true, not_or, Bool.not_eq_true] at other
          exact block_not_mem_siblingKeys_of_not_block listed other.1.2

end Tasks

/-- Where a key is classified as one of a task, its mapping has no key `block`. -/
theorem block_free_of_classified {r : Request} {p : Prepared} {path : Path} {openPlay : Bool}
    (classified : classify? r p path = some (.taskKey openPlay)) : "block" ∉ siblingKeys path := by
  simp only [classify?] at classified
  split at classified
  next => cases classified
  next =>
      split at classified
      next => cases classified
      next =>
          split at classified
          next => cases classified
          next =>
              split at classified
              next task => exact block_not_mem_siblingKeys task
              next =>
                  split at classified
                  next => cases classified
                  next =>
                      split at classified
                      next => cases classified
                      next =>
                          obtain ⟨option, -, other⟩ := Option.map_eq_some_iff.1 classified
                          cases other

/-! ### The mapping of the key -/

/-- A mapping has an entry with a text for its key. -/
def HasEntry (d : Document) (mapping : NodeId) (text : String) : Prop :=
  ∃ entry ∈ d.pairs mapping, ∃ key value, d.pair? entry = some (key, value) ∧ d.scalar? key = some text

/-- A path ends at the key of an entry, and the entry stands in a mapping. -/
structure EntryIn (path : Path) (mapping : NodeId) : Prop where
  isMapping : path.doc.isMapping mapping = true
  split : ∃ front entry key value, path.steps = front ++ [.node mapping, .node entry, .node key] ∧
    path.doc.pair? entry = some (key, value)

section Entries

variable {r : Request} {p : Prepared} {path : Path} {context : Context} {mapping : NodeId} {k : String}

/-- The keys that are not offered again are those of the mapping of the cursor's entry. -/
theorem mem_siblingKeys_iff (within : EntryIn path mapping) : k ∈ siblingKeys path ↔ HasEntry path.doc mapping k := by
  obtain ⟨isMapping, front, entry, key, value, split, ofPair⟩ := within
  have here : (path.ancestry.parent (some .mapping)).node? = some mapping := by
    rw [Path.parent_mapping_of_split split (Document.isPair_of_pair? ofPair) isMapping]
    simp [Ancestry.node?, Ancestry.get?, split, Step.node?]
  have keys : siblingKeys path = path.doc.keys mapping := by rw [siblingKeys, here]
  rw [keys, Document.keys, List.mem_filterMap]
  apply exists_congr
  intro other
  apply and_congr_right
  intro _
  constructor
  · intro text
    obtain ⟨⟨key, value⟩, ofPair, text⟩ := Option.bind_eq_some_iff.1 text
    exact ⟨key, value, ofPair, text⟩
  · rintro ⟨key, value, ofPair, text⟩
    exact Option.bind_eq_some_iff.2 ⟨(key, value), ofPair, text⟩

/-- What is classified as a key of a play, a block, a role entry or a task is one. -/
theorem atKnownKey_of_isKey (classified : classify? r p path = some context) (key : context.isKey = true) :
    atKnownKey r path = true := by
  by_contra other
  rw [classify?_of_other (Bool.not_eq_true _ ▸ other)] at classified
  split at classified
  next =>
      cases classified
      cases key
  next =>
      split at classified
      next =>
          cases classified
          cases key
      next =>
          obtain ⟨option, -, rfl⟩ := Option.map_eq_some_iff.1 classified
          cases key

/-- Such a key stands in a mapping. -/
theorem exists_entryIn (rooted : path.Rooted) (classified : classify? r p path = some context)
    (key : context.isKey = true) : ∃ mapping, EntryIn path mapping := by
  have atKey := atKey_of_atKnownKey (atKnownKey_of_isKey classified key)
  obtain ⟨front, mapping, entry, key, value, split, isMapping, ofPair⟩ := atKey.split rooted
  exact ⟨mapping, isMapping, front, entry, key, value, split, ofPair⟩

end Entries

/-! ### What is offered -/

/-- The candidates at a place, best first. -/
def ranked (r : Request) (p : Prepared) (path : Path) (context : Context) : List Candidate :=
  rank (contextCandidates r p path context)

section Offered

variable {r : Request} {p : Prepared} {path : Path} {context : Context}

theorem keywordLabels_ranked (key : context.isKey = true) : (keywordLabels (ranked r p path context)).Perm
    ((contextKeywords r path context).filter fun k => !(siblingKeys path).elem k) := by
  rw [← keywordLabels_contextCandidates (p := p) key]
  apply filterMap_rank_perm
  intro c
  rfl

theorem moduleNames_ranked (built : r.library.Built) {openPlay : Bool} (lacks : r.lacksModule path = true) :
    ((ranked r p path (.taskKey openPlay)).filterMap Candidate.moduleName).Perm
      (r.library.names.filter fun name => !r.withholds name) := by
  have unranked : (contextCandidates r p path (.taskKey openPlay)).filterMap Candidate.moduleName
      = r.library.names.filter fun name => !r.withholds name := by
    rw [contextCandidates_of_isKey rfl, List.filterMap_append, moduleNames_keywordCandidates, List.nil_append,
      contextModules, if_pos lacks, moduleNames_moduleCandidates built]
  rw [← unranked]
  apply filterMap_rank_perm
  intro c
  rfl

theorem ranked_task {openPlay : Bool} (lacks : r.lacksModule path = true) :
    (ranked r p path (.taskKey openPlay)).map Candidate.unnumbered =
      keywordCandidates p path ["name"]
      ++ (r.library.names.filter fun name => !r.library.demotes name).filterMap (moduleCandidate? r p path)
      ++ (r.library.names.filter r.library.demotes).filterMap (moduleCandidate? r p path)
      ++ keywordCandidates p path ((taskKeyKeywords openPlay true).filter fun k => k ≠ "name") := by
  have plain : (moduleCandidates r p path).filter (fun c => c.priority = 2) =
      (r.library.names.filter fun name => !r.library.demotes name).filterMap (moduleCandidate? r p path) := by
    apply filter_moduleCandidates
    intro c name priority
    rw [priority]
    cases r.library.demotes name <;> rfl
  have demoted : (moduleCandidates r p path).filter (fun c => c.priority = 3) =
      (r.library.names.filter r.library.demotes).filterMap (moduleCandidate? r p path) := by
    apply filter_moduleCandidates
    intro c name priority
    rw [priority]
    cases r.library.demotes name <;> rfl
  rw [ranked, map_unnumbered_rank_contextCandidates rfl, tiers_contextCandidates rfl]
  simp only [contextModules, contextKeywords, lacks, if_true, plain, demoted]

/-- At a key of a play, block, role entry or task no keyword is offered twice or though an entry of the key's mapping
    has it, and `name` comes first unless the mapping has it. While a task has no module, `block` is offered once, each
    name of the library once unless redirected names are not wanted and it is one; and the candidates are `name`, the
    modules that stand as they are, those that are redirected or deprecated, and the other keywords, each group in the
    order of its index or tables. -/
theorem key_candidates_by_tier (r : Request) (built : r.library.Built) (p : Prepared) (path : Path)
    (context : Context) (classified : classify? r p path = some context) (key : context.isKey = true) :
    (Prepared.ofText? r.text.toList r.position = some p → cursorPath? p = some path →
      complete r = some (ranked r p path context)) ∧
    (cursorPath? p = some path → path.Rooted) ∧
    (path.Rooted → ∃ mapping, EntryIn path mapping ∧ ∀ k, k ∈ siblingKeys path ↔ HasEntry path.doc mapping k) ∧
    (keywordLabels (ranked r p path context)).Nodup ∧
    (∀ k ∈ keywordLabels (ranked r p path context), k ∉ siblingKeys path) ∧
    ("name" ∉ siblingKeys path → ∃ first rest, ranked r p path context = first :: rest ∧ first.kind = .keyword ∧
      first.label = "name") ∧
    ∀ openPlay, context = .taskKey openPlay → r.library.findProvided? path r.roleCollections = none →
      (keywordLabels (ranked r p path context)).count "block" = 1 ∧
      (∀ name ∈ r.library.names, r.withholds name = false →
        ((ranked r p path context).filterMap Candidate.moduleName).count name = 1) ∧
      (∀ name, r.withholds name = true → name ∉ (ranked r p path context).filterMap Candidate.moduleName) ∧
      (ranked r p path context).map Candidate.unnumbered =
        keywordCandidates p path ["name"]
        ++ (r.library.names.filter fun name => !r.library.demotes name).filterMap (moduleCandidate? r p path)
        ++ (r.library.names.filter r.library.demotes).filterMap (moduleCandidate? r p path)
        ++ keywordCandidates p path ((taskKeyKeywords openPlay true).filter fun k => k ≠ "name") := by
  have labels : (keywordLabels (ranked r p path context)).Perm
      ((contextKeywords r path context).filter fun k => !(siblingKeys path).elem k) := keywordLabels_ranked key
  have nodup : (keywordLabels (ranked r p path context)).Nodup := by
    rw [labels.nodup_iff]
    exact (contextKeywords_nodup r path context).filter _
  constructor
  · intro prepared atCursor
    exact complete_of_cursor prepared atCursor classified
  constructor
  · intro atCursor
    exact (rooted_cursorPath? atCursor).1
  constructor
  · intro rooted
    obtain ⟨mapping, within⟩ := exists_entryIn rooted classified key
    exact ⟨mapping, within, fun _ => mem_siblingKeys_iff within⟩
  constructor
  · exact nodup
  constructor
  · intro k offered
    simpa using (List.mem_filter.1 (labels.mem_iff.1 offered)).2
  constructor
  · exact name_first key
  · rintro openPlay rfl provided
    have lacks : r.lacksModule path = true := by rw [Request.lacksModule, provided]; rfl
    have names : ((ranked r p path (.taskKey openPlay)).filterMap Candidate.moduleName).Perm
        (r.library.names.filter fun name => !r.withholds name) := moduleNames_ranked built lacks
    constructor
    · apply List.count_eq_one_of_mem nodup
      rw [labels.mem_iff, List.mem_filter]
      constructor
      · rw [contextKeywords, lacks, taskKeyKeywords]
        exact List.mem_append_right _ (List.mem_singleton_self _)
      · simpa using block_free_of_classified classified
    constructor
    · intro name offered wanted
      rw [names.count_eq]
      apply List.count_eq_one_of_mem
      · exact (built.names_ascending.imp ne_of_lt).filter _
      · simp [List.mem_filter, offered, wanted]
    constructor
    · intro name withheld offered
      simpa [withheld] using (List.mem_filter.1 (names.mem_iff.1 offered)).2
    · exact ranked_task lacks

end Offered

/-! ### A task with a keyword and no module -/

/-- A library with a module, a redirected name and a deprecated one. -/
def smallLibrary : Library :=
  ((({} : Library).insertModule { nameSpace := "acme", collection := "tools", name := "zip" }).insertRoute
    "acme.tools" "archive" { redirect := some "acme.tools.zip" }).insertRoute
    "acme.tools" "zap" { redirect := some "acme.tools.zip", deprecation := some {} }

theorem built_smallLibrary : smallLibrary.Built :=
  ((Library.Built.empty.insertModule _).insertRoute _ _ _).insertRoute _ _ _

/-- A request for the second key of a task. -/
def taskRequest : Request := { plainRequest with
  text := "- register: x\n  "
  position := ⟨1, 2⟩
  library := smallLibrary }

/-- Its text with the placeholder. -/
def taskPrepared : Prepared :=
  (Prepared.ofText? taskRequest.text.toList taskRequest.position).get (by decide +kernel)

/-- The tree of this text. -/
def taskTree : Concrete :=
  streamOf 18 (sequenceAt none 0 18 0 [itemAt 0 18 0 (mappingAt none 2 18 0
    [entryAt 2 13 2 10 (wordAt .value 12 13 2 12), entryAt 16 18 2 17 none])])

/-- The place of the placeholder. -/
def taskKey : Path := (placeIn? taskPrepared taskTree).get (by decide +kernel)

/-- The modules come before the keywords, and the keyword that the task has is not among them. -/
theorem task_offers_modules_before_keywords :
    classify? taskRequest taskPrepared taskKey = some (.taskKey true) ∧
    (ReadAs (String.ofList taskPrepared.patched) taskTree →
      complete taskRequest = some (ranked taskRequest taskPrepared taskKey (.taskKey true))) ∧
    (∃ mapping, EntryIn taskKey mapping ∧ HasEntry taskKey.doc mapping "register") ∧
    (keywordLabels (ranked taskRequest taskPrepared taskKey (.taskKey true))).count "block" = 1 ∧
    (ranked taskRequest taskPrepared taskKey (.taskKey true)).map Candidate.label =
      ["name", "acme.tools.zip", "acme.tools.archive", "acme.tools.zap"]
      ++ (taskKeyKeywords true true).filter fun k => k ≠ "name" ∧ k ≠ "register" := by
  have classified : classify? taskRequest taskPrepared taskKey = some (.taskKey true) := rfl
  have rooted : taskKey.Rooted := by decide +kernel
  have given : "register" ∈ siblingKeys taskKey := by decide +kernel
  have provided : smallLibrary.findProvided? taskKey [] = none := by
    rw [← Option.isNone_iff_eq_none]
    decide +kernel
  obtain ⟨-, -, within, -, -, -, task⟩ :=
    key_candidates_by_tier taskRequest built_smallLibrary taskPrepared taskKey (.taskKey true) classified rfl
  obtain ⟨block, -, -, offered⟩ := task true rfl provided
  refine ⟨classified, ?_, ?_, block, ?_⟩
  · exact complete_of_readAs (Option.some_get _).symm (Option.some_get _).symm classified
  · obtain ⟨mapping, within, keys⟩ := within rooted
    exact ⟨mapping, within, (keys "register").1 given⟩
  · have labels : ∀ cs : List Candidate,
        cs.map Candidate.label = (cs.map Candidate.unnumbered).map Candidate.label := by
      intro cs
      rw [List.map_map]
      rfl
    rw [labels, offered]
    decide +kernel

end Completion

end PlaybookServer
