/-
Module: PlaybookServer.Proofs.Playbook.Trace
Purpose: What the walk up to the task parameter passes. From a key it goes from pair to pair of the path, outward, each
  time to a shorter path, and stops at the first whose key is a task parameter. It leaves out no pair on the way; the
  trace names their keys, innermost first, each with the way in which the mapping below belongs to it.
Main exports: Path.pairAt?, Path.keyAt?, Path.pairsBetween, Path.Bears, OwnedBy.passed, walk_passes_enclosing_keys
-/
import Mathlib.Data.List.Forall2
import PlaybookServer.Proofs.Playbook.Enclosure

namespace PlaybookServer

open Playbook (Nesting)

namespace Document

variable {d : Document} {a b x : NodeId}

theorem pair?_of_not_isPair (apart : d.isPair x = false) : d.pair? x = none := by
  rw [isPair] at apart
  rw [pair?]
  cases kind : d.kind x <;> simp_all

theorem Below.mem_items (below : d.Below a b) (isSequence : d.isSequence a = true) : b ∈ d.items a := by
  rw [Document.isSequence] at isSequence
  cases below with
  | item kind among =>
      rw [items, kind]
      exact among
  | pair kind | key kind | value kind =>
      rw [kind] at isSequence
      cases isSequence

end Document

/-! ### Pairs on a path -/

namespace Path

/-- The key and the value of the pair that a path goes through at a step. -/
def pairAt? (p : Path) (i : Nat) : Option (NodeId × Option NodeId) := (p.steps[i]?.bind Step.node?).bind p.doc.pair?

/-- The path to the key of the pair at a step. -/
def keyAt? (p : Path) (i : Nat) : Option Path :=
  (p.pairAt? i).map fun (key, _) => ⟨p.doc, p.steps.take (i + 1) ++ [.node key]⟩

/-- The steps, innermost first, at which a path goes through a pair, from one step down to just above another. -/
def pairsBetween (p : Path) (outer inner : Nat) : List Nat :=
  (List.range inner).reverse.filter fun i => outer ≤ i && (p.pairAt? i).isSome

/-- A path goes on, from the pair at a step, to a mapping that belongs to it: under its key, which is a text, the
    mapping is the value, or an item of the sequence that is. -/
inductive Bears (p : Path) (i : Nat) : String × Nesting → Prop where
  | value {key mapping : NodeId} {name : String} (ofPair : p.pairAt? i = some (key, some mapping))
      (named : p.doc.scalar? key = some name) (below : p.steps[i + 1]? = some (.node mapping))
      (isMapping : p.doc.isMapping mapping = true) : Bears p i (name, .dict)
  | item {key list mapping : NodeId} {name : String} (ofPair : p.pairAt? i = some (key, some list))
      (named : p.doc.scalar? key = some name) (below : p.steps[i + 1]? = some (.node list))
      (isSequence : p.doc.isSequence list = true) (further : p.steps[i + 2]? = some (.node mapping))
      (among : mapping ∈ p.doc.items list) (isMapping : p.doc.isMapping mapping = true) : Bears p i (name, .list)

section Pairs

variable {p q around : Path} {front back : List Step} {i j n : Nat} {pair key x : NodeId} {value : Option NodeId}
  {name : String} {nesting : Nesting}

theorem pairAt?_of_split (split : p.steps = front ++ Step.node x :: back) :
    p.pairAt? front.length = p.doc.pair? x := by
  simp [pairAt?, split, Step.node?]

theorem keyAt?_of_split (split : p.steps = front ++ Step.node pair :: back)
    (ofPair : p.doc.pair? pair = some (key, value)) :
    p.keyAt? front.length = some ⟨p.doc, front ++ [Step.node pair, .node key]⟩ := by
  rw [keyAt?, pairAt?_of_split split, ofPair, split]
  simp [List.take_append, List.take_of_length_le]

/-- What a step goes through where it goes through a pair. -/
theorem exists_of_keyAt? (found : p.keyAt? i = some q) : i < p.length ∧ ∃ key value, p.pairAt? i = some (key, value) ∧
    q = ⟨p.doc, p.steps.take (i + 1) ++ [.node key]⟩ := by
  obtain ⟨⟨key, value⟩, ofPair, same⟩ := Option.map_eq_some_iff.1 found
  refine ⟨?_, key, value, ofPair, same.symm⟩
  by_cases inside : i < p.steps.length
  · exact inside
  · rw [pairAt?, List.getElem?_eq_none (Nat.le_of_not_lt inside)] at ofPair
    cases ofPair

theorem pairsBetween_self (p : Path) (i : Nat) : p.pairsBetween i i = [] := by
  simp only [pairsBetween, List.filter_eq_nil_iff, List.mem_reverse, List.mem_range, Bool.and_eq_true,
    decide_eq_true_eq]
  omega

theorem pairsBetween_succ (inside : i ≤ n) (p : Path) : p.pairsBetween i (n + 1) =
    if (p.pairAt? n).isSome then n :: p.pairsBetween i n else p.pairsBetween i n := by
  rw [pairsBetween, List.range_succ, List.reverse_concat, List.filter_cons, decide_eq_true inside, Bool.true_and]
  rfl

/-- Steps without a pair at the inner end do not count. -/
theorem pairsBetween_of_none {m : Nat} (inside : i ≤ m) (le : m ≤ n)
    (pairless : ∀ j, m ≤ j → j < n → p.pairAt? j = none) : p.pairsBetween i n = p.pairsBetween i m := by
  induction n, le using Nat.le_induction with
  | base => rfl
  | succ n le ih =>
      rw [pairsBetween_succ (Nat.le_trans inside le), pairless n le (Nat.lt_succ_self n)]
      exact ih fun j from_m less => pairless j from_m (Nat.lt_succ_of_lt less)

/-- Where two paths have the same pairs, the lists of their steps are the same. -/
theorem pairsBetween_congr (same : ∀ j < n, p.pairAt? j = q.pairAt? j) : p.pairsBetween i n = q.pairsBetween i n := by
  apply List.filter_congr
  intro j member
  rw [same j (List.mem_range.1 (List.mem_reverse.1 member))]

/-! ### Paths that begin alike -/

theorem pairAt?_of_shared (doc : q.doc = p.doc) (shared : q.steps.take (i + 1) = p.steps.take (i + 1)) (le : j ≤ i) :
    q.pairAt? j = p.pairAt? j := by
  have here := congrArg (·[j]?) shared
  simp only [List.getElem?_take_of_lt (Nat.lt_succ_of_le le)] at here
  rw [pairAt?, pairAt?, here, doc]

theorem keyAt?_of_shared (doc : q.doc = p.doc) (shared : q.steps.take (i + 1) = p.steps.take (i + 1)) (le : j ≤ i) :
    q.keyAt? j = p.keyAt? j := by
  have start := congrArg (List.take (j + 1)) shared
  rw [List.take_take, List.take_take, Nat.min_eq_left (Nat.succ_le_succ le)] at start
  rw [keyAt?, keyAt?, pairAt?_of_shared doc shared le, start, doc]

theorem Bears.of_shared {mark : String × Nesting} (bears : q.Bears j mark) (doc : q.doc = p.doc)
    (shared : q.steps.take (i + 1) = p.steps.take (i + 1)) (less : j < i) (isPair : (q.pairAt? i).isSome = true) :
    p.Bears j mark := by
  have steps : ∀ {k}, k ≤ i → q.steps[k]? = p.steps[k]? := by
    intro k le
    have here := congrArg (·[k]?) shared
    simpa only [List.getElem?_take_of_lt (Nat.lt_succ_of_le le)] using here
  cases bears with
  | value ofPair named below isMapping =>
      rw [pairAt?_of_shared doc shared (Nat.le_of_lt less)] at ofPair
      rw [steps less] at below
      rw [doc] at named isMapping
      exact .value ofPair named below isMapping
  | @item key list mapping name ofPair named below isSequence further among isMapping =>
      -- The step below is a list, and so it is not the pair at which the paths part.
      have apart : j + 1 ≠ i := by
        intro same
        rw [← same, pairAt?, below] at isPair
        have noPair := Document.pair?_of_not_isPair (Document.isPair_of_isSequence isSequence)
        simp [Step.node?, noPair] at isPair
      rw [pairAt?_of_shared doc shared (Nat.le_of_lt less)] at ofPair
      rw [steps less] at below
      rw [steps (by omega)] at further
      rw [doc] at named isSequence among isMapping
      exact .item ofPair named below isSequence further among isMapping

end Pairs

/-! ### One round -/

section Round

variable {p around : Path} {front back : List Step} {pair key : NodeId} {value : Option NodeId} {name : String}
  {nesting : Nesting} {n : Nat}

/-- The key of a pair is no pair. -/
theorem Rooted.pair?_key (rooted : p.Rooted) (ofPair : p.doc.pair? pair = some (key, value)) :
    p.doc.pair? key = none := by
  have below : key ∈ (p.doc.kind pair).children := by
    rw [Document.kind_of_pair? ofPair]
    exact List.mem_cons_self
  have same := rooted.paired.pair_iff_under_mapping pair key below
  have noMapping : p.doc.isMapping pair = false := by rw [Document.isMapping, Document.kind_of_pair? ofPair]
  rw [noMapping] at same
  exact Document.pair?_of_not_isPair same

/-- A path that ends at a key goes through its pair right above the end, and its end is no pair. -/
theorem AtKey.ends (atKey : p.AtKey) (rooted : p.Rooted) : ∃ n, p.length = n + 2 ∧ p.keyAt? n = some p ∧
    p.pairAt? (n + 1) = none := by
  cases atKey with
  | @intro d front pair key value ofPair =>
      refine ⟨front.length, by simp [length], keyAt?_of_split rfl ofPair, ?_⟩
      have last : (⟨d, front ++ [Step.node pair, .node key]⟩ : Path).steps =
          (front ++ [Step.node pair]) ++ [.node key] := by simp
      have noPair := rooted.pair?_key ofPair
      rw [← pairAt?_of_split last, List.length_append, List.length_singleton] at noPair
      exact noPair

/-- A round of the walk gets from the end of a path to the key of the pair at a step: it keeps the path down to there,
    and below there is no other pair but the one that the path ends in. -/
structure Passes (p around : Path) (mark : String × Nesting) (n : Nat) : Prop where
  doc : around.doc = p.doc
  shared : around.steps.take (n + 1) = p.steps.take (n + 1)
  length : around.length = n + 2
  bears : p.Bears n mark
  inside : n + 2 < p.length
  between : ∀ i, n < i → i + 2 < p.length → p.pairAt? i = none

theorem Bears.isPair {mark : String × Nesting} (bears : p.Bears n mark) : (p.pairAt? n).isSome = true := by
  cases bears with
  | value ofPair | item ofPair => rw [ofPair]; rfl

/-- The entry that holds another one is the next pair outward. -/
theorem HeldBy.passes (held : p.HeldBy around name nesting) (rooted : p.Rooted) :
    ∃ n, p.Passes around (name, nesting) n := by
  cases held with
  | @value d before outer entry key mapping pair x _ ofEntry named isMapping =>
      have atEntry := pairAt?_of_split (p := ⟨d, _⟩)
        (List.append_cons before (Step.node outer) [.node entry, .node mapping, .node pair, .node x])
      rw [List.length_append, List.length_singleton, ofEntry] at atEntry
      refine ⟨before.length + 1, rfl, by simp [List.take_append, Nat.add_assoc], by simp [Path.length],
        .value atEntry named (by simp [Nat.add_assoc]) isMapping, by simp [Path.length], ?_⟩
      intro i later above
      simp only [Path.length, List.length_append, List.length_cons, List.length_nil] at above
      obtain rfl : i = before.length + 2 := by omega
      simp [pairAt?, Step.node?, Document.pair?_of_not_isPair (Document.isPair_of_isMapping isMapping)]
  | @item d before outer entry key list mapping pair x _ ofEntry named isSequence isMapping =>
      have atEntry := pairAt?_of_split (p := ⟨d, _⟩)
        (List.append_cons before (Step.node outer) [.node entry, .node list, .node mapping, .node pair, .node x])
      rw [List.length_append, List.length_singleton, ofEntry] at atEntry
      have among := (rooted.below (List.append_assoc before [Step.node outer, .node entry] _).symm).mem_items isSequence
      refine ⟨before.length + 1, rfl, by simp [List.take_append, Nat.add_assoc], by simp [Path.length],
        .item atEntry named (by simp [Nat.add_assoc]) isSequence (by simp [Nat.add_assoc]) among isMapping,
        by simp [Path.length], ?_⟩
      intro i later above
      simp only [Path.length, List.length_append, List.length_cons, List.length_nil] at above
      obtain rfl | rfl : i = before.length + 2 ∨ i = before.length + 3 := by omega
      · simp [pairAt?, Step.node?, Document.pair?_of_not_isPair (Document.isPair_of_isSequence isSequence)]
      · simp [pairAt?, Step.node?, Document.pair?_of_not_isPair (Document.isPair_of_isMapping isMapping)]

end Round

end Path

namespace Playbook

variable {path outer owner : Path} {name : String} {nesting : Nesting} {trace : List (String × Nesting)}

/-! ### The whole walk -/

/-- The walk from the end of a path stopped at the key of the pair at a step. No pair further in has a key that is a
    task parameter, and the trace has a mark for each pair from there to the one around the key at the end. -/
structure Passed (path owner : Path) (trace : List (String × Nesting)) (own : Nat) : Prop where
  above : own + 2 ≤ path.length
  isKey : path.keyAt? own = some owner
  others : ∀ i further, own < i → path.keyAt? i = some further → isTaskParam further = false
  marks : List.Forall₂ path.Bears (path.pairsBetween own (path.length - 2)) trace

/-- At a task parameter the walk has passed nothing. -/
theorem passed_here (rooted : path.Rooted) (atKey : path.AtKey) : ∃ own, Passed path path [] own := by
  obtain ⟨n, size, isKey, last⟩ := atKey.ends rooted
  refine ⟨n, Nat.le_of_eq size.symm, isKey, ?_, ?_⟩
  · intro i further inner found
    obtain ⟨inside, key, value, ofPair, -⟩ := Path.exists_of_keyAt? found
    obtain rfl : i = n + 1 := by omega
    rw [last] at ofPair
    cases ofPair
  · rw [size, Nat.add_sub_cancel, Path.pairsBetween_self]
    exact .nil

/-- One round adds the next pair outward to what is passed from there. -/
theorem Passed.outward {n own : Nat} (passed : Passed outer owner trace own)
    (round : path.Passes outer (name, nesting) n) (rooted : path.Rooted) (atKey : path.AtKey)
    (other : isTaskParam path = false) :
    Passed path owner ((name, nesting) :: trace) own := by
  obtain ⟨k, size, atEnd, last⟩ := atKey.ends rooted
  have le : own ≤ n := by
    have above := passed.above
    rw [round.length] at above
    exact Nat.le_of_add_le_add_right above
  have inside := round.inside
  constructor
  · omega
  · rw [← Path.keyAt?_of_shared round.doc round.shared le]
    exact passed.isKey
  · intro i further inner found
    by_cases shared : i ≤ n
    · rw [← Path.keyAt?_of_shared round.doc round.shared shared] at found
      exact passed.others i further inner found
    · obtain ⟨short, key, value, ofPair, -⟩ := Path.exists_of_keyAt? found
      by_cases between : i + 2 < path.length
      · rw [round.between i (Nat.lt_of_not_le shared) between] at ofPair
        cases ofPair
      · obtain rfl | rfl : i = k ∨ i = k + 1 := by omega
        · rw [atEnd] at found
          cases found
          exact other
        · rw [last] at ofPair
          cases ofPair
  · -- Between the end and the pair of this round there is no other, and from there on the paths have the same.
    have next : path.pairsBetween own (path.length - 2) = n :: outer.pairsBetween own n := by
      have pairless : ∀ i, n + 1 ≤ i → i < path.length - 2 → path.pairAt? i = none :=
        fun i later above => round.between i later (by omega)
      have same : ∀ i < n, path.pairAt? i = outer.pairAt? i :=
        fun i less => (Path.pairAt?_of_shared round.doc round.shared (Nat.le_of_lt less)).symm
      rw [Path.pairsBetween_of_none (Nat.le_succ_of_le le) (by omega) pairless, Path.pairsBetween_succ le,
        if_pos round.bears.isPair, Path.pairsBetween_congr same]
    have marks := passed.marks
    rw [round.length, Nat.add_sub_cancel] at marks
    have less : ∀ i ∈ outer.pairsBetween own n, i < n := by
      intro i member
      exact List.mem_range.1 (List.mem_reverse.1 (List.mem_filter.1 member).1)
    have isPair : (outer.pairAt? n).isSome = true := by
      rw [Path.pairAt?_of_shared round.doc round.shared (Nat.le_refl n)]
      exact round.bears.isPair
    rw [next]
    apply List.Forall₂.cons round.bears
    apply ((List.forall₂_and_left _ _).2 ⟨less, marks⟩).imp
    intro i mark ⟨inner, bears⟩
    exact bears.of_shared round.doc round.shared inner isPair

/-- Going outward to the key that owns an option passes each pair on the way. -/
theorem OwnedBy.passed (owned : OwnedBy path trace owner) (rooted : path.Rooted) (atKey : path.AtKey) :
    ∃ own, Passed path owner trace own := by
  induction owned with
  | here => exact passed_here rooted atKey
  | up other held _ ih =>
      obtain ⟨n, round⟩ := held.passes rooted
      obtain ⟨own, passed⟩ := ih (held.rooted rooted) held.atKey
      exact ⟨own, passed.outward round rooted atKey other⟩

theorem OwnedBy.isParam (owned : OwnedBy path trace owner) : isTaskParam owner = true := by
  induction owned with
  | here isParam => exact isParam
  | up _ _ _ ih => exact ih

theorem OwnedBy.nil_iff (owned : OwnedBy path trace owner) : trace = [] ↔ isTaskParam path = true := by
  cases owned with
  | here isParam => exact iff_of_true rfl isParam
  | up other => exact iff_of_false (List.cons_ne_nil _ _) (Bool.eq_false_iff.1 other)

/-! ### Paths that the walk can start from -/

theorem atKey_of_isTaskParam (isParam : isTaskParam path = true) : path.AtKey := by
  rw [isTaskParam] at isParam
  cases list : (path.ancestry.parentOfKey.parent (some .sequence)).path? with
  | none =>
      rw [list] at isParam
      cases isParam
  | some q =>
      obtain ⟨i, reached, -⟩ := Option.map_eq_some_iff.1 list
      obtain ⟨m, start⟩ := Ancestry.index_of_parent reached
      exact Path.atKey_of_parentOfKey start

theorem atKey_of_enclosingKey? (leads : enclosingKey? path = some (outer, name, nesting)) : path.AtKey := by
  have start : enclosingKey? path = path.ancestry.parentOfKey.enclosing? := rfl
  rw [start] at leads
  cases index : path.ancestry.parentOfKey.index with
  | some m => exact Path.atKey_of_parentOfKey index
  | none =>
      rw [enclosing?_of_top (by rw [index]; rfl)] at leads
      cases leads

/-- From a place that is no key the walk gets nowhere. -/
theorem atKey_of_walk (walk : taskParamWithTrace? path = some (owner, trace)) : path.AtKey := by
  rw [taskParamWithTrace?, traceWithin_succ] at walk
  split at walk
  next isParam => exact atKey_of_isTaskParam isParam
  next =>
      split at walk
      next leads => exact atKey_of_enclosingKey? leads
      next => cases walk

/-- Every round gets to a shorter path. -/
theorem length_enclosingKey? (rooted : path.Rooted) (leads : enclosingKey? path = some (outer, name, nesting)) :
    outer.length < path.length :=
  ((enclosingKey?_eq_some_iff rooted (atKey_of_enclosingKey? leads)).1 leads).shorter

/-- The walk from a path is one round, unless its key is a task parameter, and the walk from there. The number of rounds
    that it is given is always enough. -/
theorem taskParamWithTrace?_eq (rooted : path.Rooted) : taskParamWithTrace? path =
    if isTaskParam path then some (path, [])
    else (enclosingKey? path).bind fun round =>
      (taskParamWithTrace? round.1).map fun further => (further.1, round.2 :: further.2) := by
  rw [taskParamWithTrace?, traceWithin_succ]
  split
  next => rfl
  next other =>
      cases leads : enclosingKey? path with
      | none => rfl
      | some round =>
          obtain ⟨outer, name, nesting⟩ := round
          have held := (enclosingKey?_eq_some_iff rooted (atKey_of_enclosingKey? leads)).1 leads
          have rootedOuter := held.rooted rooted
          have enough := held.shorter
          apply Option.ext
          intro found
          have walk := @traceWithin_eq_some_iff outer found.1 found.2 rootedOuter held.atKey _ enough
            ([] ++ [(name, nesting)])
          rw [Option.bind_some, Option.map_eq_some_iff]
          apply walk.trans
          constructor
          · intro onward
            obtain ⟨further, same, owned⟩ := onward
            have rest := (taskParamWithTrace?_eq_some_iff rootedOuter held.atKey).2 owned
            exact ⟨(found.1, further), rest, Prod.ext rfl same.symm⟩
          · intro onward
            obtain ⟨further, rest, same⟩ := onward
            rw [← same]
            exact ⟨further.2, rfl, (taskParamWithTrace?_eq_some_iff rootedOuter held.atKey).1 rest⟩

/-- The walk up to the task parameter ends: each round gets to a shorter path, and the walk is a round and the walk from
    where it gets to. Where it finds a task parameter, that is the key of a pair on the path, to which the path down to
    the pair leads, and no pair further in has such a key. The trace is empty exactly if the path is itself one; it has
    one mark for each pair from the one around the key at the end out to the one that is found, innermost first: the
    text of its key, and whether the mapping below is its value or an item of the sequence that is. -/
theorem walk_passes_enclosing_keys (rooted : path.Rooted) :
    (∀ outer name nesting, enclosingKey? path = some (outer, name, nesting) → outer.length < path.length) ∧
    (taskParamWithTrace? path = if isTaskParam path then some (path, [])
      else (enclosingKey? path).bind fun round =>
        (taskParamWithTrace? round.1).map fun further => (further.1, round.2 :: further.2)) ∧
    ∀ owner trace, taskParamWithTrace? path = some (owner, trace) → ∃ own,
      path.keyAt? own = some owner ∧ isTaskParam owner = true ∧ owner.steps.dropLast <+: path.steps ∧
      (∀ i further, own < i → path.keyAt? i = some further → isTaskParam further = false) ∧
      (trace = [] ↔ isTaskParam path = true) ∧
      List.Forall₂ path.Bears (path.pairsBetween own (path.length - 2)) trace := by
  refine ⟨fun _ _ _ => length_enclosingKey? rooted, taskParamWithTrace?_eq rooted, ?_⟩
  intro owner trace walk
  have atKey := atKey_of_walk walk
  have owned := (taskParamWithTrace?_eq_some_iff rooted atKey).1 walk
  obtain ⟨own, passed⟩ := owned.passed rooted atKey
  refine ⟨own, passed.isKey, owned.isParam, ?_, passed.others, owned.nil_iff, passed.marks⟩
  obtain ⟨-, key, value, -, same⟩ := Path.exists_of_keyAt? passed.isKey
  rw [same, List.dropLast_concat]
  exact List.take_prefix _ _

/-- The key `owner` of a list item in the options of a task: `- file:`, `    opts:`, `      - owner: root`. -/
def ownerKey : Path where
  doc := {
    nodes := #[⟨.scalar "file" .plain, ⟨2, 6⟩⟩, ⟨.scalar "opts" .plain, ⟨12, 16⟩⟩, ⟨.scalar "owner" .plain, ⟨26, 31⟩⟩,
      ⟨.scalar "root" .plain, ⟨33, 37⟩⟩, ⟨.pair 2 (some 3), ⟨26, 37⟩⟩, ⟨.mapping [4], ⟨26, 37⟩⟩,
      ⟨.sequence [5], ⟨24, 37⟩⟩, ⟨.pair 1 (some 6), ⟨12, 37⟩⟩, ⟨.mapping [7], ⟨12, 37⟩⟩, ⟨.pair 0 (some 8), ⟨2, 37⟩⟩,
      ⟨.mapping [9], ⟨2, 37⟩⟩, ⟨.sequence [10], ⟨0, 37⟩⟩]
    root := some 11
    span := ⟨0, 37⟩ }
  steps := [.node 11, .node 10, .node 9, .node 8, .node 7, .node 6, .node 5, .node 4, .node 2]

/-- The walk passes the list below `opts` and the mapping below `file`, where it stops. -/
theorem owner_lies_in_list_of_opts : ownerKey.Rooted ∧
    taskParamWithTrace? ownerKey = some (⟨ownerKey.doc, [.node 11, .node 10, .node 9, .node 0]⟩,
      [("opts", .list), ("file", .dict)]) ∧
    List.Forall₂ ownerKey.Bears (ownerKey.pairsBetween 2 7) [("opts", .list), ("file", .dict)] := by
  have rooted : ownerKey.Rooted := by decide +kernel
  have walk : taskParamWithTrace? ownerKey = some (⟨ownerKey.doc, [.node 11, .node 10, .node 9, .node 0]⟩,
      [("opts", .list), ("file", .dict)]) := by rfl
  obtain ⟨own, isKey, -, -, -, -, marks⟩ := (walk_passes_enclosing_keys rooted).2.2 _ _ walk
  obtain ⟨inside, key, value, -, same⟩ := Path.exists_of_keyAt? isKey
  have steps := congrArg (fun p : Path => p.steps.length) same
  simp only [Path.length, ownerKey, List.length_append, List.length_take, List.length_cons,
    List.length_nil] at inside steps
  obtain rfl : own = 2 := by omega
  exact ⟨rooted, walk, marks⟩

end Playbook

end PlaybookServer
