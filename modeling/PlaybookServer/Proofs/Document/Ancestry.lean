/-
Module: PlaybookServer.Proofs.Document.Ancestry
Purpose: Walking up a path. A path from the root of a tree goes down step by step; above each of its nodes stands
  nothing, the mapping and the pair that the node is a key or value of, or the sequence that it is an item of. So a
  walk gets to the node above, and a pair on the way is stepped over unless it is asked for.
Main exports: Path.Rooted, Path.AtKey, Path.Rooted.above, Ancestry.parentOfKey_index, Path.atKey_of_parentOfKey
-/
import Mathlib.Data.List.Chain
import Mathlib.Data.List.Induction
import PlaybookServer.Proofs.Document.Path

namespace PlaybookServer

/-! ### The mapping of a key -/

namespace Ancestry

variable {a : Ancestry}

theorem not_isAt_pair_of_isAt_mapping {i : Nat} (mapping : a.isAt i .mapping = true) : a.isAt i .pair = false := by
  unfold isAt at mapping ⊢
  cases node : a.nodeAt? i with
  | none => rfl
  | some id =>
      rw [node] at mapping
      simp only [Document.isMapping, Document.isPair] at mapping ⊢
      cases kind : a.path.doc.kind id <;> simp_all

theorem above_eq_some {index : Option Nat} {i : Nat} : above index = some i ↔ index = some (i + 1) := by
  cases index with
  | none => simp [above]
  | some k =>
      cases k with
      | zero => simp [above]
      | succ k => simp [above]

theorem parent_pair_index {j : Nat} (reached : (a.parent (some .pair)).index = some j) :
    a.index = some (j + 1) ∧ a.isAt j .pair = true := by
  simp only [parent, Option.filter_eq_some_iff, Option.bind_eq_some_iff, above_eq_some] at reached
  obtain ⟨⟨i, up, same⟩, pair⟩ := reached
  obtain rfl : i = j := by simpa using same
  exact ⟨up, pair⟩

/-- The mapping above a place stands right above it, or above a pair. -/
theorem parent_mapping_index {m : Nat} (reached : (a.parent (some .mapping)).index = some m) :
    ∃ i, a.index = some (i + 1) ∧ (if a.isAt i .pair then i = m + 1 else i = m) ∧ a.isAt m .mapping = true := by
  simp only [parent, Option.filter_eq_some_iff, Option.bind_eq_some_iff, above_eq_some] at reached
  obtain ⟨⟨i, up, skipped⟩, mapping⟩ := reached
  refine ⟨i, up, ?_, mapping⟩
  by_cases pair : a.isAt i .pair = true
  · simpa [pair, above_eq_some] using skipped
  · simpa [pair] using skipped

/-- The walk to a key's mapping goes through the pair of the key, if it gets anywhere. -/
theorem parentOfKey_eq (a : Ancestry) : ∃ isKey : Bool, a.parentOfKey =
    if isKey then (a.parent (some .pair)).parent (some .mapping) else { a with index := none } := ⟨_, rfl⟩

theorem path_parentOfKey (a : Ancestry) : a.parentOfKey.path = a.path := by
  obtain ⟨isKey, walk⟩ := parentOfKey_eq a
  rw [walk]
  cases isKey <;> rfl

/-- A key's mapping, where the walk reaches it, is the mapping above the key: no other mapping is as near. -/
theorem parentOfKey_index {m n : Nat} (owner : a.parentOfKey.index = some n)
    (above : (a.parent (some .mapping)).index = some m) : n = m := by
  obtain ⟨isKey, walk⟩ := parentOfKey_eq a
  rw [walk] at owner
  cases isKey with
  | false => cases owner
  | true =>
      obtain ⟨k, moved, nearest, -⟩ := parent_mapping_index owner
      obtain ⟨index, pair⟩ := parent_pair_index moved
      obtain ⟨i, same, next, mapping⟩ := parent_mapping_index above
      obtain rfl : k + 1 = i := by
        rw [index] at same
        exact Nat.succ.inj (Option.some.inj same)
      rw [if_pos pair] at next
      obtain rfl : k = m := Nat.succ.inj next
      have apart : (a.parent (some .pair)).isAt k .pair = false := not_isAt_pair_of_isAt_mapping mapping
      rw [apart] at nearest
      exact nearest.symm

theorem node?_eq_bind (a : Ancestry) : a.node? = a.index.bind a.nodeAt? := by
  rw [node?, get?, Option.bind_assoc]
  rfl

theorem index_of_parent {expect : Option Expect} {i : Nat} (reached : (a.parent expect).index = some i) :
    ∃ j, a.index = some j := by
  cases index : a.index with
  | some j => exact ⟨j, rfl⟩
  | none => simp [parent, index, above] at reached

theorem node?_parent_isSome {expect : Expect} {i : Nat} (reached : (a.parent (some expect)).index = some i) :
    (a.parent (some expect)).node?.isSome = true := by
  have asked : (a.parent (some expect)).isAt i expect = true := by
    have filtered := reached
    simp only [parent, Option.filter_eq_some_iff] at filtered
    exact filtered.2
  rw [node?_eq_bind, reached, Option.bind_some]
  unfold isAt at asked
  cases node : (a.parent (some expect)).nodeAt? i with
  | none => simp [node] at asked
  | some id => rfl

end Ancestry

/-! ### Classes of nodes -/

namespace Document

variable {d : Document} {x : NodeId}

theorem isPair_of_pair? {key : NodeId} {value : Option NodeId} (ofPair : d.pair? x = some (key, value)) :
    d.isPair x = true := by
  rw [pair?] at ofPair
  rw [isPair]
  cases kind : d.kind x <;> simp_all

theorem kind_of_pair? {key : NodeId} {value : Option NodeId} (ofPair : d.pair? x = some (key, value)) :
    d.kind x = .pair key value := by
  rw [pair?] at ofPair
  cases kind : d.kind x <;> simp_all

theorem isPair_of_isMapping (mapping : d.isMapping x = true) : d.isPair x = false := by
  rw [isMapping] at mapping
  rw [isPair]
  cases kind : d.kind x <;> simp_all

theorem isPair_of_isSequence (sequence : d.isSequence x = true) : d.isPair x = false := by
  rw [isSequence] at sequence
  rw [isPair]
  cases kind : d.kind x <;> simp_all

theorem isSequence_of_isMapping (mapping : d.isMapping x = true) : d.isSequence x = false := by
  rw [isMapping] at mapping
  rw [isSequence]
  cases kind : d.kind x <;> simp_all

theorem isMapping_of_isSequence (sequence : d.isSequence x = true) : d.isMapping x = false := by
  rw [isSequence] at sequence
  rw [isMapping]
  cases kind : d.kind x <;> simp_all

theorem isPair_of_scalar? {text : String} (scalar : d.scalar? x = some text) : d.isPair x = false := by
  rw [scalar?] at scalar
  rw [isPair]
  cases kind : d.kind x <;> simp_all

theorem scalar?_of_isMapping (mapping : d.isMapping x = true) : d.scalar? x = none := by
  rw [isMapping] at mapping
  rw [scalar?]
  cases kind : d.kind x <;> simp_all

theorem scalar?_of_isSequence (sequence : d.isSequence x = true) : d.scalar? x = none := by
  rw [isSequence] at sequence
  rw [scalar?]
  cases kind : d.kind x <;> simp_all

end Document

/-! ### Paths from the root -/

namespace Document

variable {d : Document} {a b : NodeId}

theorem Below.mem_children (below : d.Below a b) : b ∈ (d.kind a).children := by
  cases below with
  | pair mapping among _ => simpa [mapping, NodeKind.children] using among
  | key pair => simp [pair, NodeKind.children]
  | value pair => simp [pair, NodeKind.children]
  | item sequence among => simpa [sequence, NodeKind.children] using among

instance (d : Document) (a b : NodeId) : Decidable (d.Below a b) :=
  match kind : d.kind a with
  | .mapping pairs => decidable_of_iff (b ∈ pairs ∧ d.isPair b = true)
      ⟨fun ⟨among, isPair⟩ => .pair kind among isPair, fun below => by cases below <;> simp_all⟩
  | .pair k v => decidable_of_iff (b = k ∨ v = some b) ⟨fun part => by
      rcases part with rfl | rfl
      · exact .key kind
      · exact .value kind, fun below => by cases below <;> simp_all⟩
  | .sequence items => decidable_of_iff (b ∈ items) ⟨fun among => .item kind among, fun below => by
      cases below <;> simp_all⟩
  | .scalar _ _ | .reference _ | .null => isFalse fun below => by cases below <;> simp_all

/-- Pairs stand below mappings and nowhere else, and nothing else stands there. -/
structure WellPaired (d : Document) : Prop where
  pair_iff_under_mapping : ∀ id, ∀ c ∈ (d.kind id).children, d.isPair c = d.isMapping id
  root_not_pair : ∀ root, d.root = some root → d.isPair root = false

/-- Only nodes of the document have children. -/
theorem in_range_of_mem_children (among : b ∈ (d.kind a).children) : a < d.nodes.size := by
  by_contra outside
  rw [children_kind, childrenAt, Array.getElem?_eq_none (Nat.le_of_not_lt outside)] at among
  cases among

theorem OneTree.wellPaired (tree : d.OneTree) : d.WellPaired where
  pair_iff_under_mapping id c among := tree.pair_iff_under_mapping id (in_range_of_mem_children among) c among
  root_not_pair := tree.root_not_pair

/-- The place of the pairs can be seen node by node. -/
instance (d : Document) : Decidable d.WellPaired :=
  decidable_of_iff ((∀ id < d.nodes.size, ∀ c ∈ (d.kind id).children, d.isPair c = d.isMapping id) ∧
      ∀ root ∈ d.root, d.isPair root = false)
    ⟨fun ⟨inside, root⟩ => ⟨fun id c among => inside id (in_range_of_mem_children among) c among, root⟩,
      fun paired => ⟨fun id _ => paired.pair_iff_under_mapping id, paired.root_not_pair⟩⟩

end Document

namespace Path

/-- Whether a step can follow another on the way down. Nothing follows the empty slot. -/
inductive Continues (d : Document) : Step → Step → Prop where
  | node {a b : NodeId} (below : d.Below a b) : Continues d (.node a) (.node b)
  | slot (a : NodeId) : Continues d (.node a) .empty

/-- A path that goes down its document from the root, one step after the other. Of the document only the place of its
    pairs matters, not in which order its nodes are kept. -/
structure Rooted (p : Path) : Prop where
  paired : p.doc.WellPaired
  from_root : ∃ root, p.doc.root = some root ∧ p.steps.head? = some (.node root)
  linked : p.steps.IsChain (Continues p.doc)

instance (d : Document) : (s t : Step) → Decidable (Continues d s t)
  | .node a, .node b => decidable_of_iff (d.Below a b) ⟨.node, fun | .node below => below⟩
  | .node a, .empty => isTrue (.slot a)
  | .empty, _ => isFalse nofun

/-- A path that ends at the key of a pair. -/
inductive AtKey : Path → Prop where
  | intro {d : Document} {front : List Step} {pair key : NodeId} {value : Option NodeId}
      (ofPair : d.pair? pair = some (key, value)) : AtKey ⟨d, front ++ [Step.node pair, .node key]⟩

/-- What stands above a node that is no pair, up to the root. -/
inductive Above (d : Document) (x : NodeId) : List Step → Prop where
  | top : Above d x []
  | entry {before : List Step} {outer entry key : NodeId} {value : Option NodeId} (mapping : d.isMapping outer = true)
      (ofPair : d.pair? entry = some (key, value)) (part : key = x ∨ value = some x) :
      Above d x (before ++ [Step.node outer, .node entry])
  | item {before : List Step} {list : NodeId} (sequence : d.isSequence list = true) :
      Above d x (before ++ [Step.node list])

instance (p : Path) : Decidable p.Rooted :=
  decidable_of_iff (p.doc.WellPaired ∧ (∃ root ∈ p.doc.root, p.steps.head? = some (.node root)) ∧
      p.steps.IsChain (Continues p.doc))
    ⟨fun ⟨paired, start, linked⟩ => ⟨paired, start, linked⟩,
      fun rooted => ⟨rooted.paired, rooted.from_root, rooted.linked⟩⟩

section Rooted

variable {p : Path} {front back : List Step} {x : NodeId}

/-- The way down to an offset starts at the root. -/
theorem Leads.rooted {offset : Nat} {inclusive : Bool} (leads : p.Leads offset inclusive) (tree : p.doc.OneTree) :
    p.Rooted where
  paired := tree.wellPaired
  from_root := leads.from_root
  linked := by
    rw [List.isChain_iff_getElem]
    intro i next
    cases here : p.steps[i] with
    | empty =>
        have last := leads.down.empty_last i (by simp [← here])
        omega
    | node a =>
        cases there : p.steps[i + 1] with
        | empty => exact .slot a
        | node b => exact .node (leads.down.linked i a b (by simp [← here]) (by simp [← there]))

/-- The path to an offset in a stream of trees starts at the root of its document, which is one of them. -/
theorem rooted_pathAt? {s : Stream} {offset : Nat} {inclusive : Bool} (trees : ∀ d ∈ s.documents, d.OneTree)
    (found : pathAt? s offset inclusive = some p) : p.Rooted ∧ p.doc.OneTree := by
  have first := map_doc_pathAt? s offset inclusive
  rw [found] at first
  have tree := trees p.doc (List.mem_of_find?_eq_some first.symm)
  exact ⟨(leads_pathAt? trees found).rooted tree, tree⟩

/-- A start of a path from the root is one itself. -/
theorem Rooted.take (rooted : p.Rooted) (split : p.steps = front ++ back) (nonempty : front ≠ []) :
    Rooted ⟨p.doc, front⟩ where
  paired := rooted.paired
  from_root := by
    obtain ⟨root, atRoot, head⟩ := rooted.from_root
    rw [split, List.head?_append_of_ne_nil _ nonempty] at head
    exact ⟨root, atRoot, head⟩
  linked := (split ▸ rooted.linked).left_of_append

theorem Rooted.below {a b : NodeId} (rooted : p.Rooted) (split : p.steps = front ++ Step.node a :: .node b :: back) :
    p.doc.Below a b := by
  have chain := rooted.linked
  rw [split] at chain
  cases chain.right_of_append with
  | cons_cons continues =>
      cases continues with
      | node below => exact below

/-- A path from the root can turn to the key of a pair that it goes through. -/
theorem Rooted.toKey {outer entry key : NodeId} {value : Option NodeId} (rooted : p.Rooted)
    (split : p.steps = front ++ Step.node outer :: .node entry :: back)
    (ofPair : p.doc.pair? entry = some (key, value)) :
    Rooted ⟨p.doc, front ++ [Step.node outer, .node entry, .node key]⟩ := by
  have start := rooted.take (split.trans (List.append_assoc front [_, _] back).symm) (by simp)
  have below : p.doc.Below entry key := .key (Document.kind_of_pair? ofPair)
  refine ⟨rooted.paired, ?_, ?_⟩
  · obtain ⟨root, atRoot, head⟩ := start.from_root
    exact ⟨root, atRoot, by cases front <;> simpa using head⟩
  · have chain : List.IsChain (Continues p.doc) (front ++ [Step.node outer] ++ [Step.node entry]) := by
      simpa using start.linked
    have whole := List.isChain_split.2 ⟨chain, .cons_cons (.node below) (.singleton _)⟩
    simpa using whole

theorem atKey_of_split {d : Document} {outer entry key : NodeId} {value : Option NodeId}
    (ofPair : d.pair? entry = some (key, value)) :
    AtKey ⟨d, front ++ [Step.node outer, .node entry, .node key]⟩ := by
  rw [List.append_cons]
  exact .intro ofPair

theorem exists_last_of_keyName? {text : String} (scalar : p.keyName? = some text) :
    ∃ front x, p.steps = front ++ [Step.node x] ∧ p.doc.scalar? x = some text := by
  obtain ⟨x, last, isText⟩ := Option.bind_eq_some_iff.1 scalar
  obtain ⟨s, atEnd, isNode⟩ := Option.bind_eq_some_iff.1 last
  cases s with
  | empty => cases isNode
  | node y =>
      cases isNode
      obtain ⟨front, split⟩ := List.getLast?_eq_some_iff.1 atEnd
      exact ⟨front, x, split, isText⟩

/-- All steps of a path from the root but the last are nodes. -/
theorem Rooted.node_of_split {s next : Step} (rooted : p.Rooted) (split : p.steps = front ++ s :: next :: back) :
    ∃ a, s = .node a := by
  have chain := rooted.linked
  rw [split] at chain
  cases chain.right_of_append with
  | cons_cons continues =>
      cases continues with
      | node | slot => exact ⟨_, rfl⟩

/-- What stands right above a pair is a mapping. -/
theorem Rooted.above_pair (rooted : p.Rooted) (split : p.steps = front ++ Step.node x :: back)
    (pair : p.doc.isPair x = true) :
    ∃ before outer, front = before ++ [Step.node outer] ∧ p.doc.isMapping outer = true := by
  rcases List.eq_nil_or_concat front with rfl | ⟨before, s, rfl⟩
  · obtain ⟨root, atRoot, head⟩ := rooted.from_root
    obtain rfl : x = root := by simpa [split] using head
    have apart := rooted.paired.root_not_pair x atRoot
    rw [pair] at apart
    cases apart
  · rw [List.concat_eq_append, List.append_assoc, List.singleton_append] at split
    obtain ⟨outer, rfl⟩ := rooted.node_of_split split
    have below := rooted.below split
    have same := rooted.paired.pair_iff_under_mapping outer x below.mem_children
    exact ⟨before, outer, by simp, same.symm.trans pair⟩

theorem Rooted.isMapping_of_split {outer entry : NodeId} (rooted : p.Rooted)
    (split : p.steps = front ++ Step.node outer :: .node entry :: back) (pair : p.doc.isPair entry = true) :
    p.doc.isMapping outer = true := by
  have split : p.steps = (front ++ [Step.node outer]) ++ Step.node entry :: back :=
    split.trans (List.append_assoc front [Step.node outer] _).symm
  obtain ⟨before, outer', same, mapping⟩ := rooted.above_pair split pair
  obtain ⟨-, same⟩ := List.append_inj' same rfl
  cases same
  exact mapping

/-- What stands right below a mapping is a pair. -/
theorem Rooted.isPair_of_split {mapping : NodeId} (rooted : p.Rooted)
    (split : p.steps = front ++ Step.node mapping :: .node x :: back) (isMapping : p.doc.isMapping mapping = true) :
    p.doc.isPair x = true := by
  have below := rooted.below split
  rw [rooted.paired.pair_iff_under_mapping mapping x below.mem_children]
  exact isMapping

/-- What stands above a node that is no pair. -/
theorem Rooted.above (rooted : p.Rooted) (split : p.steps = front ++ Step.node x :: back)
    (apart : p.doc.isPair x = false) : Above p.doc x front := by
  rcases List.eq_nil_or_concat front with rfl | ⟨before, s, rfl⟩
  · exact .top
  · rw [List.concat_eq_append, List.append_assoc, List.singleton_append] at split
    obtain ⟨a, rfl⟩ := rooted.node_of_split split
    rw [List.concat_eq_append]
    cases rooted.below split with
    | pair _ _ pair =>
        rw [pair] at apart
        cases apart
    | key kind =>
        obtain ⟨before, outer, rfl, mapping⟩ := rooted.above_pair split (Document.isPair_of_kind kind)
        rw [List.append_assoc, List.singleton_append]
        exact .entry mapping (Document.pair?_of_kind kind) (.inl rfl)
    | value kind =>
        obtain ⟨before, outer, rfl, mapping⟩ := rooted.above_pair split (Document.isPair_of_kind kind)
        rw [List.append_assoc, List.singleton_append]
        exact .entry mapping (Document.pair?_of_kind kind) (.inr rfl)
    | item kind _ =>
        refine .item ?_
        rw [Document.isSequence, kind]

/-- Above the key of a pair stands the mapping that the pair is an entry of. -/
theorem AtKey.split (atKey : p.AtKey) (rooted : p.Rooted) : ∃ front mapping pair key value,
    p.steps = front ++ [Step.node mapping, .node pair, .node key] ∧ p.doc.isMapping mapping = true ∧
      p.doc.pair? pair = some (key, value) := by
  cases atKey with
  | @intro d front pair key value ofPair =>
      obtain ⟨before, mapping, rfl, isMapping⟩ := rooted.above_pair rfl (Document.isPair_of_pair? ofPair)
      exact ⟨before, mapping, pair, key, value, List.append_assoc before [_] _, isMapping, ofPair⟩

end Rooted

end Path

/-! ### Walks -/

/-- Whether a node is of a class that a walk asks for. -/
def Expect.fits (d : Document) (x : NodeId) : Expect → Bool
  | .mapping => d.isMapping x
  | .sequence => d.isSequence x
  | .pair => d.isPair x

namespace Ancestry

variable {a : Ancestry} {before back : List Step} {up outer entry key : NodeId} {value : Option NodeId}

theorem nodeAt?_of_split (split : a.path.steps = before ++ Step.node up :: back) :
    a.nodeAt? before.length = some up := by
  simp [nodeAt?, split, Step.node?]

theorem nodeAt?_below_split (split : a.path.steps = before ++ Step.node outer :: .node entry :: back) :
    a.nodeAt? (before.length + 1) = some entry := by
  simp [nodeAt?, split, Step.node?]

theorem isAt_of_split (split : a.path.steps = before ++ Step.node up :: back) (expect : Expect) :
    a.isAt before.length expect = expect.fits a.path.doc up := by
  rw [isAt, nodeAt?_of_split split]
  cases expect <;> rfl

/-- Above the top of a path, and above nowhere, is nothing. -/
theorem parent_of_top (top : above a.index = none) (expect : Option Expect) :
    a.parent expect = { a with index := none } := by
  rw [parent, top]
  rfl

/-- Above a key or value stands, behind its pair, the mapping of the pair. -/
theorem parent_of_entry (split : a.path.steps = before ++ Step.node outer :: .node entry :: back)
    (pair : a.path.doc.isPair entry = true) (index : a.index = some (before.length + 2)) {expect : Expect}
    (other : expect ≠ .pair) : a.parent (some expect) =
      { a with index := if expect.fits a.path.doc outer then some before.length else none } := by
  have atEntry : a.isAt (before.length + 1) .pair = true := by
    rw [isAt, nodeAt?_below_split split]
    exact pair
  have atOuter := isAt_of_split split expect
  rw [parent, index, above, Option.bind_some, atEntry]
  simp [other, above, Option.filter, atOuter]

/-- Above an item stands its sequence. -/
theorem parent_of_item (split : a.path.steps = before ++ Step.node up :: back) (apart : a.path.doc.isPair up = false)
    (index : a.index = some (before.length + 1)) (expect : Expect) : a.parent (some expect) =
      { a with index := if expect.fits a.path.doc up then some before.length else none } := by
  have pair : a.isAt before.length .pair = false := (isAt_of_split split .pair).trans apart
  have atUp := isAt_of_split split expect
  rw [parent, index, above, Option.bind_some, pair]
  simp [Option.filter, atUp]

/-- No mapping stands right above an item. -/
theorem parent_mapping_of_item (split : a.path.steps = before ++ Step.node up :: back)
    (isSequence : a.path.doc.isSequence up = true) (index : a.index = some (before.length + 1)) :
    a.parent (some .mapping) = { a with index := none } := by
  rw [parent_of_item split (Document.isPair_of_isSequence isSequence) index]
  simp [Expect.fits, Document.isMapping_of_isSequence isSequence]

/-- Above a key or value stands its pair, if that is asked for. -/
theorem parent_pair (split : a.path.steps = before ++ Step.node outer :: .node entry :: back)
    (pair : a.path.doc.isPair entry = true) (index : a.index = some (before.length + 2)) :
    a.parent (some .pair) = { a with index := some (before.length + 1) } := by
  have atEntry : a.isAt (before.length + 1) .pair = true := by
    rw [isAt, nodeAt?_below_split split]
    exact pair
  rw [parent, index, above, Option.bind_some]
  simp [Option.filter, atEntry]

theorem keyPath?_of_split (split : a.path.steps = before ++ Step.node outer :: .node entry :: back)
    (ofPair : a.path.doc.pair? entry = some (key, value)) (index : a.index = some before.length) :
    a.keyPath? = some ⟨a.path.doc, before ++ [Step.node outer, .node entry, .node key]⟩ := by
  have atEntry := nodeAt?_below_split split
  rw [keyPath?, pairBelow?, index]
  simp only [Option.bind_some, atEntry, ofPair, Option.map_some]
  simp [split, List.take_append, List.take_of_length_le]

end Ancestry

namespace Path

variable {p : Path} {before : List Step} {mapping pair key x : NodeId} {value : Option NodeId}

/-- The mapping above an entry's key or value. -/
theorem parent_mapping_of_split (split : p.steps = before ++ [Step.node mapping, .node pair, .node x])
    (isPair : p.doc.isPair pair = true) (isMapping : p.doc.isMapping mapping = true) :
    p.ancestry.parent (some .mapping) = ⟨p, some before.length⟩ := by
  have start : p.ancestry.index = some (before.length + 2) := by simp [ancestry, length, split]
  rw [Ancestry.parent_of_entry split isPair start (by simp)]
  simp [ancestry, Expect.fits, isMapping]

/-- From the end of an entry the walk to a key's mapping gets there if that end is the key. -/
theorem parentOfKey_of_pair (split : p.steps = before ++ [Step.node mapping, .node pair, .node x])
    (ofPair : p.doc.pair? pair = some (key, value)) (isMapping : p.doc.isMapping mapping = true) :
    p.ancestry.parentOfKey = ⟨p, if key = x then some before.length else none⟩ := by
  have isPair := Document.isPair_of_pair? ofPair
  have start : p.ancestry.index = some (before.length + 2) := by simp [ancestry, length, split]
  have atPair : p.ancestry.parent (some .pair) = ⟨p, some (before.length + 1)⟩ :=
    Ancestry.parent_pair split isPair start
  have atMapping : (⟨p, some (before.length + 1)⟩ : Ancestry).parent (some .mapping) = ⟨p, some before.length⟩ := by
    rw [Ancestry.parent_of_item split (Document.isPair_of_isMapping isMapping) rfl]
    simp [Expect.fits, isMapping]
  have pairHere : (⟨p, some (before.length + 1)⟩ : Ancestry).node? = some pair := by
    simp [Ancestry.node?, Ancestry.get?, split, Step.node?]
  have partHere : p.ancestry.get? = some (.node x) := by
    rw [Ancestry.get?, start]
    simp [ancestry, split]
  rw [Ancestry.parentOfKey, atPair]
  simp only [pairHere, partHere]
  by_cases same : key = x
  · simp [ancestry, ofPair, atMapping, same]
  · simp [ancestry, ofPair, same]

/-- The mapping of the key that a path ends at. -/
theorem parentOfKey_of_split (split : p.steps = before ++ [Step.node mapping, .node pair, .node key])
    (ofPair : p.doc.pair? pair = some (key, value)) (isMapping : p.doc.isMapping mapping = true) :
    p.ancestry.parentOfKey = ⟨p, some before.length⟩ := by
  rw [parentOfKey_of_pair split ofPair isMapping, if_pos rfl]

/-- Only from a key the walk finds the mapping of a key. -/
theorem atKey_of_parentOfKey {m : Nat} (reached : p.ancestry.parentOfKey.index = some m) : p.AtKey := by
  have parts : ∃ pair key value, (p.ancestry.parent (some .pair)).node? = some pair ∧
      p.ancestry.get? = some (.node key) ∧ p.doc.pair? pair = some (key, value) := by
    rw [Ancestry.parentOfKey] at reached
    cases above : (p.ancestry.parent (some .pair)).node? with
    | none => simp [above] at reached
    | some pair =>
        cases here : p.ancestry.get? with
        | none => simp [above, here] at reached
        | some step =>
            cases step with
            | empty => simp [above, here] at reached
            | node key =>
                by_cases isKey : (p.doc.pair? pair).map Prod.fst = some key
                · obtain ⟨⟨first, value⟩, ofPair, same⟩ := Option.map_eq_some_iff.1 isKey
                  cases same
                  exact ⟨pair, first, value, rfl, rfl, ofPair⟩
                · have start : p.ancestry.path = p := rfl
                  simp [above, here, start, isKey] at reached
  obtain ⟨pair, key, value, above, here, ofPair⟩ := parts
  rw [Ancestry.node?_eq_bind] at above
  obtain ⟨n, index, atPair⟩ := Option.bind_eq_some_iff.1 above
  obtain ⟨start, -⟩ := Ancestry.parent_pair_index index
  rw [Ancestry.get?, start] at here
  have atPair : p.steps[n]? = some (.node pair) := by
    obtain ⟨step, there, isNode⟩ := Option.bind_eq_some_iff.1 atPair
    cases step with
    | empty => cases isNode
    | node x =>
        cases isNode
        exact there
  have atKey : p.steps[n + 1]? = some (.node key) := here
  have size : p.steps.length = n + 2 := by
    by_cases empty : p.length = 0
    · simp [ancestry, empty] at start
    · simp only [ancestry, empty, if_false, Option.some.injEq] at start
      rw [length] at start empty
      omega
  obtain ⟨inside, ofStep⟩ := List.getElem?_eq_some_iff.1 atPair
  obtain ⟨inside', ofStep'⟩ := List.getElem?_eq_some_iff.1 atKey
  have split : p.steps = p.steps.take n ++ [Step.node pair, .node key] := by
    have parts := List.take_append_drop n p.steps
    rw [List.drop_eq_getElem_cons inside, List.drop_eq_getElem_cons inside', ofStep, ofStep',
      List.drop_eq_nil_of_le (Nat.le_of_eq size)] at parts
    exact parts.symm
  have same : p = ⟨p.doc, p.steps.take n ++ [Step.node pair, .node key]⟩ := by rw [← split]
  rw [same]
  exact .intro ofPair

end Path

end PlaybookServer
