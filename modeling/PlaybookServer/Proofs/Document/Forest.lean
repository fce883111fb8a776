/-
Module: PlaybookServer.Proofs.Document.Forest
Purpose: Trees that stand in an array in post-order. The roots of a row of trees are known once the part of the
  array is known that they fill: what stands before a root, back to the root before it, are its own children's
  trees. A node that stands in such a part has its children before it, is the child of one node at most, and is a
  pair exactly if it stands under a mapping.
Main exports: Forest, Forest.append, Forest.push, Forest.inner, Forest.count_children, Document.OneTree,
  Document.oneTree_of_forest
-/
import PlaybookServer.Document.Node

namespace PlaybookServer

/-- Whether a node is a pair. -/
def NodeKind.isPair : NodeKind → Bool
  | .pair _ _ => true
  | _ => false

/-- Whether a node is a mapping. -/
def NodeKind.isMapping : NodeKind → Bool
  | .mapping _ => true
  | _ => false

/-- The nodes from `a` up to `b` are trees in post-order with the given roots. Either all roots are pairs or none
    is; the children of a mapping are pairs, and no others. -/
inductive Forest (nodes : Array Node) : (pairs : Bool) → (a b : Nat) → (roots : List NodeId) → Prop where
  | nil (pairs : Bool) (a : Nat) : Forest nodes pairs a a []
  | tree {pairs : Bool} {a b c : Nat} {roots : List NodeId} {n : Node} (hbefore : Forest nodes pairs a b roots)
      (hbelow : Forest nodes n.kind.isMapping b c n.kind.children) (hnode : nodes[c]? = some n)
      (hroot : n.kind.isPair = pairs) : Forest nodes pairs a (c + 1) (roots ++ [c])

/-- The children of the node at an index. -/
def childrenAt (nodes : Array Node) (i : Nat) : List NodeId := (nodes[i]?.map fun n => n.kind.children).getD []

theorem childrenAt_of_getElem? {nodes : Array Node} {i : Nat} {n : Node} (h : nodes[i]? = some n) :
    childrenAt nodes i = n.kind.children := by
  rw [childrenAt, h]
  rfl

namespace Forest

variable {nodes : Array Node} {pairs : Bool} {a b c : Nat} {roots : List NodeId}

theorem le (h : Forest nodes pairs a b roots) : a ≤ b := by
  induction h with
  | nil pairs a => exact Nat.le_refl a
  | tree _ _ _ _ ihbefore ihbelow => omega

/-- Only the part of the array that the trees fill matters. -/
theorem congr {nodes' : Array Node} (h : Forest nodes pairs a b roots)
    (hsame : ∀ i, i < b → nodes'[i]? = nodes[i]?) : Forest nodes' pairs a b roots := by
  induction h with
  | nil pairs a => exact .nil pairs a
  | @tree pairs a b c roots n hbefore hbelow hnode hroot ihbefore ihbelow =>
      have hle := hbelow.le
      refine .tree (ihbefore fun i hi => hsame i (by omega)) (ihbelow fun i hi => hsame i (by omega)) ?_ hroot
      rw [hsame c (by omega), hnode]

/-- Trees followed by trees. -/
theorem append {roots' : List NodeId} (h : Forest nodes pairs a b roots) (h' : Forest nodes pairs b c roots') :
    Forest nodes pairs a c (roots ++ roots') := by
  induction h' with
  | nil pairs b => rwa [List.append_nil]
  | tree _ hbelow hnode hroot ihbefore _ =>
      rw [← List.append_assoc]
      exact .tree (ihbefore h) hbelow hnode hroot

/-- A node that is added over all roots is the one root left. -/
theorem push {kind : NodeKind} (h : Forest nodes kind.isMapping a nodes.size kind.children) (span : Text.Span) :
    Forest (nodes.push ⟨kind, span⟩) kind.isPair a (nodes.size + 1) [nodes.size] := by
  have hkept : ∀ i, i < nodes.size → (nodes.push ⟨kind, span⟩)[i]? = nodes[i]? := by
    intro i hi
    rw [Array.getElem?_push, if_neg (by omega)]
  exact .tree (.nil _ a) (h.congr hkept) (by rw [Array.getElem?_push, if_pos rfl]) rfl

/-- The roots stand in the part that the trees fill, and are all pairs or all not. -/
theorem root (h : Forest nodes pairs a b roots) : ∀ r : Nat, r ∈ roots →
    a ≤ r ∧ r < b ∧ ∃ n, nodes[r]? = some n ∧ n.kind.isPair = pairs := by
  induction h with
  | nil pairs a => exact List.forall_mem_nil _
  | @tree pairs a b c roots n hbefore hbelow hnode hroot ihbefore _ =>
      have hbefore_le := hbefore.le
      have hbelow_le := hbelow.le
      intro r hr
      rcases List.mem_append.1 hr with hr | hr
      · obtain ⟨hfrom, hto, hkind⟩ := ihbefore r hr
        exact ⟨hfrom, by omega, hkind⟩
      · obtain rfl := List.mem_singleton.1 hr
        exact ⟨by omega, by omega, n, hnode, hroot⟩

/-- The last root stands at the end. -/
theorem getLast?_roots (h : Forest nodes pairs a b roots) :
    roots.getLast? = if a < b then some (b - 1) else none := by
  cases h with
  | nil pairs a => rw [if_neg (Nat.lt_irrefl a), List.getLast?_nil]
  | @tree _ _ b c _ _ hbefore hbelow _ _ =>
      have hbefore_le := hbefore.le
      have hbelow_le := hbelow.le
      rw [if_pos (by omega), List.getLast?_concat, Nat.add_sub_cancel]

/-- Without roots there are no trees, of either kind. -/
theorem of_no_roots (h : Forest nodes pairs a b []) (pairs' : Bool) : Forest nodes pairs' a b [] := by
  have hlast := h.getLast?_roots
  split at hlast
  next => cases hlast
  next hempty =>
      obtain rfl : a = b := Nat.le_antisymm h.le (Nat.le_of_not_lt hempty)
      exact .nil pairs' a

/-- Below every node stand the trees of its children. -/
theorem inner (h : Forest nodes pairs a b roots) : ∀ i, a ≤ i → i < b →
    ∃ n start, nodes[i]? = some n ∧ a ≤ start ∧ Forest nodes n.kind.isMapping start i n.kind.children := by
  induction h with
  | nil pairs a => intros; omega
  | @tree pairs a b c roots n hbefore hbelow hnode hroot ihbefore ihbelow =>
      have hbefore_le := hbefore.le
      intro i hfrom hto
      rcases Nat.lt_trichotomy i c with hlt | rfl | hgt
      · rcases Nat.lt_or_ge i b with hin | hin
        · exact ihbefore i hfrom hin
        · obtain ⟨m, start, hm, hstart, hforest⟩ := ihbelow i hin hlt
          exact ⟨m, start, hm, by omega, hforest⟩
      · exact ⟨n, b, hnode, hbefore_le, hbelow⟩
      · omega

/-! ### Every node is the child of one node, or a root -/

/-- The children of all nodes of a part of the array. -/
def children (nodes : Array Node) (a b : Nat) : List NodeId := (List.range' a (b - a)).flatMap (childrenAt nodes)

theorem range'_split (hab : a ≤ b) (hbc : b ≤ c) :
    List.range' a (b - a) ++ List.range' b (c - b) = List.range' a (c - a) := by
  have happend := List.range'_append_1 (s := a) (m := b - a) (n := c - b)
  rwa [show a + (b - a) = b by omega, show b - a + (c - b) = c - a by omega] at happend

theorem children_append (hab : a ≤ b) (hbc : b ≤ c) :
    children nodes a c = children nodes a b ++ children nodes b c := by
  rw [children, ← range'_split hab hbc, List.flatMap_append]
  rfl

theorem children_succ : children nodes c (c + 1) = childrenAt nodes c := by
  rw [children, Nat.add_sub_cancel_left]
  exact List.append_nil _

/-- Among the children of the nodes of a part and its roots, every node of the part occurs once, and no other. -/
theorem count_children (h : Forest nodes pairs a b roots) (id : Nat) :
    (children nodes a b).count id + roots.count id = if a ≤ id ∧ id < b then 1 else 0 := by
  induction h with
  | nil pairs a =>
      rw [children, Nat.sub_self, if_neg (by omega)]
      rfl
  | @tree pairs a b c roots n hbefore hbelow hnode hroot ihbefore ihbelow =>
      have hbefore_le := hbefore.le
      have hbelow_le := hbelow.le
      have hchildren : children nodes a (c + 1) =
          children nodes a b ++ (children nodes b c ++ n.kind.children) := by
        rw [children_append hbefore_le (by omega), children_append hbelow_le (by omega), children_succ,
          childrenAt_of_getElem? hnode]
      have hlast : [c].count id = if c = id then 1 else 0 := by
        simp only [List.count_singleton, beq_iff_eq]
      rw [hchildren, List.count_append, List.count_append, List.count_append, hlast]
      split at ihbefore <;> split at ihbelow <;> split <;> split <;> omega

/-! ### Going through the trees -/

/-- The nodes below a node and the node itself, in post-order. The fuel bounds the depth. -/
def postOrder (nodes : Array Node) : Nat → NodeId → List NodeId
  | 0, _ => []
  | fuel + 1, id => (childrenAt nodes id).flatMap (postOrder nodes fuel) ++ [id]

/-- Going through the trees of a part in post-order is going through the part from its start to its end. -/
theorem flatMap_postOrder (h : Forest nodes pairs a b roots) (fuel : Nat) (hfuel : b ≤ fuel) :
    roots.flatMap (postOrder nodes fuel) = List.range' a (b - a) := by
  induction h generalizing fuel with
  | nil pairs a => rw [Nat.sub_self]; rfl
  | @tree pairs a b c roots n hbefore hbelow hnode hroot ihbefore ihbelow =>
      have hbefore_le := hbefore.le
      have hbelow_le := hbelow.le
      obtain ⟨fuel, rfl⟩ : ∃ k, fuel = k + 1 := ⟨fuel - 1, by omega⟩
      have hroot_order : postOrder nodes (fuel + 1) c = List.range' b (c - b) ++ [c] := by
        rw [postOrder, childrenAt_of_getElem? hnode, ihbelow fuel (by omega)]
      have hlast : List.range' c (c + 1 - c) = [c] := by
        rw [Nat.add_sub_cancel_left]
        rfl
      rw [List.flatMap_append, ihbefore (fuel + 1) (by omega), List.flatMap_singleton, hroot_order, ← hlast,
        range'_split hbelow_le (by omega), range'_split hbefore_le (by omega)]

end Forest

/-! ### Documents -/

namespace Document

theorem isPair_eq (d : Document) (id : NodeId) : d.isPair id = (d.kind id).isPair := by
  rw [isPair]
  cases d.kind id <;> rfl

theorem isMapping_eq (d : Document) (id : NodeId) : d.isMapping id = (d.kind id).isMapping := by
  rw [isMapping]
  cases d.kind id <;> rfl

theorem kind_of_getElem? {d : Document} {id : Nat} {n : Node} (h : d.nodes[id]? = some n) : d.kind id = n.kind := by
  rw [kind, node, Array.getD_eq_getD_getElem?, h]
  rfl

theorem children_kind (d : Document) (id : Nat) : (d.kind id).children = childrenAt d.nodes id := by
  rw [kind, node, Array.getD_eq_getD_getElem?, childrenAt]
  cases d.nodes[id]? <;> rfl

/-- The nodes of a document are one tree in post-order. -/
structure OneTree (d : Document) : Prop where
  /-- There are no nodes exactly if there is no root. -/
  empty_iff : d.nodes = #[] ↔ d.root = none
  /-- The root is the last node. -/
  root_last : ∀ root : Nat, d.root = some root → root + 1 = d.nodes.size
  /-- Children come before their parent. -/
  child_lt : ∀ id : Nat, id < d.nodes.size → ∀ c ∈ (d.kind id).children, c < id
  /-- Among the children of all nodes every node but the root occurs once, and the root does not. -/
  one_parent : ∀ id : Nat, id < d.nodes.size →
    ((List.range d.nodes.size).flatMap fun parent => (d.kind parent).children).count id =
      if d.root = some id then 0 else 1
  /-- The children of a mapping are pairs, and those of other nodes are not. -/
  pair_iff_under_mapping : ∀ id : Nat, id < d.nodes.size →
    ∀ c ∈ (d.kind id).children, d.isPair c = d.isMapping id
  /-- The root is no pair. -/
  root_not_pair : ∀ root, d.root = some root → d.isPair root = false
  /-- Going through the tree below the root in post-order is going through the nodes as they stand. -/
  in_order : d.root.toList.flatMap (Forest.postOrder d.nodes d.nodes.size) = List.range d.nodes.size

/-- Nodes that are a tree with the root of the document, or none without a root. -/
theorem oneTree_of_forest {d : Document} (h : Forest d.nodes false 0 d.nodes.size d.root.toList) : d.OneTree where
  empty_iff := by
    have hlast := h.getLast?_roots
    rw [← Array.size_eq_zero_iff]
    cases hroot : d.root with
    | none =>
        rw [hroot] at hlast
        split at hlast
        next => cases hlast
        next hsize => exact ⟨fun _ => rfl, fun _ => by omega⟩
    | some root =>
        rw [hroot] at hlast
        split at hlast
        next hsize => exact ⟨fun hempty => by omega, nofun⟩
        next => cases hlast
  root_last := by
    intro root hroot
    have hlast := h.getLast?_roots
    rw [hroot] at hlast
    split at hlast
    next hsize =>
        obtain rfl : root = d.nodes.size - 1 := Option.some.inj hlast
        omega
    next => cases hlast
  child_lt := by
    intro id hid c hc
    obtain ⟨n, start, hn, -, hforest⟩ := h.inner id (Nat.zero_le id) hid
    rw [kind_of_getElem? hn] at hc
    exact (hforest.root c hc).2.1
  one_parent := by
    intro id hid
    have hcount := h.count_children id
    have hroots : d.root.toList.count id = if d.root = some id then 1 else 0 := by
      cases d.root with
      | none => rfl
      | some root => simp only [Option.toList_some, List.count_singleton, beq_iff_eq, Option.some.injEq]
    rw [if_pos ⟨Nat.zero_le id, hid⟩, hroots, Forest.children, Nat.sub_zero, ← List.range_eq_range'] at hcount
    rw [show (fun parent => (d.kind parent).children) = childrenAt d.nodes from funext d.children_kind]
    by_cases hroot : d.root = some id
    · rw [if_pos hroot] at hcount ⊢
      omega
    · rw [if_neg hroot] at hcount ⊢
      omega
  pair_iff_under_mapping := by
    intro id hid c hc
    obtain ⟨n, start, hn, -, hforest⟩ := h.inner id (Nat.zero_le id) hid
    rw [kind_of_getElem? hn] at hc
    obtain ⟨-, -, m, hm, hpair⟩ := hforest.root c hc
    rw [isPair_eq, isMapping_eq, kind_of_getElem? hn, kind_of_getElem? hm, hpair]
  root_not_pair := by
    intro root hroot
    obtain ⟨-, -, n, hn, hpair⟩ := h.root root (by rw [hroot]; exact List.mem_singleton_self root)
    rw [isPair_eq, kind_of_getElem? hn, hpair]
  in_order := by
    rw [h.flatMap_postOrder d.nodes.size (Nat.le_refl _), Nat.sub_zero, List.range_eq_range']

end Document

end PlaybookServer
