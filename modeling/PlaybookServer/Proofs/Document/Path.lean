/-
Module: PlaybookServer.Proofs.Document.Path
Purpose: The path to an offset. It exists exactly if the root of some document covers the offset, and then it starts
  at the root of the first such document, goes from each node to one directly below it, and ends in a node without
  children or in an empty slot; pairs apart, all its nodes cover the offset. Where spans nest as their nodes do and
  siblings stand one after the other, the path to an offset inside a scalar, a reference or an empty entry ends
  there: no neighbour that touches the offset is taken for it.
Main exports: Document.Below, Document.Leads, Path.Leads, Document.Nested, Stream.Nested,
  path_leads_to_offset
-/
import Mathlib.Data.List.Pairwise
import Mathlib.Logic.Relation
import PlaybookServer.Proofs.Document.Reading

namespace PlaybookServer

open Text (Span)

/-- Whether a node is a scalar, a reference or an empty entry. -/
def NodeKind.isLeaf : NodeKind → Bool
  | .scalar _ _ | .reference _ | .null => true
  | _ => false

/-! ### Paths down a document -/

namespace Document

/-- One node stands directly below another. -/
inductive Below (d : Document) : NodeId → NodeId → Prop where
  | pair {m p : NodeId} {pairs : List NodeId} (hm : d.kind m = .mapping pairs) (hp : p ∈ pairs)
      (hpair : d.isPair p = true) : Below d m p
  | key {p k : NodeId} {v : Option NodeId} (hp : d.kind p = .pair k v) : Below d p k
  | value {p k v : NodeId} (hp : d.kind p = .pair k (some v)) : Below d p v
  | item {s x : NodeId} {items : List NodeId} (hs : d.kind s = .sequence items) (hx : x ∈ items) : Below d s x

/-- Steps that lead down to an offset. -/
structure Leads (d : Document) (offset : Nat) (inclusive : Bool) (steps : List Step) : Prop where
  /-- Each node stands directly below the one before it. -/
  linked : ∀ i a b, steps[i]? = some (.node a) → steps[i + 1]? = some (.node b) → d.Below a b
  /-- Only the last step can be the empty slot. -/
  empty_last : ∀ i, steps[i]? = some .empty → i + 1 = steps.length
  covered : ∀ id, .node id ∈ steps → d.isPair id = false → (d.spanOf id).contains offset inclusive = true
  ends_in_leaf : ∀ id, steps.getLast? = some (.node id) → (d.kind id).isLeaf = true

namespace Leads

variable {d : Document} {offset : Nat} {inclusive : Bool} {id : NodeId}

/-- The empty slot, where nothing covers the offset. -/
theorem slot : d.Leads offset inclusive [.empty] where
  linked i a b hi _ := by cases i <;> simp at hi
  empty_last i hi := by cases i <;> simp at hi ⊢
  covered id hid _ := by simp at hid
  ends_in_leaf id hid := by simp at hid

theorem leaf (hleaf : (d.kind id).isLeaf = true) (hcovers : (d.spanOf id).contains offset inclusive = true) :
    d.Leads offset inclusive [.node id] where
  linked i a b _ hi := by simp at hi
  empty_last i hi := by cases i <;> simp at hi
  covered id' hid' _ := by
    obtain rfl : id' = id := by simpa using hid'
    exact hcovers
  ends_in_leaf id' hid' := by
    obtain rfl : id = id' := by simpa using hid'
    exact hleaf

/-- A node before steps that go on below it. -/
theorem cons {step : Step} {rest : List Step} (h : d.Leads offset inclusive (step :: rest))
    (hbelow : ∀ b, step = .node b → d.Below id b)
    (hcovers : d.isPair id = false → (d.spanOf id).contains offset inclusive = true) :
    d.Leads offset inclusive (.node id :: step :: rest) where
  linked i a b ha hb := by
    cases i with
    | zero =>
        obtain rfl : id = a := by simpa using ha
        exact hbelow b (by simpa using hb)
    | succ i => exact h.linked i a b (by simpa using ha) (by simpa using hb)
  empty_last i hi := by
    cases i with
    | zero => simp at hi
    | succ i => exact congrArg (· + 1) (h.empty_last i (by simpa using hi))
  covered id' hid' hnot := by
    rcases List.mem_cons.1 hid' with heq | hmem
    · cases heq
      exact hcovers hnot
    · exact h.covered id' hmem hnot
  ends_in_leaf id' hid' := h.ends_in_leaf id' (by rwa [List.getLast?_cons_cons] at hid')

end Leads

/-! ### One turn on the way down -/

/-- The keys and values of a mapping in document order, or the items of a sequence. -/
def parts (d : Document) (id : NodeId) : List NodeId :=
  match d.kind id with
  | .mapping pairs => pairs.flatMap fun p => (d.kind p).children
  | .sequence items => items
  | _ => []

/-- Where the way down goes on from a node that covers the offset. -/
inductive Turns (d : Document) (offset : Nat) (inclusive : Bool) (fuel : Nat) (id : NodeId) : List Step → Prop where
  | entry {pairs : List NodeId} {p x : NodeId} (hkind : d.kind id = .mapping pairs) (hp : p ∈ pairs)
      (hx : x ∈ (d.kind p).children) (hcovers : (d.spanOf x).contains offset inclusive = true) :
      Turns d offset inclusive fuel id (.node p :: .node x :: descend d offset inclusive fuel x)
  | item {items : List NodeId} {x : NodeId} (hkind : d.kind id = .sequence items) (hx : x ∈ items)
      (hcovers : (d.spanOf x).contains offset inclusive = true) :
      Turns d offset inclusive fuel id (.node x :: descend d offset inclusive fuel x)
  | gap {pairs : List NodeId} {p : NodeId} (hkind : d.kind id = .mapping pairs) (hp : p ∈ pairs)
      (hnone : ∀ x ∈ d.parts id, (d.spanOf x).contains offset inclusive = false) :
      Turns d offset inclusive fuel id [.node p, .empty]
  | nowhere (hinner : (d.kind id).isLeaf = false)
      (hnone : ∀ x ∈ d.parts id, (d.spanOf x).contains offset inclusive = false) :
      Turns d offset inclusive fuel id [.empty]
  | here (hleaf : (d.kind id).isLeaf = true) : Turns d offset inclusive fuel id []

section Turns

variable {d : Document} {offset : Nat} {inclusive : Bool} {pairs : List NodeId} {id p k v : NodeId}

theorem isPair_of_kind {w : Option NodeId} (h : d.kind p = .pair k w) : d.isPair p = true := by
  rw [isPair, h]

theorem kind_of_isPair (h : d.isPair p = true) : ∃ k w, d.kind p = .pair k w := by
  rw [isPair] at h
  cases hkind : d.kind p with
  | pair k w => exact ⟨k, w, rfl⟩
  | _ =>
      rw [hkind] at h
      cases h

theorem pair?_of_kind {w : Option NodeId} (h : d.kind p = .pair k w) : d.pair? p = some (k, w) := by
  rw [pair?, h]

theorem covers_of_keyUnder? (h : keyUnder? d offset inclusive pairs = some (p, k)) :
    (d.spanOf k).contains offset inclusive = true := by
  obtain ⟨q, -, hsome⟩ := List.exists_of_findSome?_eq_some h
  obtain ⟨⟨k', w⟩, -, hcovers⟩ := Option.bind_eq_some_iff.1 hsome
  dsimp only at hcovers
  split at hcovers
  next hk =>
      cases hcovers
      exact hk
  next => cases hcovers

theorem covers_of_valueUnder? (h : valueUnder? d offset inclusive pairs = some (p, v)) :
    (d.spanOf v).contains offset inclusive = true := by
  obtain ⟨q, -, hsome⟩ := List.exists_of_findSome?_eq_some h
  split at hsome
  next =>
      split at hsome
      next hv =>
          cases hsome
          exact hv
      next => cases hsome
  next => cases hsome

/-- Where neither a key nor a value is found, none covers the offset. -/
theorem not_covers_of_not_under (hpairs : ∀ p ∈ pairs, d.isPair p = true) (hkind : d.kind id = .mapping pairs)
    (hkey : keyUnder? d offset inclusive pairs = none) (hvalue : valueUnder? d offset inclusive pairs = none) :
    ∀ x ∈ d.parts id, (d.spanOf x).contains offset inclusive = false := by
  intro x hx
  rw [parts, hkind] at hx
  obtain ⟨p, hp, hx⟩ := List.mem_flatMap.1 hx
  obtain ⟨k, w, hp_kind⟩ := kind_of_isPair (hpairs p hp)
  have hnone_key := List.findSome?_eq_none_iff.1 hkey p hp
  have hnone_value := List.findSome?_eq_none_iff.1 hvalue p hp
  rw [pair?_of_kind hp_kind] at hnone_key hnone_value
  rw [hp_kind] at hx
  by_contra hcovers
  rcases List.mem_cons.1 hx with rfl | hx
  · simp [hcovers] at hnone_key
  · obtain rfl : w = some x := by simpa using hx
    simp [hcovers] at hnone_value

/-- The way down takes one of the turns. -/
theorem turns_descend (hpairs : ∀ p ∈ d.pairs id, d.isPair p = true) (hnot : d.isPair id = false)
    (hcovers : (d.spanOf id).contains offset inclusive = true) (fuel : Nat) :
    d.Turns offset inclusive fuel id (descend d offset inclusive (fuel + 1) id) := by
  rw [descend]
  cases hkind : d.kind id with
  | mapping pairs =>
      rw [Document.pairs, hkind] at hpairs
      dsimp only at hpairs ⊢
      cases hkey : keyUnder? d offset inclusive pairs with
      | some found =>
          obtain ⟨hp, w, hpair⟩ := OneTree.pair_of_keyUnder? offset inclusive hkey
          refine .entry hkind hp ?_ (covers_of_keyUnder? hkey)
          rw [children_of_pair? hpair]
          exact List.mem_cons_self
      | none =>
          cases hvalue : valueUnder? d offset inclusive pairs with
          | some found =>
              obtain ⟨hp, k, hpair⟩ := OneTree.pair_of_valueUnder? offset inclusive hvalue
              refine .entry hkind hp ?_ (covers_of_valueUnder? hvalue)
              rw [children_of_pair? hpair]
              exact List.mem_cons_of_mem k (List.mem_singleton_self _)
          | none =>
              have hnone := not_covers_of_not_under hpairs hkind hkey hvalue
              cases hgap : gapUnder? d offset inclusive pairs with
              | some p => exact .gap hkind (List.mem_of_find?_eq_some hgap) hnone
              | none => exact .nowhere (by rw [hkind]; rfl) hnone
  | sequence items =>
      dsimp only
      cases hitem : items.find? fun x => (d.spanOf x).contains offset inclusive with
      | some x =>
          have hx_covers := List.find?_some hitem
          exact .item hkind (List.mem_of_find?_eq_some hitem) hx_covers
      | none =>
          refine .nowhere (by rw [hkind]; rfl) fun x hx => ?_
          rw [parts, hkind] at hx
          exact Bool.eq_false_iff.2 (List.find?_eq_none.1 hitem x hx)
  | pair k w => exact absurd (isPair_of_kind hkind) (by simp [hnot])
  | scalar _ _ | reference _ | null =>
      dsimp only
      rw [if_pos hcovers]
      exact .here (by rw [hkind]; rfl)

end Turns

/-! ### The way down -/

section Descent

variable {d : Document} {offset : Nat} {inclusive : Bool}

namespace OneTree

variable (h : d.OneTree)

include h

theorem isPair_of_mem_pairs {id p : NodeId} (hid : id < d.nodes.size) (hp : p ∈ d.pairs id) : d.isPair p = true := by
  have hmapping : d.isMapping id = true := by
    rw [isMapping]
    rw [pairs] at hp
    split at hp
    next => rfl
    next => exact absurd hp List.not_mem_nil
  rw [h.pair_iff_under_mapping id hid p (mem_children_of_mem_pairs hp), hmapping]

/-- What the way down goes on to under a mapping: a key or value of one of its pairs. -/
theorem entry_below {id p x : Nat} {pairs : List NodeId} (hid : id < d.nodes.size)
    (hkind : d.kind id = .mapping pairs) (hp : p ∈ pairs) (hx : x ∈ (d.kind p).children) :
    d.isPair p = true ∧ d.Below id p ∧ d.Below p x ∧ x < id ∧ d.isPair x = false := by
  have hpair : d.isPair p = true := h.isPair_of_mem_pairs hid (by rw [Document.pairs, hkind]; exact hp)
  have hp_lt : p < id := h.child_lt id hid p (by rwa [hkind])
  have hp_in : p < d.nodes.size := Nat.lt_trans hp_lt hid
  obtain ⟨k, w, hp_kind⟩ := kind_of_isPair hpair
  refine ⟨hpair, .pair hkind hp hpair, ?_, Nat.lt_trans (h.child_lt p hp_in x hx) hp_lt, ?_⟩
  · rw [hp_kind] at hx
    rcases List.mem_cons.1 hx with rfl | hx
    · exact .key hp_kind
    · obtain rfl : w = some x := by simpa using hx
      exact .value hp_kind
  · rw [h.pair_iff_under_mapping p hp_in x hx, isMapping, hp_kind]

theorem item_below {id x : Nat} {items : List NodeId} (hid : id < d.nodes.size)
    (hkind : d.kind id = .sequence items) (hx : x ∈ items) : x < id ∧ d.isPair x = false := by
  have hchild : x ∈ (d.kind id).children := by rwa [hkind]
  refine ⟨h.child_lt id hid x hchild, ?_⟩
  rw [h.pair_iff_under_mapping id hid x hchild, isMapping, hkind]

/-- Down from a node that covers the offset, steps lead to the offset. The way goes to nodes of smaller index, so
    the index bounds the fuel. -/
theorem leads_descend (id : Nat) (hid : id < d.nodes.size) (hnot : d.isPair id = false)
    (hcovers : (d.spanOf id).contains offset inclusive = true) (fuel : Nat) (hfuel : id < fuel) :
    d.Leads offset inclusive (.node id :: descend d offset inclusive fuel id) := by
  induction id using Nat.strongRecOn generalizing fuel with
  | ind id ih =>
      obtain ⟨fuel, rfl⟩ : ∃ n, fuel = n + 1 := ⟨fuel - 1, by omega⟩
      have hturn := turns_descend (fun _ => h.isPair_of_mem_pairs hid) hnot hcovers fuel
      generalize descend d offset inclusive (fuel + 1) id = steps at hturn ⊢
      cases hturn with
      | @entry pairs p x hkind hp hx hx_covers =>
          obtain ⟨hpair, hbelow_p, hbelow_x, hlt, hx_not⟩ := h.entry_below hid hkind hp hx
          have hrest := ih x hlt (Nat.lt_trans hlt hid) hx_not hx_covers fuel (by omega)
          have hpair_leads : d.Leads offset inclusive (.node p :: .node x :: descend d offset inclusive fuel x) :=
            hrest.cons (by rintro _ ⟨⟩; exact hbelow_x) (by simp [hpair])
          exact hpair_leads.cons (by rintro _ ⟨⟩; exact hbelow_p) fun _ => hcovers
      | @item items x hkind hx hx_covers =>
          obtain ⟨hlt, hx_not⟩ := h.item_below hid hkind hx
          have hrest := ih x hlt (Nat.lt_trans hlt hid) hx_not hx_covers fuel (by omega)
          exact hrest.cons (by rintro _ ⟨⟩; exact .item hkind hx) fun _ => hcovers
      | @gap pairs p hkind hp _ =>
          have hpair : d.isPair p = true := h.isPair_of_mem_pairs hid (by rw [Document.pairs, hkind]; exact hp)
          have hpair_leads : d.Leads offset inclusive [.node p, .empty] :=
            Leads.slot.cons (by rintro _ ⟨⟩) (by simp [hpair])
          exact hpair_leads.cons (by rintro _ ⟨⟩; exact .pair hkind hp hpair) fun _ => hcovers
      | nowhere => exact Leads.slot.cons (by rintro _ ⟨⟩) fun _ => hcovers
      | here hleaf => exact .leaf hleaf hcovers

end OneTree

end Descent

/-! ### Spans that nest -/

/-- Nodes nest as their spans do, and siblings stand one after the other: each ends no later than the next, and so
    any later one, starts. -/
structure Nested (d : Document) : Prop where
  within : ∀ id : Nat, id < d.nodes.size → ∀ c ∈ (d.kind id).children,
    (d.spanOf id).start ≤ (d.spanOf c).start ∧ (d.spanOf c).stop ≤ (d.spanOf id).stop
  in_order : ∀ id : Nat, id < d.nodes.size →
    (d.parts id).Pairwise fun a b => (d.spanOf a).stop ≤ (d.spanOf b).start

/-- A node stands somewhere under another, or is that node. -/
abbrev Under (d : Document) : NodeId → NodeId → Prop :=
  Relation.ReflTransGen fun a c => c ∈ (d.kind a).children

end Document

namespace Text.Span

variable {a b : Span} {offset : Nat} {inclusive : Bool}

/-- Spans of which one covers an offset inside the other do not stand one after the other. -/
theorem not_apart_of_covers (hcovers : a.contains offset inclusive = true) (hin : b.start < offset ∧ offset < b.stop) :
    ¬ a.stop ≤ b.start ∧ ¬ b.stop ≤ a.start := by
  simp only [contains, Bool.and_eq_true, Bool.or_eq_true, decide_eq_true_eq] at hcovers
  omega

theorem covers_of_inside (hin : a.start < offset ∧ offset < a.stop) : a.contains offset inclusive = true := by
  simp only [contains, Bool.and_eq_true, Bool.or_eq_true, decide_eq_true_eq]
  omega

end Text.Span

/-- In a list in order, two members that are in order neither way are one. -/
theorem eq_of_pairwise {α : Type} {R : α → α → Prop} {xs : List α} {x y : α} (horder : xs.Pairwise R) (hx : x ∈ xs)
    (hy : y ∈ xs) (hneither : ¬ R x y ∧ ¬ R y x) : x = y := by
  by_contra hne
  have hsymm : Std.Symm fun a b => R a b ∨ R b a := ⟨fun _ _ => Or.symm⟩
  have heither : xs.Pairwise fun a b => R a b ∨ R b a := horder.imp Or.inl
  rcases heither.forall hx hy hne with hxy | hyx
  · exact hneither.1 hxy
  · exact hneither.2 hyx

namespace Document

section Inside

variable {d : Document} {offset : Nat} {inclusive : Bool}

theorem under_of_mem_postOrder {fuel : Nat} {a id : NodeId} (h : id ∈ Forest.postOrder d.nodes fuel a) :
    d.Under a id := by
  induction fuel generalizing a with
  | zero => exact absurd h List.not_mem_nil
  | succ fuel ih =>
      rw [Forest.postOrder] at h
      rcases List.mem_append.1 h with hbelow | hself
      · obtain ⟨c, hc, hid⟩ := List.mem_flatMap.1 hbelow
        rw [← children_kind] at hc
        exact .head hc (ih hid)
      · obtain rfl := List.mem_singleton.1 hself
        exact .refl

namespace OneTree

variable (h : d.OneTree)

include h

/-- Every node stands under the root. -/
theorem under_root {root : NodeId} (hroot : d.root = some root) {id : Nat} (hid : id < d.nodes.size) :
    d.Under root id := by
  have hvisited : id ∈ d.root.toList.flatMap (Forest.postOrder d.nodes d.nodes.size) := by
    rw [h.in_order]
    exact List.mem_range.2 hid
  rw [hroot] at hvisited
  obtain ⟨a, ha, hid⟩ := List.mem_flatMap.1 hvisited
  obtain rfl := List.mem_singleton.1 ha
  exact under_of_mem_postOrder hid

/-- What is inside a node is inside every node above it. -/
theorem inside_of_under (hnested : d.Nested) {a id : NodeId} (hunder : d.Under a id) (ha : a < d.nodes.size)
    (hin : (d.spanOf id).start < offset ∧ offset < (d.spanOf id).stop) :
    (d.spanOf a).start < offset ∧ offset < (d.spanOf a).stop := by
  induction hunder using Relation.ReflTransGen.head_induction_on with
  | refl => exact hin
  | @head a c hc _ ih =>
      have hin_c := ih (h.child_in_range ha hc)
      have hwithin := hnested.within a ha c hc
      omega

/-- Above a leaf, but not the leaf: one of the parts of the node stands above the leaf. -/
theorem exists_part_above {leaf id : NodeId} (hleaf : (d.kind leaf).isLeaf = true) (hid : id < d.nodes.size)
    (hnot : d.isPair id = false) (hinner : (d.kind id).isLeaf = false) (hunder : d.Under id leaf) :
    ∃ e ∈ d.parts id, d.Under e leaf := by
  rcases hunder.cases_head with rfl | ⟨c, hc, hunder_c⟩
  · rw [hleaf] at hinner
    cases hinner
  cases hkind : d.kind id with
  | mapping pairs =>
      rw [hkind] at hc
      have hpair : d.isPair c = true := h.isPair_of_mem_pairs hid (by rw [Document.pairs, hkind]; exact hc)
      obtain ⟨k, w, hc_kind⟩ := kind_of_isPair hpair
      rcases hunder_c.cases_head with rfl | ⟨e, he, hunder_e⟩
      · simp [hc_kind, NodeKind.isLeaf] at hleaf
      · refine ⟨e, ?_, hunder_e⟩
        rw [parts, hkind]
        exact List.mem_flatMap.2 ⟨c, hc, he⟩
  | sequence items =>
      rw [hkind] at hc
      exact ⟨c, by rw [parts, hkind]; exact hc, hunder_c⟩
  | pair k w => exact absurd (isPair_of_kind hkind) (by simp [hnot])
  | scalar _ _ | reference _ | null => simp [hkind, NodeKind.isLeaf] at hinner

theorem part_in_range {id x : NodeId} (hid : id < d.nodes.size) (hx : x ∈ d.parts id) : x < d.nodes.size := by
  rw [parts] at hx
  split at hx
  next pairs hkind =>
      obtain ⟨p, hp, hx⟩ := List.mem_flatMap.1 hx
      exact h.child_in_range (h.child_in_range hid (by rwa [hkind])) hx
  next items hkind => exact h.child_in_range hid (by rwa [hkind])
  next => exact absurd hx List.not_mem_nil

/-- From every node above a leaf the way down to an offset inside the leaf ends there. -/
theorem descend_ends_at (hnested : d.Nested) {leaf : NodeId} (hleaf : (d.kind leaf).isLeaf = true)
    (hin : (d.spanOf leaf).start < offset ∧ offset < (d.spanOf leaf).stop) (id : Nat) (hid : id < d.nodes.size)
    (hnot : d.isPair id = false) (hunder : d.Under id leaf) (fuel : Nat) (hfuel : id < fuel) :
    (Step.node id :: descend d offset inclusive fuel id).getLast? = some (.node leaf) := by
  induction id using Nat.strongRecOn generalizing fuel with
  | ind id ih =>
      obtain ⟨fuel, rfl⟩ : ∃ n, fuel = n + 1 := ⟨fuel - 1, by omega⟩
      have hcovers : (d.spanOf id).contains offset inclusive = true :=
        Text.Span.covers_of_inside (h.inside_of_under hnested hunder hid hin)
      -- The part that covers the offset is the one above the leaf, and there is such a part.
      have hpart (hinner : (d.kind id).isLeaf = false) : ∃ e ∈ d.parts id, d.Under e leaf ∧
          (d.spanOf e).contains offset inclusive = true ∧
          ∀ x ∈ d.parts id, (d.spanOf x).contains offset inclusive = true → x = e := by
        obtain ⟨e, he, hunder_e⟩ := h.exists_part_above hleaf hid hnot hinner hunder
        have hin_e := h.inside_of_under hnested hunder_e (h.part_in_range hid he) hin
        refine ⟨e, he, hunder_e, Text.Span.covers_of_inside hin_e, fun x hx hx_covers => ?_⟩
        exact eq_of_pairwise (hnested.in_order id hid) hx he (Text.Span.not_apart_of_covers hx_covers hin_e)
      have hturn := turns_descend (fun _ => h.isPair_of_mem_pairs hid) hnot hcovers fuel
      generalize descend d offset inclusive (fuel + 1) id = steps at hturn ⊢
      cases hturn with
      | @entry pairs p x hkind hp hx hx_covers =>
          obtain ⟨-, -, -, hlt, hx_not⟩ := h.entry_below hid hkind hp hx
          obtain ⟨e, -, hunder_e, -, honly⟩ := hpart (by rw [hkind]; rfl)
          have hx_part : x ∈ d.parts id := by
            rw [parts, hkind]
            exact List.mem_flatMap.2 ⟨p, hp, hx⟩
          obtain rfl := honly x hx_part hx_covers
          rw [List.getLast?_cons_cons, List.getLast?_cons_cons]
          exact ih x hlt (Nat.lt_trans hlt hid) hx_not hunder_e fuel (by omega)
      | @item items x hkind hx hx_covers =>
          obtain ⟨hlt, hx_not⟩ := h.item_below hid hkind hx
          obtain ⟨e, -, hunder_e, -, honly⟩ := hpart (by rw [hkind]; rfl)
          obtain rfl := honly x (by rw [parts, hkind]; exact hx) hx_covers
          rw [List.getLast?_cons_cons]
          exact ih x hlt (Nat.lt_trans hlt hid) hx_not hunder_e fuel (by omega)
      | gap hkind hp hnone =>
          obtain ⟨e, he, -, he_covers, -⟩ := hpart (by rw [hkind]; rfl)
          simp [hnone e he] at he_covers
      | nowhere hinner hnone =>
          obtain ⟨e, he, -, he_covers, -⟩ := hpart hinner
          simp [hnone e he] at he_covers
      | here hleaf_id =>
          -- A leaf has nothing below it, so it is the one looked for.
          rcases hunder.cases_head with rfl | ⟨c, hc, -⟩
          · rfl
          · cases hkind : d.kind id <;> simp [hkind, NodeKind.isLeaf, NodeKind.children] at hleaf_id hc

end OneTree

end Inside

/-! ### Documents of a stream -/

/-- Whether the root of a document covers an offset. -/
def covers (d : Document) (offset : Nat) (inclusive : Bool) : Bool :=
  d.root.any fun root => (d.spanOf root).contains offset inclusive

section Covers

variable {d : Document} {offset : Nat} {inclusive : Bool}

theorem covers_iff : d.covers offset inclusive = true ↔
    ∃ root, d.root = some root ∧ (d.spanOf root).contains offset inclusive = true := by
  rw [covers, Option.any_eq_true]

end Covers

theorem OneTree.root_in_range {d : Document} (h : d.OneTree) {root : NodeId} (hroot : d.root = some root) :
    root < d.nodes.size :=
  Nat.lt_of_succ_le (Nat.le_of_eq (h.root_last root hroot))

end Document

/-- A path that starts at the root of its document and leads down to an offset. -/
structure Path.Leads (p : Path) (offset : Nat) (inclusive : Bool) : Prop where
  from_root : ∃ root, p.doc.root = some root ∧ p.steps.head? = some (.node root)
  down : p.doc.Leads offset inclusive p.steps

namespace Stream

/-- The nodes of each document nest as their spans do, and the roots of the documents stand one after the other. -/
structure Nested (s : Stream) : Prop where
  documents : ∀ d ∈ s.documents, d.Nested
  in_order : s.documents.Pairwise fun a b =>
    ∀ ra rb, a.root = some ra → b.root = some rb → (a.spanOf ra).stop ≤ (b.spanOf rb).start

end Stream

section PathAt

variable {s : Stream} {offset : Nat} {inclusive : Bool} {d : Document}

/-- The path of a stream is the way down from the root in the first document whose root covers the offset. -/
theorem pathAt?_eq_bind (s : Stream) (offset : Nat) (inclusive : Bool) : pathAt? s offset inclusive =
    (s.documents.find? fun d => d.covers offset inclusive).bind fun d => d.root.map fun root =>
      { doc := d, steps := .node root :: descend d offset inclusive (root + 1) root } := by
  rw [pathAt?]
  induction s.documents with
  | nil => rfl
  | cons d ds ih =>
      rw [List.findSome?_cons, List.find?_cons, ih, Document.covers]
      cases hroot : d.root with
      | none => rfl
      | some root =>
          by_cases hcovers : (d.spanOf root).contains offset inclusive = true
          · simp [hcovers, hroot]
          · simp [hcovers]

theorem covers_of_find? (hfirst : (s.documents.find? fun d => d.covers offset inclusive) = some d) :
    d ∈ s.documents ∧ ∃ root, d.root = some root ∧ (d.spanOf root).contains offset inclusive = true := by
  have hcovers := List.find?_some hfirst
  exact ⟨List.mem_of_find?_eq_some hfirst, Document.covers_iff.1 hcovers⟩

/-- In the first document that covers the offset there is a path. -/
theorem pathAt?_of_find? (hfirst : (s.documents.find? fun d => d.covers offset inclusive) = some d) :
    ∃ root, d.root = some root ∧ (d.spanOf root).contains offset inclusive = true ∧
      pathAt? s offset inclusive =
        some { doc := d, steps := .node root :: descend d offset inclusive (root + 1) root } := by
  obtain ⟨-, root, hroot, hcovers⟩ := covers_of_find? hfirst
  refine ⟨root, hroot, hcovers, ?_⟩
  rw [pathAt?_eq_bind, hfirst, Option.bind_some, hroot, Option.map_some]

theorem map_doc_pathAt? (s : Stream) (offset : Nat) (inclusive : Bool) :
    (pathAt? s offset inclusive).map Path.doc = s.documents.find? fun d => d.covers offset inclusive := by
  cases hfirst : s.documents.find? fun d => d.covers offset inclusive with
  | none => rw [pathAt?_eq_bind, hfirst]; rfl
  | some d =>
      obtain ⟨root, -, -, hpath⟩ := pathAt?_of_find? hfirst
      rw [hpath]
      rfl

theorem leads_pathAt? (htrees : ∀ d ∈ s.documents, d.OneTree) {path : Path}
    (hpath : pathAt? s offset inclusive = some path) : path.Leads offset inclusive := by
  have hfirst : (s.documents.find? fun d => d.covers offset inclusive) = some path.doc := by
    rw [← map_doc_pathAt?, hpath]
    rfl
  obtain ⟨root, hroot, hcovers, hsteps⟩ := pathAt?_of_find? hfirst
  have heq := congrArg Path.steps (Option.some.inj (hpath.symm.trans hsteps))
  have htree := htrees _ (List.mem_of_find?_eq_some hfirst)
  refine ⟨⟨root, hroot, by rw [heq]; rfl⟩, ?_⟩
  rw [heq]
  exact htree.leads_descend root (htree.root_in_range hroot) (htree.root_not_pair root hroot) hcovers _
    (Nat.lt_succ_self root)

/-- In a stream that nests the path to an offset inside a leaf is in the document of the leaf, and ends there. -/
theorem pathAt?_ends_at_leaf (htrees : ∀ d ∈ s.documents, d.OneTree) (hnested : s.Nested) (hd : d ∈ s.documents)
    {leaf : Nat} (hleaf_in : leaf < d.nodes.size) (hleaf : (d.kind leaf).isLeaf = true)
    (hin : (d.spanOf leaf).start < offset ∧ offset < (d.spanOf leaf).stop) :
    ∃ path, pathAt? s offset inclusive = some path ∧ path.doc = d ∧ path.lastNode? = some leaf := by
  have htree := htrees d hd
  obtain ⟨root, hroot⟩ : ∃ root, d.root = some root := by
    rw [← Option.ne_none_iff_exists', ne_eq, ← htree.empty_iff]
    rintro hempty
    simp [hempty] at hleaf_in
  have hroot_in := htree.root_in_range hroot
  have hunder := htree.under_root hroot hleaf_in
  have hin_root := htree.inside_of_under (hnested.documents d hd) hunder hroot_in hin
  have hcovers : d.covers offset inclusive = true :=
    Document.covers_iff.2 ⟨root, hroot, Text.Span.covers_of_inside hin_root⟩
  -- An earlier document that covered the offset would have to be this one.
  have hfirst : (s.documents.find? fun d => d.covers offset inclusive) = some d := by
    cases hfound : s.documents.find? fun d => d.covers offset inclusive with
    | none => exact absurd hcovers (List.find?_eq_none.1 hfound d hd)
    | some d' =>
        obtain ⟨hd', root', hroot', hcovers'⟩ := covers_of_find? hfound
        have hapart := Text.Span.not_apart_of_covers hcovers' hin_root
        refine congrArg some (eq_of_pairwise hnested.in_order hd' hd ⟨?_, ?_⟩)
        · exact fun horder => hapart.1 (horder root' root hroot' hroot)
        · exact fun horder => hapart.2 (horder root root' hroot hroot')
  obtain ⟨root', hroot', -, hpath⟩ := pathAt?_of_find? hfirst
  obtain rfl := Option.some.inj (hroot.symm.trans hroot')
  refine ⟨_, hpath, rfl, ?_⟩
  have hends : (Step.node root :: descend d offset inclusive (root + 1) root).getLast? = some (.node leaf) :=
    htree.descend_ends_at (hnested.documents d hd) hleaf hin root hroot_in (htree.root_not_pair root hroot) hunder
      (root + 1) (Nat.lt_succ_self root)
  rw [Path.lastNode?]
  dsimp only
  rw [hends]
  rfl

/-- There is a path exactly if the root of some document covers the offset, and then it is in the first such
    document. It starts at the root and leads down to the offset. In a stream that nests it ends, for an offset
    inside a leaf, at that leaf. -/
theorem path_leads_to_offset (s : Stream) (htrees : ∀ d ∈ s.documents, d.OneTree) (offset : Nat)
    (inclusive : Bool) :
    ((pathAt? s offset inclusive).isSome = true ↔ ∃ d ∈ s.documents, d.covers offset inclusive = true) ∧
    (pathAt? s offset inclusive).map Path.doc = (s.documents.find? fun d => d.covers offset inclusive) ∧
    (∀ path, pathAt? s offset inclusive = some path → path.Leads offset inclusive) ∧
    (s.Nested → ∀ d ∈ s.documents, ∀ leaf : Nat, leaf < d.nodes.size → (d.kind leaf).isLeaf = true →
      (d.spanOf leaf).start < offset → offset < (d.spanOf leaf).stop →
      ∃ path, pathAt? s offset inclusive = some path ∧ path.doc = d ∧ path.lastNode? = some leaf) := by
  refine ⟨?_, map_doc_pathAt? s offset inclusive, fun path hpath => leads_pathAt? htrees hpath, ?_⟩
  · rw [← Option.isSome_map, map_doc_pathAt?, List.find?_isSome]
  · intro hnested d hd leaf hleaf_in hleaf hfrom hto
    exact pathAt?_ends_at_leaf htrees hnested hd hleaf_in hleaf ⟨hfrom, hto⟩

/-- The nodes of `ab: [cd]`. -/
def itemUnderKey : Document where
  nodes := #[⟨.scalar "ab" .plain, ⟨0, 2⟩⟩, ⟨.scalar "cd" .plain, ⟨5, 7⟩⟩, ⟨.sequence [1], ⟨4, 8⟩⟩,
    ⟨.pair 0 (some 2), ⟨0, 8⟩⟩, ⟨.mapping [3], ⟨0, 8⟩⟩]
  root := some 4
  span := ⟨0, 8⟩

theorem path_ends_at_item_under_key : itemUnderKey.OneTree ∧ Stream.Nested { documents := [itemUnderKey] } ∧
    ∃ path, pathAt? { documents := [itemUnderKey] } 6 true = some path ∧ path.doc = itemUnderKey ∧
      path.lastNode? = some 1 := by
  have hkey : Forest itemUnderKey.nodes false 0 1 [0] :=
    .tree (n := ⟨.scalar "ab" .plain, ⟨0, 2⟩⟩) (.nil false 0) (.nil false 0) rfl rfl
  have hitem : Forest itemUnderKey.nodes false 1 2 [1] :=
    .tree (n := ⟨.scalar "cd" .plain, ⟨5, 7⟩⟩) (.nil false 1) (.nil false 1) rfl rfl
  have hsequence : Forest itemUnderKey.nodes false 0 3 [0, 2] :=
    .tree (n := ⟨.sequence [1], ⟨4, 8⟩⟩) hkey hitem rfl rfl
  have hpair : Forest itemUnderKey.nodes true 0 4 [3] :=
    .tree (n := ⟨.pair 0 (some 2), ⟨0, 8⟩⟩) (.nil true 0) hsequence rfl rfl
  have htree : itemUnderKey.OneTree :=
    Document.oneTree_of_forest (.tree (n := ⟨.mapping [3], ⟨0, 8⟩⟩) (.nil false 0) hpair rfl rfl)
  have hnested : Stream.Nested { documents := [itemUnderKey] } := by
    refine ⟨?_, List.pairwise_singleton _ _⟩
    intro d hd
    obtain rfl := List.mem_singleton.1 hd
    exact ⟨by decide, by decide⟩
  have htrees : ∀ d ∈ [itemUnderKey], d.OneTree := fun d hd => List.mem_singleton.1 hd ▸ htree
  refine ⟨htree, hnested, ?_⟩
  exact (path_leads_to_offset { documents := [itemUnderKey] } htrees 6 true).2.2.2 hnested itemUnderKey
    (List.mem_singleton_self _) 1 (by decide) rfl (by decide) (by decide)

end PathAt

end PlaybookServer
