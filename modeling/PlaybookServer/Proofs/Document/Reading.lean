/-
Module: PlaybookServer.Proofs.Document.Reading
Purpose: Reading a document in a way that gives up at an index out of range, or when it has gone down deeper than it
  was allowed to. In a document whose nodes are one tree no reading gives up: data, paths, keys and values are read
  to the end, within the depth of the node's index, and are what the readers without these checks give.
Main exports: Document.tryJson, Document.tryDescend, Document.tryKeys, Document.tryGet, Document.Readable,
  lowered_document_is_one_readable_tree
-/
import PlaybookServer.Document.Path
import PlaybookServer.Proofs.Document.Lowering

namespace PlaybookServer

open Source

/-! ### Reading that may give up -/

namespace Document

variable (d : Document)

/-- What a node is, if one stands at the index. -/
def tryKind (id : NodeId) : Option NodeKind := d.nodes[id]?.map Node.kind

/-- The bytes a node covers, if one stands at the index. -/
def trySpan (id : NodeId) : Option Text.Span := d.nodes[id]?.map Node.span

/-- The text of a scalar. -/
def tryScalar (id : NodeId) : Option (Option String) := do
  match ← d.tryKind id with
  | .scalar v _ => return some v
  | _ => return none

/-- The key and value of a pair. -/
def tryPair (id : NodeId) : Option (Option (NodeId × Option NodeId)) := do
  match ← d.tryKind id with
  | .pair k v => return some (k, v)
  | _ => return none

/-- The pairs of a mapping. -/
def tryPairs (mapping : NodeId) : Option (List NodeId) := do
  match ← d.tryKind mapping with
  | .mapping ps => return ps
  | _ => return []

/-- The scalar keys of a mapping. -/
def tryKeys (mapping : NodeId) : Option (List String) := do
  let texts ← (← d.tryPairs mapping).mapM fun p => do
    match ← d.tryPair p with
    | some (k, _) => d.tryScalar k
    | none => return none
  return texts.filterMap id

/-- The value under the first pair with a scalar key. -/
def tryGet (mapping : NodeId) (key : String) : Option (Option NodeId) := do
  let found ← (← d.tryPairs mapping).findSomeM? fun p => do
    match ← d.tryPair p with
    | some (k, v) => return if (← d.tryScalar k) = some key then some v else none
    | none => return none
  return found.join

/-- Plain data view of a node. -/
def tryJson : Nat → NodeId → Option Json
  | 0, _ => none
  | fuel + 1, id => do
    match ← d.tryKind id with
    | .mapping ps =>
      let fields ← ps.foldlM (fun fields p => do
        match ← d.tryPair p with
        | some (k, v) =>
          let key ← d.tryScalar k
          let value ← match v with
            | some v => tryJson fuel v
            | none => pure .null
          return Json.setField (key.getD "") value fields
        | none => return fields) []
      return .object fields
    | .sequence xs => return .array (← xs.mapM (tryJson fuel))
    | .scalar v _ => return .string v
    | _ => return .null

/-- The first pair whose key covers the offset. -/
def tryKeyUnder (offset : Nat) (inclusive : Bool) (pairs : List NodeId) : Option (Option (NodeId × NodeId)) :=
  pairs.findSomeM? fun p => do
    match ← d.tryPair p with
    | some (k, _) => return if (← d.trySpan k).contains offset inclusive then some (p, k) else none
    | none => return none

/-- The first pair whose value covers the offset. -/
def tryValueUnder (offset : Nat) (inclusive : Bool) (pairs : List NodeId) : Option (Option (NodeId × NodeId)) :=
  pairs.findSomeM? fun p => do
    match ← d.tryPair p with
    | some (_, some v) => return if (← d.trySpan v).contains offset inclusive then some (p, v) else none
    | _ => return none

/-- The first pair with the offset between its key and its value. -/
def tryGapUnder (offset : Nat) (inclusive : Bool) (pairs : List NodeId) : Option (Option NodeId) :=
  pairs.findSomeM? fun p => do
    match ← d.tryPair p with
    | some (k, some v) =>
      let stop := (← d.trySpan v).start - (if inclusive then 0 else 1)
      return if (← d.trySpan k).stop ≤ offset ∧ offset < stop then some p else none
    | _ => return none

/-- Steps from below a node down to the offset. -/
def tryDescend (offset : Nat) (inclusive : Bool) : Nat → NodeId → Option (List Step)
  | 0, _ => none
  | fuel + 1, id => do
    match ← d.tryKind id with
    | .mapping pairs =>
      match ← d.tryKeyUnder offset inclusive pairs with
      | some (p, k) => return .node p :: .node k :: (← tryDescend offset inclusive fuel k)
      | none =>
        match ← d.tryValueUnder offset inclusive pairs with
        | some (p, v) => return .node p :: .node v :: (← tryDescend offset inclusive fuel v)
        | none =>
          match ← d.tryGapUnder offset inclusive pairs with
          | some p => return [.node p, .empty]
          | none => return [.empty]
    | .sequence items =>
      match ← items.findSomeM? fun x => do
        return if (← d.trySpan x).contains offset inclusive then some x else none with
      | some x => return .node x :: (← tryDescend offset inclusive fuel x)
      | none => return [.empty]
    | _ => return if (← d.trySpan id).contains offset inclusive then [] else [.empty]

end Document

/-! ### Lists read element by element -/

section Lists

variable {α β : Type}

theorem mapM_eq_some_map {f : α → Option β} {g : α → β} {xs : List α} (h : ∀ x ∈ xs, f x = some (g x)) :
    xs.mapM f = some (xs.map g) := by
  induction xs with
  | nil => rfl
  | cons x xs ih =>
      rw [List.mapM_cons, h x List.mem_cons_self, ih fun y hy => h y (List.mem_cons_of_mem x hy)]
      rfl

theorem foldlM_eq_some_foldl {f : β → α → Option β} {g : β → α → β} {xs : List α}
    (h : ∀ acc, ∀ x ∈ xs, f acc x = some (g acc x)) (acc : β) : xs.foldlM f acc = some (xs.foldl g acc) := by
  induction xs generalizing acc with
  | nil => rfl
  | cons x xs ih =>
      rw [List.foldlM_cons, h acc x List.mem_cons_self]
      exact ih (fun acc y hy => h acc y (List.mem_cons_of_mem x hy)) (g acc x)

theorem findSomeM?_eq_some_findSome? {f : α → Option (Option β)} {g : α → Option β} {xs : List α}
    (h : ∀ x ∈ xs, f x = some (g x)) : xs.findSomeM? f = some (xs.findSome? g) := by
  induction xs with
  | nil => rfl
  | cons x xs ih =>
      rw [List.findSomeM?, h x List.mem_cons_self, List.findSome?_cons]
      cases g x with
      | none => exact ih fun y hy => h y (List.mem_cons_of_mem x hy)
      | some v => rfl

/-- The first of a list of parts with a given front is found part by part. -/
theorem findSome?_eq_find?_filterMap {γ : Type} (f : α → Option (β × γ)) (fits : β → Bool) (xs : List α) :
    (xs.findSome? fun x => (f x).bind fun part => if fits part.1 then some part.2 else none) =
      ((xs.filterMap f).find? fun part => fits part.1).map Prod.snd := by
  induction xs with
  | nil => rfl
  | cons x xs ih =>
      rw [List.findSome?_cons]
      cases hpart : f x with
      | none => rwa [List.filterMap_cons_none hpart]
      | some part =>
          rw [List.filterMap_cons_some hpart, List.find?_cons, Option.bind_some]
          cases fits part.1 with
          | true => rfl
          | false => exact ih

end Lists

/-! ### In a tree no reading gives up -/

namespace Document

variable {d : Document} {id : Nat}

theorem tryKind_eq (hid : id < d.nodes.size) : d.tryKind id = some (d.kind id) := by
  rw [tryKind, kind, node, Array.getD_eq_getD_getElem?, Array.getElem?_eq_getElem hid]
  rfl

theorem trySpan_eq (hid : id < d.nodes.size) : d.trySpan id = some (d.spanOf id) := by
  rw [trySpan, spanOf, node, Array.getD_eq_getD_getElem?, Array.getElem?_eq_getElem hid]
  rfl

theorem tryScalar_eq (hid : id < d.nodes.size) : d.tryScalar id = some (d.scalar? id) := by
  rw [tryScalar, scalar?, tryKind_eq hid]
  cases d.kind id <;> rfl

theorem tryPair_eq (hid : id < d.nodes.size) : d.tryPair id = some (d.pair? id) := by
  rw [tryPair, pair?, tryKind_eq hid]
  cases d.kind id <;> rfl

theorem tryPairs_eq (hid : id < d.nodes.size) : d.tryPairs id = some (d.pairs id) := by
  rw [tryPairs, pairs, tryKind_eq hid]
  cases d.kind id <;> rfl

theorem mem_children_of_mem_pairs {p : NodeId} (hp : p ∈ d.pairs id) : p ∈ (d.kind id).children := by
  rw [pairs] at hp
  cases hkind : d.kind id with
  | mapping ps =>
      rw [hkind] at hp
      exact hp
  | _ =>
      rw [hkind] at hp
      cases hp

theorem children_of_pair? {p k : NodeId} {v : Option NodeId} (h : d.pair? p = some (k, v)) :
    (d.kind p).children = k :: v.toList := by
  rw [pair?] at h
  cases hkind : d.kind p with
  | pair k' v' =>
      rw [hkind] at h
      cases h
      rfl
  | _ =>
      rw [hkind] at h
      cases h

namespace OneTree

variable (h : d.OneTree)

include h

/-- What stands under a node stands in the array. -/
theorem child_in_range (hid : id < d.nodes.size) {c : NodeId} (hc : c ∈ (d.kind id).children) : c < d.nodes.size :=
  Nat.lt_trans (h.child_lt id hid c hc) hid

theorem key_lt {p k : NodeId} {v : Option NodeId} (hp : p < d.nodes.size) (hpair : d.pair? p = some (k, v)) :
    k < p :=
  h.child_lt p hp k (by rw [children_of_pair? hpair]; exact List.mem_cons_self)

theorem value_lt {p k u : NodeId} (hp : p < d.nodes.size) (hpair : d.pair? p = some (k, some u)) : u < p :=
  h.child_lt p hp u (by rw [children_of_pair? hpair]; exact List.mem_cons_of_mem k (List.mem_singleton_self u))

theorem tryKey_eq (hid : id < d.nodes.size) {p : NodeId} (hp : p ∈ d.pairs id) :
    (do
      match ← d.tryPair p with
      | some (k, _) => d.tryScalar k
      | none => return none) = some ((d.pair? p).bind fun (k, _) => d.scalar? k) := by
  have hp_in := h.child_in_range hid (mem_children_of_mem_pairs hp)
  rw [tryPair_eq hp_in]
  cases hpair : d.pair? p with
  | none => rfl
  | some kv => exact tryScalar_eq (Nat.lt_trans (h.key_lt hp_in hpair) hp_in)

theorem tryKeys_eq (hid : id < d.nodes.size) : d.tryKeys id = some (d.keys id) := by
  rw [tryKeys, tryPairs_eq hid]
  change ((d.pairs id).mapM _ >>= fun texts => some (texts.filterMap fun text => text)) = _
  rw [mapM_eq_some_map fun _ => h.tryKey_eq hid, keys]
  change some (((d.pairs id).map _).filterMap _) = _
  rw [List.filterMap_map]
  rfl

theorem tryMatch_eq (hid : id < d.nodes.size) (key : String) {p : NodeId} (hp : p ∈ d.pairs id) :
    (do
      match ← d.tryPair p with
      | some (k, v) => return if (← d.tryScalar k) = some key then some v else none
      | none => return none) =
      some ((d.pair? p).bind fun (k, v) => if d.scalar? k = some key then some v else none) := by
  have hp_in := h.child_in_range hid (mem_children_of_mem_pairs hp)
  rw [tryPair_eq hp_in]
  cases hpair : d.pair? p with
  | none => rfl
  | some kv =>
      have hscalar := tryScalar_eq (Nat.lt_trans (h.key_lt hp_in hpair) hp_in)
      change (do return if (← d.tryScalar kv.1) = some key then some kv.2 else none) = _
      rw [hscalar]
      rfl

theorem tryGet_eq (hid : id < d.nodes.size) (key : String) : d.tryGet id key = some (d.get? id key) := by
  rw [tryGet, tryPairs_eq hid]
  change ((d.pairs id).findSomeM? _ >>= fun found => some found.join) = _
  rw [findSomeM?_eq_some_findSome? fun _ => h.tryMatch_eq hid key, get?]
  have hfind := findSome?_eq_find?_filterMap d.pair? (fun k => d.scalar? k = some key) (d.pairs id)
  simp only [decide_eq_true_eq] at hfind
  change some (Option.join (List.findSome? _ _)) = _
  rw [hfind]
  cases List.find? (fun part => decide (d.scalar? part.1 = some key)) ((d.pairs id).filterMap d.pair?) <;> rfl

/-- Data is read with any fuel beyond the index of the node. -/
theorem tryJson_eq (id : Nat) (hid : id < d.nodes.size) (fuel fuel' : Nat) (hfuel : id < fuel)
    (hfuel' : id < fuel') : d.tryJson fuel id = some (d.toJsonWithin fuel' id) := by
  induction id using Nat.strongRecOn generalizing fuel fuel' with
  | ind id ih =>
      obtain ⟨fuel, rfl⟩ : ∃ n, fuel = n + 1 := ⟨fuel - 1, by omega⟩
      obtain ⟨fuel', rfl⟩ : ∃ n, fuel' = n + 1 := ⟨fuel' - 1, by omega⟩
      have hbelow {c : Nat} (hc : c < id) : d.tryJson fuel c = some (d.toJsonWithin fuel' c) :=
        ih c hc (Nat.lt_trans hc hid) fuel fuel' (by omega) (by omega)
      rw [tryJson, toJsonWithin, tryKind_eq hid]
      cases hkind : d.kind id with
      | mapping ps =>
          have hfield : ∀ fields, ∀ p ∈ ps, (do
              match ← d.tryPair p with
              | some (k, v) =>
                let key ← d.tryScalar k
                let value ← match v with
                  | some v => d.tryJson fuel v
                  | none => pure .null
                return Json.setField (key.getD "") value fields
              | none => return fields) =
              some (match d.pair? p with
                | some (k, v) =>
                  Json.setField ((d.scalar? k).getD "") ((v.map (d.toJsonWithin fuel')).getD .null) fields
                | none => fields) := by
            intro fields p hp
            have hchild : p ∈ (d.kind id).children := by rwa [hkind]
            have hp_lt := h.child_lt id hid p hchild
            have hp_in := h.child_in_range hid hchild
            rw [tryPair_eq hp_in]
            cases hpair : d.pair? p with
            | none => rfl
            | some kv =>
                obtain ⟨k, v⟩ := kv
                have hscalar := tryScalar_eq (Nat.lt_trans (h.key_lt hp_in hpair) hp_in)
                cases v with
                | none =>
                    change (do let key ← d.tryScalar k; return Json.setField (key.getD "") .null fields) = _
                    rw [hscalar]
                    rfl
                | some v =>
                    have hvalue := hbelow (Nat.lt_trans (h.value_lt hp_in hpair) hp_lt)
                    change (do
                      let key ← d.tryScalar k
                      let value ← d.tryJson fuel v
                      return Json.setField (key.getD "") value fields) = _
                    rw [hscalar, hvalue]
                    rfl
          change (ps.foldlM _ [] >>= fun fields => some (Json.object fields)) = _
          rw [foldlM_eq_some_foldl hfield]
          rfl
      | sequence xs =>
          have hitem : ∀ x ∈ xs, d.tryJson fuel x = some (d.toJsonWithin fuel' x) := by
            intro x hx
            exact hbelow (h.child_lt id hid x (by rwa [hkind]))
          change (xs.mapM _ >>= fun items => some (Json.array items)) = _
          rw [mapM_eq_some_map hitem]
          rfl
      | _ => rfl

variable (offset : Nat) (inclusive : Bool) {pairs : List NodeId}

theorem tryKeyUnder_eq (hpairs : ∀ p ∈ pairs, p < d.nodes.size) :
    d.tryKeyUnder offset inclusive pairs = some (keyUnder? d offset inclusive pairs) := by
  refine findSomeM?_eq_some_findSome? fun p hp => ?_
  rw [tryPair_eq (hpairs p hp)]
  cases hpair : d.pair? p with
  | none => rfl
  | some kv =>
      have hspan := trySpan_eq (Nat.lt_trans (h.key_lt (hpairs p hp) hpair) (hpairs p hp))
      change (do return if (← d.trySpan kv.1).contains offset inclusive then some (p, kv.1) else none) = _
      rw [hspan]
      rfl

theorem tryValueUnder_eq (hpairs : ∀ p ∈ pairs, p < d.nodes.size) :
    d.tryValueUnder offset inclusive pairs = some (valueUnder? d offset inclusive pairs) := by
  refine findSomeM?_eq_some_findSome? fun p hp => ?_
  rw [tryPair_eq (hpairs p hp)]
  rcases hpair : d.pair? p with _ | ⟨k, _ | v⟩
  · rfl
  · rfl
  · have hspan := trySpan_eq (Nat.lt_trans (h.value_lt (hpairs p hp) hpair) (hpairs p hp))
    change (do return if (← d.trySpan v).contains offset inclusive then some (p, v) else none) = _
    rw [hspan]
    rfl

theorem tryGapUnder_eq (hpairs : ∀ p ∈ pairs, p < d.nodes.size) :
    d.tryGapUnder offset inclusive pairs = some (gapUnder? d offset inclusive pairs) := by
  rw [gapUnder?, List.find?_eq_findSome?_guard]
  refine findSomeM?_eq_some_findSome? fun p hp => ?_
  rw [tryPair_eq (hpairs p hp), Option.guard]
  rcases hpair : d.pair? p with _ | ⟨k, _ | v⟩
  · rfl
  · rfl
  · have hkey := trySpan_eq (Nat.lt_trans (h.key_lt (hpairs p hp) hpair) (hpairs p hp))
    have hvalue := trySpan_eq (Nat.lt_trans (h.value_lt (hpairs p hp) hpair) (hpairs p hp))
    change (do
      let stop := (← d.trySpan v).start - (if inclusive then 0 else 1)
      return if (← d.trySpan k).stop ≤ offset ∧ offset < stop then some p else none) = _
    rw [hkey, hvalue]
    simp only [Bool.and_eq_true, decide_eq_true_eq]
    rfl

omit h in
/-- The key that covers the offset is that of one of the pairs. -/
theorem pair_of_keyUnder? {p k : NodeId} (hfound : keyUnder? d offset inclusive pairs = some (p, k)) :
    p ∈ pairs ∧ ∃ v, d.pair? p = some (k, v) := by
  obtain ⟨q, hq, hsome⟩ := List.exists_of_findSome?_eq_some hfound
  obtain ⟨⟨k', v⟩, hpair, hcovers⟩ := Option.bind_eq_some_iff.1 hsome
  dsimp only at hcovers
  split at hcovers
  next =>
      cases hcovers
      exact ⟨hq, v, hpair⟩
  next => cases hcovers

omit h in
/-- The value that covers the offset is that of one of the pairs. -/
theorem pair_of_valueUnder? {p v : NodeId} (hfound : valueUnder? d offset inclusive pairs = some (p, v)) :
    p ∈ pairs ∧ ∃ k, d.pair? p = some (k, some v) := by
  obtain ⟨q, hq, hsome⟩ := List.exists_of_findSome?_eq_some hfound
  split at hsome
  next k v' hpair =>
      split at hsome
      next =>
          cases hsome
          exact ⟨hq, k, hpair⟩
      next => cases hsome
  next => cases hsome

/-- The steps down to an offset are found with any fuel beyond the index of the node. -/
theorem tryDescend_eq (id : Nat) (hid : id < d.nodes.size) (fuel fuel' : Nat) (hfuel : id < fuel)
    (hfuel' : id < fuel') : d.tryDescend offset inclusive fuel id = some (descend d offset inclusive fuel' id) := by
  induction id using Nat.strongRecOn generalizing fuel fuel' with
  | ind id ih =>
      obtain ⟨fuel, rfl⟩ : ∃ n, fuel = n + 1 := ⟨fuel - 1, by omega⟩
      obtain ⟨fuel', rfl⟩ : ∃ n, fuel' = n + 1 := ⟨fuel' - 1, by omega⟩
      have hbelow {c : Nat} (hc : c < id) :
          d.tryDescend offset inclusive fuel c = some (descend d offset inclusive fuel' c) :=
        ih c hc (Nat.lt_trans hc hid) fuel fuel' (by omega) (by omega)
      rw [tryDescend, descend, tryKind_eq hid]
      cases hkind : d.kind id with
      | mapping pairs =>
          have hpairs_lt : ∀ p ∈ pairs, p < id := fun p hp => h.child_lt id hid p (by rwa [hkind])
          have hpairs : ∀ p ∈ pairs, p < d.nodes.size := fun p hp => Nat.lt_trans (hpairs_lt p hp) hid
          change (d.tryKeyUnder offset inclusive pairs >>= _) = _
          rw [h.tryKeyUnder_eq offset inclusive hpairs]
          dsimp only
          cases hkey : keyUnder? d offset inclusive pairs with
          | some found =>
              obtain ⟨p, k⟩ := found
              obtain ⟨hp, v, hpair⟩ := pair_of_keyUnder? offset inclusive hkey
              change (d.tryDescend offset inclusive fuel k >>= _) = _
              rw [hbelow (Nat.lt_trans (h.key_lt (hpairs p hp) hpair) (hpairs_lt p hp))]
              rfl
          | none =>
              change (d.tryValueUnder offset inclusive pairs >>= _) = _
              rw [h.tryValueUnder_eq offset inclusive hpairs]
              dsimp only
              cases hvalue : valueUnder? d offset inclusive pairs with
              | some found =>
                  obtain ⟨p, v⟩ := found
                  obtain ⟨hp, k, hpair⟩ := pair_of_valueUnder? offset inclusive hvalue
                  change (d.tryDescend offset inclusive fuel v >>= _) = _
                  rw [hbelow (Nat.lt_trans (h.value_lt (hpairs p hp) hpair) (hpairs_lt p hp))]
                  rfl
              | none =>
                  change (d.tryGapUnder offset inclusive pairs >>= _) = _
                  rw [h.tryGapUnder_eq offset inclusive hpairs]
                  dsimp only
                  cases gapUnder? d offset inclusive pairs <;> rfl
      | sequence items =>
          have hitems_lt : ∀ x ∈ items, x < id := fun x hx => h.child_lt id hid x (by rwa [hkind])
          have hspans : ∀ x ∈ items, (do
              return if (← d.trySpan x).contains offset inclusive then some x else none) =
              some (Option.guard (fun x => (d.spanOf x).contains offset inclusive) x) := by
            intro x hx
            rw [trySpan_eq (Nat.lt_trans (hitems_lt x hx) hid)]
            rfl
          change (List.findSomeM? (m := Option) _ items >>= _) = _
          rw [findSomeM?_eq_some_findSome? hspans, ← List.find?_eq_findSome?_guard]
          dsimp only
          cases hitem : items.find? fun x => (d.spanOf x).contains offset inclusive with
          | none => rfl
          | some x =>
              change (d.tryDescend offset inclusive fuel x >>= _) = _
              rw [hbelow (hitems_lt x (List.mem_of_find?_eq_some hitem))]
              rfl
      | _ =>
          change (d.trySpan id >>= _) = _
          rw [trySpan_eq hid]
          rfl

end OneTree

/-- However a document is read, nothing is looked for that is not there, and no reading goes deeper than the index
    of the node it starts at. -/
structure Readable (d : Document) : Prop where
  json : ∀ id fuel : Nat, id < d.nodes.size → id < fuel → d.tryJson fuel id = some (d.toJson id)
  path : ∀ offset inclusive, ∀ id fuel : Nat, id < d.nodes.size → id < fuel →
    d.tryDescend offset inclusive fuel id = some (descend d offset inclusive (id + 1) id)
  keys : ∀ id : Nat, id < d.nodes.size → d.tryKeys id = some (d.keys id)
  get : ∀ (id : Nat) key, id < d.nodes.size → d.tryGet id key = some (d.get? id key)

theorem OneTree.readable (h : d.OneTree) : d.Readable where
  json id fuel hid hfuel := h.tryJson_eq id hid fuel (id + 1) hfuel (Nat.lt_succ_self id)
  path offset inclusive id fuel hid hfuel :=
    h.tryDescend_eq offset inclusive id hid fuel (id + 1) hfuel (Nat.lt_succ_self id)
  keys _ hid := h.tryKeys_eq hid
  get _ key hid := h.tryGet_eq hid key

end Document

/-- The document that lowering a concrete tree gives. -/
def loweredDocument (text : List Char) (c : Concrete) : Document :=
  let (root, s) := (lowerDocument text c).run {}
  { nodes := s.nodes, root }

theorem oneTree_loweredDocument (text : List Char) (c : Concrete) (span : Text.Span) :
    ({ loweredDocument text c with span } : Document).OneTree := by
  have hstart : Waiting.In ⟨false, []⟩ #[] ({} : Lowering).nodes := Waiting.in_self false #[]
  exact Document.oneTree_of_forest (lowers_document text c #[] {} hstart).forest

/-- Whatever the concrete tree, the nodes of its document are one tree in post-order, and reading them never looks
    for what is not there. -/
theorem lowered_document_is_one_readable_tree (text : List Char) (c : Concrete) :
    (loweredDocument text c).OneTree ∧ (loweredDocument text c).Readable :=
  have htree := oneTree_loweredDocument text c (loweredDocument text c).span
  ⟨htree, htree.readable⟩

/-- Every document of a stream is one tree. -/
theorem oneTree_of_mem_documents (text : List Char) (tree : Concrete) :
    ∀ d ∈ (Stream.ofConcrete text tree).documents, d.OneTree := by
  intro d hd
  obtain ⟨part, hpart, hfound⟩ := List.mem_filterMap.1 hd
  obtain ⟨c, -, rfl⟩ := List.mem_map.1 hpart
  have hlowered : ∃ span, (lowerChild text c).1 =
      if (loweredDocument text c).root.isNone && c.isError then none
      else some { loweredDocument text c with span } :=
    ⟨_, apply_ite Prod.fst _ _ _⟩
  obtain ⟨span, hlowered⟩ := hlowered
  rw [hlowered] at hfound
  split at hfound
  next => cases hfound
  next =>
      cases hfound
      exact oneTree_loweredDocument text c span

end PlaybookServer
