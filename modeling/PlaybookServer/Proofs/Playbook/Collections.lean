/-
Module: PlaybookServer.Proofs.Playbook.Collections
Purpose: The collections in force at an entry of a task. Those of the task come first. Then the way goes out of the
  list that the task is an item of: out of a list under `block`, `rescue` or `always` to the block that holds it and
  on from there, out of any other list once more and no further. A list that is a key itself is left like a list under
  a key that is no block key.
Main exports: Playbook.Outward, Playbook.declaredCollections_eq, Playbook.collections_out_of_complex_key
-/
import PlaybookServer.Proofs.Document.Ancestry
import PlaybookServer.Playbook.Structure

namespace PlaybookServer.Playbook

/-- The keys of a block that have lists of tasks under them. -/
def blockKeys : List String := ["block", "rescue", "always"]

/-- The texts in the list under `collections` in a mapping. -/
def listed (d : Document) (mapping : NodeId) : List String :=
  (d.get? mapping "collections").toList.flatMap fun list => (d.items list).filterMap d.scalar?

/-- How a list can stand in an entry. -/
abbrev Place := NodeId → Option NodeId → NodeId → Prop

/-- The list is the value of the entry. -/
def AsValue : Place := fun _ value list => value = some list

/-- The list is the key or the value of the entry. -/
def AsPart : Place := fun key value list => key = list ∨ value = some list

/-- The mappings that are reached from an item of a list by leaving one list after the other, innermost first. The
    steps are those above the item; a list is left from a given place of an entry. -/
inductive Outward (d : Document) (place : Place) : List Step → List NodeId → Prop where
  /-- The item is in no list, or the list is at no such place. -/
  | stop {front : List Step} (nowhere : ∀ before outer entry list key value,
      front = before ++ [Step.node outer, .node entry, .node list] → d.pair? entry = some (key, value) →
        place key value list → d.isSequence list = false) : Outward d place front []
  | block {before : List Step} {outer entry key list : NodeId} {name : String} {maps : List NodeId}
      (ofEntry : d.pair? entry = some (key, some list)) (isSequence : d.isSequence list = true)
      (named : d.scalar? key = some name) (isBlock : name ∈ blockKeys) (rest : Outward d place before maps) :
      Outward d place (before ++ [Step.node outer, .node entry, .node list]) (outer :: maps)
  /-- The list belongs to no block. -/
  | other {before : List Step} {outer entry key list : NodeId} {value : Option NodeId}
      (ofEntry : d.pair? entry = some (key, value)) (atPlace : place key value list)
      (isSequence : d.isSequence list = true) (noBlock : ∀ name ∈ d.scalar? key, name ∉ blockKeys) :
      Outward d place (before ++ [Step.node outer, .node entry, .node list]) [outer]

section Climb

variable {p : Path} {d : Document} {front before : List Step} {mapping outer entry key list x : NodeId}
  {value : Option NodeId}

theorem collectionsOf_some (d : Document) (mapping : NodeId) : collectionsOf d (some mapping) = listed d mapping := by
  rw [collectionsOf, listed, Option.bind_some]
  cases d.get? mapping "collections" <;> simp

/-- The way out of the list that a path ends in an item of. -/
def leaveList (p : Path) : Ancestry := (p.ancestry.parent (some .sequence)).parent (some .mapping)

theorem leaveList_of_top (split : p.steps = [Step.node x]) : leaveList p = ⟨p, none⟩ := by
  have start : Ancestry.above p.ancestry.index = none := by simp [Path.ancestry, Path.length, split, Ancestry.above]
  rw [leaveList, Ancestry.parent_of_top start, Ancestry.parent_of_top rfl]
  rfl

/-- From a part of an entry there is no list to leave. -/
theorem leaveList_of_entry (split : p.steps = before ++ [Step.node outer, .node entry, .node x])
    (isMapping : p.doc.isMapping outer = true) (isPair : p.doc.isPair entry = true) : leaveList p = ⟨p, none⟩ := by
  have start : p.ancestry.index = some (before.length + 2) := by simp [Path.ancestry, Path.length, split]
  have noList : p.ancestry.parent (some .sequence) = ⟨p, none⟩ := by
    rw [Ancestry.parent_of_entry split isPair start (by simp)]
    simp [Expect.fits, Document.isSequence_of_isMapping isMapping, Path.ancestry]
  rw [leaveList, noList, Ancestry.parent_of_top rfl]

theorem leaveList_of_item (split : p.steps = before ++ [Step.node list, .node x])
    (isSequence : p.doc.isSequence list = true) :
    leaveList p = (⟨p, some before.length⟩ : Ancestry).parent (some .mapping) := by
  have start : p.ancestry.index = some (before.length + 1) := by simp [Path.ancestry, Path.length, split]
  rw [leaveList, Ancestry.parent_of_item split (Document.isPair_of_isSequence isSequence) start]
  simp [Expect.fits, isSequence, Path.ancestry]

/-- Out of a list that is a part of an entry the way leads to the mapping of the entry. -/
theorem leaveList_of_listEntry
    (split : p.steps = before ++ [Step.node outer, .node entry, .node list, .node x])
    (isSequence : p.doc.isSequence list = true) (isMapping : p.doc.isMapping outer = true)
    (isPair : p.doc.isPair entry = true) : leaveList p = ⟨p, some before.length⟩ := by
  have above : p.steps = (before ++ [Step.node outer, .node entry]) ++ [Step.node list, .node x] := by simp [split]
  rw [leaveList_of_item above isSequence, List.length_append, List.length_cons, List.length_singleton,
    Ancestry.parent_of_entry split isPair rfl (by simp)]
  simp [Expect.fits, isMapping]

theorem outerCollections_of_nowhere (nowhere : leaveList p = ⟨p, none⟩) (fuel : Nat) :
    outerCollections (fuel + 1) p = [] := by
  rw [leaveList] at nowhere
  rw [outerCollections, nowhere]
  rfl

theorem outerCollections_of_listEntry
    (split : p.steps = before ++ [Step.node outer, .node entry, .node list, .node x])
    (isSequence : p.doc.isSequence list = true) (isMapping : p.doc.isMapping outer = true)
    (ofEntry : p.doc.pair? entry = some (key, value)) (fuel : Nat) :
    outerCollections (fuel + 1) p = listed p.doc outer ++
      if ∃ name ∈ p.doc.scalar? key, name ∈ blockKeys then outerCollections fuel ⟨p.doc, before ++ [Step.node outer]⟩
      else [] := by
  have reached := leaveList_of_listEntry split isSequence isMapping (Document.isPair_of_pair? ofEntry)
  rw [leaveList] at reached
  have node : (⟨p, some before.length⟩ : Ancestry).node? = some outer := by
    simp [Ancestry.node?, Ancestry.get?, split, Step.node?]
  have under : (⟨p, some before.length⟩ : Ancestry).stringKey? = p.doc.scalar? key := by
    simp [Ancestry.stringKey?, Ancestry.pairBelow?, Ancestry.nodeAt?, split, Step.node?, ofEntry]
  have path : (⟨p, some before.length⟩ : Ancestry).path? = some ⟨p.doc, before ++ [Step.node outer]⟩ := by
    simp [Ancestry.path?, Path.upTo, split, List.take_append, List.take_of_length_le]
  rw [outerCollections, reached, node, under, path, collectionsOf_some]
  cases p.doc.scalar? key with
  | none => simp
  | some name =>
      by_cases isBlock : name ∈ blockKeys
      · have same : (name = "block" || name = "rescue" || name = "always") = true := by
          simpa [blockKeys, or_assoc] using isBlock
        simp [isBlock, same]
      · have other : (name = "block" || name = "rescue" || name = "always") = false := by
          simpa [blockKeys, and_assoc] using isBlock
        simp [isBlock, other]

theorem Outward.stop_of_entry {place : Place} (ofEntry : d.pair? entry = some (key, value)) :
    Outward d place (before ++ [Step.node outer, .node entry]) [] := by
  refine .stop fun _ _ _ list _ _ same _ _ => ?_
  obtain rfl : list = entry := by simpa using (congrArg List.getLast? same).symm
  cases sequence : d.isSequence list with
  | false => rfl
  | true =>
      have apart := Document.isPair_of_isSequence sequence
      exact absurd (Document.isPair_of_pair? ofEntry) (Bool.eq_false_iff.1 apart)

/-- A list that is an item of a list, or the root, is no part of an entry. -/
theorem Outward.stop_of_item {place : Place}
    (apart : ∀ up, before.getLast? = some (Step.node up) → d.isPair up = false) :
    Outward d place (before ++ [Step.node list]) [] := by
  refine .stop fun before' outer entry inner _ _ same ofEntry _ => ?_
  have same : before ++ [Step.node list] = (before' ++ [Step.node outer, .node entry]) ++ [Step.node inner] := by
    simpa using same
  obtain ⟨rfl, -⟩ := List.append_inj' same rfl
  exact absurd (Document.isPair_of_pair? ofEntry) (Bool.eq_false_iff.1 (apart entry (by simp)))

/-- The collections around an item are those of the mappings that are reached from it. -/
theorem outerCollections_eq (rooted : p.Rooted) (split : p.steps = front ++ [Step.node mapping])
    (isMapping : p.doc.isMapping mapping = true) (fuel : Nat) (enough : p.length < fuel) :
    ∃ maps, Outward p.doc AsPart front maps ∧ outerCollections fuel p = maps.flatMap (listed p.doc) := by
  induction fuel generalizing p front mapping with
  | zero => exact absurd enough (Nat.not_lt_zero _)
  | succ fuel ih =>
      cases rooted.above split (Document.isPair_of_isMapping isMapping) with
      | top => exact ⟨[], .stop (by simp), outerCollections_of_nowhere (leaveList_of_top split) fuel⟩
      | @entry before outer entry key value outerMapping ofEntry part =>
          have whole : p.steps = before ++ [Step.node outer, .node entry, .node mapping] := by simp [split]
          have nowhere := leaveList_of_entry whole outerMapping (Document.isPair_of_pair? ofEntry)
          exact ⟨[], .stop_of_entry ofEntry, outerCollections_of_nowhere nowhere fuel⟩
      | @item before list isSequence =>
          have whole : p.steps = before ++ [Step.node list, .node mapping] := by simp [split]
          cases rooted.above whole (Document.isPair_of_isSequence isSequence) with
          | top =>
              have nowhere : leaveList p = ⟨p, none⟩ := by
                rw [leaveList_of_item whole isSequence, Ancestry.parent_of_top rfl]
              exact ⟨[], .stop_of_item (by simp), outerCollections_of_nowhere nowhere fuel⟩
          | @item before outer outerSequence =>
              have above : p.steps = before ++ [Step.node outer, .node list, .node mapping] := by simp [split]
              have nowhere : leaveList p = ⟨p, none⟩ := by
                rw [leaveList_of_item whole isSequence, List.length_append, List.length_singleton,
                  Ancestry.parent_mapping_of_item above outerSequence rfl]
              have apart := Document.isPair_of_isSequence outerSequence
              exact ⟨[], .stop_of_item (by simp [apart]), outerCollections_of_nowhere nowhere fuel⟩
          | @entry before outer entry key value outerMapping ofEntry part =>
              have above : p.steps = before ++ [Step.node outer, .node entry, .node list, .node mapping] := by
                simp [split]
              rw [outerCollections_of_listEntry above isSequence outerMapping ofEntry, List.append_assoc]
              split
              next inBlock =>
                  obtain ⟨name, named, isBlock⟩ := inBlock
                  obtain rfl : value = some list := by
                    rcases part with rfl | same
                    · rw [Document.scalar?_of_isSequence isSequence] at named
                      cases named
                    · exact same
                  have start := rooted.take (above.trans (List.append_cons before (Step.node outer) _)) (by simp)
                  obtain ⟨maps, outward, collected⟩ := ih start rfl outerMapping (by simp_all [Path.length]; omega)
                  exact ⟨outer :: maps, .block ofEntry isSequence named isBlock outward, by simp [collected]⟩
              next noBlock =>
                  exact ⟨[outer], .other ofEntry part isSequence (by simpa using noBlock), by simp⟩

/-- The collections in force at an entry are those of its mapping and of the mappings that are reached from there. -/
theorem declaredCollections_eq {path : Path} {pair : NodeId} (rooted : path.Rooted)
    (split : path.steps = front ++ [Step.node mapping, .node pair, .node x]) (isPair : path.doc.isPair pair = true) :
    ∃ maps, Outward path.doc AsPart front maps ∧
      declaredCollections path = (mapping :: maps).flatMap (listed path.doc) := by
  have isMapping := rooted.isMapping_of_split split isPair
  have start := rooted.take (split.trans (List.append_cons front (Step.node mapping) _)) (by simp)
  obtain ⟨maps, outward, collected⟩ :=
    outerCollections_eq start rfl isMapping (path.length + 1) (by simp [Path.length, split])
  refine ⟨maps, outward, ?_⟩
  have entry : path.steps[path.length - 3]? = some (.node mapping) := by simp [Path.length, split]
  have current : (⟨path, some front.length⟩ : Ancestry).path? = some ⟨path.doc, front ++ [Step.node mapping]⟩ := by
    simp [Ancestry.path?, Path.upTo, split, List.take_append, List.take_of_length_le]
  rw [declaredCollections, Path.parent_mapping_of_split split isPair isMapping, current, entry,
    if_neg (by simp [Path.length, split]), Option.bind_some, Step.node?, collectionsOf_some, List.flatMap_cons]
  exact congrArg _ collected

end Climb

/-- A module in the `rescue` list of a block in a play, with collections for the task, the block and the play. -/
def underRescue : Path where
  doc := {
    nodes := #[⟨.scalar "collections" .plain, ⟨2, 13⟩⟩, ⟨.scalar "play" .plain, ⟨16, 20⟩⟩, ⟨.sequence [1], ⟨15, 21⟩⟩,
      ⟨.pair 0 (some 2), ⟨2, 21⟩⟩, ⟨.scalar "tasks" .plain, ⟨24, 29⟩⟩, ⟨.scalar "collections" .plain, ⟨35, 46⟩⟩,
      ⟨.scalar "block" .plain, ⟨49, 54⟩⟩, ⟨.sequence [6], ⟨48, 55⟩⟩, ⟨.pair 5 (some 7), ⟨35, 55⟩⟩,
      ⟨.scalar "rescue" .plain, ⟨60, 66⟩⟩, ⟨.scalar "collections" .plain, ⟨74, 85⟩⟩,
      ⟨.scalar "task" .plain, ⟨88, 92⟩⟩, ⟨.sequence [11], ⟨87, 93⟩⟩, ⟨.pair 10 (some 12), ⟨74, 93⟩⟩,
      ⟨.scalar "debug" .plain, ⟨100, 105⟩⟩, ⟨.scalar "1" .plain, ⟨107, 108⟩⟩, ⟨.pair 14 (some 15), ⟨100, 108⟩⟩,
      ⟨.mapping [13, 16], ⟨74, 108⟩⟩, ⟨.sequence [17], ⟨72, 108⟩⟩, ⟨.pair 9 (some 18), ⟨60, 108⟩⟩,
      ⟨.mapping [8, 19], ⟨35, 108⟩⟩, ⟨.sequence [20], ⟨33, 108⟩⟩, ⟨.pair 4 (some 21), ⟨24, 108⟩⟩,
      ⟨.mapping [3, 22], ⟨2, 108⟩⟩, ⟨.sequence [23], ⟨0, 108⟩⟩]
    root := some 24
    span := ⟨0, 109⟩ }
  steps := [24, 23, 22, 21, 20, 19, 18, 17, 16, 14].map .node

theorem collections_under_rescue : declaredCollections underRescue = ["task", "block", "play"] ∧ ∃ maps,
    Outward underRescue.doc AsPart ([24, 23, 22, 21, 20, 19, 18].map Step.node) maps ∧
      declaredCollections underRescue = (17 :: maps).flatMap (listed underRescue.doc) := by
  have split : underRescue.steps =
      [24, 23, 22, 21, 20, 19, 18].map Step.node ++ [.node 17, .node 16, .node 14] := rfl
  exact ⟨by decide +kernel, declaredCollections_eq (by decide +kernel) split (by decide)⟩

/-- The module of a task in a list that is a key of a mapping, with collections for the task and the mapping. -/
def underComplexKey : Path where
  doc := {
    nodes := #[⟨.scalar "collections" .plain, ⟨2, 13⟩⟩, ⟨.scalar "outer" .plain, ⟨16, 21⟩⟩, ⟨.sequence [1], ⟨15, 22⟩⟩,
      ⟨.pair 0 (some 2), ⟨2, 22⟩⟩, ⟨.scalar "collections" .plain, ⟨29, 40⟩⟩, ⟨.scalar "inner" .plain, ⟨43, 48⟩⟩,
      ⟨.sequence [5], ⟨42, 49⟩⟩, ⟨.pair 4 (some 6), ⟨29, 49⟩⟩, ⟨.scalar "debug" .plain, ⟨56, 61⟩⟩,
      ⟨.scalar "1" .plain, ⟨63, 64⟩⟩, ⟨.pair 8 (some 9), ⟨56, 64⟩⟩, ⟨.mapping [7, 10], ⟨29, 64⟩⟩,
      ⟨.sequence [11], ⟨27, 64⟩⟩, ⟨.scalar "value" .plain, ⟨69, 74⟩⟩, ⟨.pair 12 (some 13), ⟨25, 74⟩⟩,
      ⟨.mapping [3, 14], ⟨2, 74⟩⟩, ⟨.sequence [15], ⟨0, 74⟩⟩]
    root := some 16
    span := ⟨0, 74⟩ }
  steps := [16, 15, 14, 12, 11, 10, 8].map .node

/-- The collections around a list that is a key are in force, too, though no key leads to it. -/
theorem collections_out_of_complex_key : underComplexKey.Rooted ∧ underComplexKey.doc.isPair 10 = true ∧
    underComplexKey.steps = [16, 15, 14, 12].map Step.node ++ [.node 11, .node 10, .node 8] ∧
    ¬ ∃ maps, Outward underComplexKey.doc AsValue ([16, 15, 14, 12].map Step.node) maps ∧
      declaredCollections underComplexKey = (11 :: maps).flatMap (listed underComplexKey.doc) := by
  refine ⟨by decide +kernel, by decide, rfl, ?_⟩
  rintro ⟨maps, outward, collected⟩
  have valueOfKey {front before : List Step} {outer entry key list : NodeId} {value : Option NodeId}
      (here : [16, 15, 14, 12].map Step.node = front) (split : front = before ++ [.node outer, .node entry, .node list])
      (ofEntry : underComplexKey.doc.pair? entry = some (key, value)) : value ≠ some list := by
    subst split
    have whole : [Step.node 16] ++ [.node 15, .node 14, .node 12] = before ++ [.node outer, .node entry, .node list] :=
      here
    obtain ⟨-, same⟩ := List.append_inj' whole rfl
    cases same
    obtain ⟨-, rfl⟩ : (12 : NodeId) = key ∧ some 13 = value := by simpa using (show some (12, some 13) = _ from ofEntry)
    decide
  generalize here : [16, 15, 14, 12].map Step.node = front at outward
  cases outward with
  | stop => exact absurd collected (by decide +kernel)
  | block ofEntry => exact valueOfKey here rfl ofEntry rfl
  | other ofEntry atPlace => exact valueOfKey here rfl ofEntry atPlace

end PlaybookServer.Playbook
