/-
Module: PlaybookServer.Proofs.Playbook.Enclosure
Purpose: The entries around an entry. The mapping that holds an entry is the value of an entry further out, or an item
  of a sequence that is; the two ways out of a mapping find that entry exactly if it has a text key. Going from a key to
  the next one around it until one is a task parameter passes the keys in between, innermost first.
Main exports: Path.HeldBy, enclosingKey?_eq_some_iff, enclosingEntry?_eq_some_iff, OwnedBy,
  taskParamWithTrace?_eq_some_iff
-/
import PlaybookServer.Completion.Variables
import PlaybookServer.Proofs.Document.Ancestry

namespace PlaybookServer

open Playbook (Nesting)

/-! ### The entry around an entry -/

/-- The mapping of the entry that a path ends in is the value of an entry, or an item of the sequence that is. The outer
    path ends at the key of that entry, which is a text. -/
inductive Path.HeldBy : Path → Path → String → Nesting → Prop where
  | value {d : Document} {before : List Step} {outer entry key mapping pair x : NodeId} {name : String}
      (ofEntry : d.pair? entry = some (key, some mapping)) (named : d.scalar? key = some name)
      (isMapping : d.isMapping mapping = true) :
      HeldBy ⟨d, before ++ [Step.node outer, .node entry, .node mapping, .node pair, .node x]⟩
        ⟨d, before ++ [Step.node outer, .node entry, .node key]⟩ name .dict
  | item {d : Document} {before : List Step} {outer entry key list mapping pair x : NodeId} {name : String}
      (ofEntry : d.pair? entry = some (key, some list)) (named : d.scalar? key = some name)
      (isSequence : d.isSequence list = true) (isMapping : d.isMapping mapping = true) :
      HeldBy ⟨d, before ++ [Step.node outer, .node entry, .node list, .node mapping, .node pair, .node x]⟩
        ⟨d, before ++ [Step.node outer, .node entry, .node key]⟩ name .list

namespace Ancestry

/-- The way out of a mapping, through the entry that it is the value of, else through the sequence that it is an
    item of. -/
def enclosing? (map : Ancestry) : Option (Path × String × Nesting) :=
  let named := fun (p : Option Path) (nesting : Nesting) =>
    p.bind fun q => q.keyName?.map fun key => (q, key, nesting)
  (named (map.parent (some .mapping)).keyPath? .dict).or
    (named ((map.parent (some .sequence)).parent (some .mapping)).keyPath? .list)

end Ancestry

section Outward

variable {p : Path} {before front back : List Step} {outer entry key list mapping pair x : NodeId}
  {value : Option NodeId} {name : String} {nesting : Nesting} {around : Path}

theorem keyName?_of_split (d : Document) (front : List Step) (key : NodeId) :
    (⟨d, front ++ [Step.node outer, .node entry, .node key]⟩ : Path).keyName? = d.scalar? key := by
  simp [Path.keyName?, Path.lastNode?, Step.node?]

/-- The way from a part of an entry to the entry's key. -/
theorem keyPath?_parent_of_entry (split : p.steps = before ++ Step.node outer :: .node entry :: back)
    (isMapping : p.doc.isMapping outer = true) (ofEntry : p.doc.pair? entry = some (key, value)) :
    ((⟨p, some (before.length + 2)⟩ : Ancestry).parent (some .mapping)).keyPath? =
      some ⟨p.doc, before ++ [Step.node outer, .node entry, .node key]⟩ := by
  rw [Ancestry.parent_of_entry split (Document.isPair_of_pair? ofEntry) rfl (by simp)]
  apply Ancestry.keyPath?_of_split split ofEntry
  simp [Expect.fits, isMapping]

/-- Nowhere there is no key. -/
theorem keyPath?_parent_of_top {a : Ancestry} (top : Ancestry.above a.index = none) (expect : Option Expect) :
    (a.parent expect).keyPath? = none := by
  rw [Ancestry.parent_of_top top]
  rfl

theorem enclosing?_of_entry (split : p.steps = before ++ Step.node outer :: .node entry :: back)
    (isMapping : p.doc.isMapping outer = true) (ofEntry : p.doc.pair? entry = some (key, value)) :
    (⟨p, some (before.length + 2)⟩ : Ancestry).enclosing? = (p.doc.scalar? key).map fun name =>
      (⟨p.doc, before ++ [Step.node outer, .node entry, .node key]⟩, name, .dict) := by
  have noList : (⟨p, some (before.length + 2)⟩ : Ancestry).parent (some .sequence) = ⟨p, none⟩ := by
    rw [Ancestry.parent_of_entry split (Document.isPair_of_pair? ofEntry) rfl (by simp)]
    simp [Expect.fits, Document.isSequence_of_isMapping isMapping]
  rw [Ancestry.enclosing?, keyPath?_parent_of_entry split isMapping ofEntry, noList,
    keyPath?_parent_of_top (a := ⟨p, none⟩) rfl]
  simp [keyName?_of_split]

/-- Through a list the way leads to where the list leads. -/
theorem enclosing?_of_item (split : p.steps = before ++ Step.node list :: back)
    (isSequence : p.doc.isSequence list = true) :
    (⟨p, some (before.length + 1)⟩ : Ancestry).enclosing? =
      ((⟨p, some before.length⟩ : Ancestry).parent (some .mapping)).keyPath?.bind fun around =>
        around.keyName?.map fun name => (around, name, .list) := by
  have toList : (⟨p, some (before.length + 1)⟩ : Ancestry).parent (some .sequence) = ⟨p, some before.length⟩ := by
    rw [Ancestry.parent_of_item split (Document.isPair_of_isSequence isSequence) rfl]
    simp [Expect.fits, isSequence]
  rw [Ancestry.enclosing?, Ancestry.parent_mapping_of_item split isSequence rfl, toList]
  rfl

theorem enclosing?_of_top {a : Ancestry} (top : Ancestry.above a.index = none) : a.enclosing? = none := by
  rw [Ancestry.enclosing?, keyPath?_parent_of_top top, Ancestry.parent_of_top top, keyPath?_parent_of_top rfl]
  rfl

theorem Path.HeldBy.of_value
    (split : p.steps = before ++ [Step.node outer, .node entry, .node mapping, .node pair, .node x])
    (ofEntry : p.doc.pair? entry = some (key, some mapping)) (named : p.doc.scalar? key = some name)
    (isMapping : p.doc.isMapping mapping = true) :
    p.HeldBy ⟨p.doc, before ++ [Step.node outer, .node entry, .node key]⟩ name .dict := by
  obtain ⟨d, steps⟩ := p
  subst split
  exact .value ofEntry named isMapping

theorem Path.HeldBy.of_item
    (split : p.steps = before ++ [Step.node outer, .node entry, .node list, .node mapping, .node pair, .node x])
    (ofEntry : p.doc.pair? entry = some (key, some list)) (named : p.doc.scalar? key = some name)
    (isSequence : p.doc.isSequence list = true) (isMapping : p.doc.isMapping mapping = true) :
    p.HeldBy ⟨p.doc, before ++ [Step.node outer, .node entry, .node key]⟩ name .list := by
  obtain ⟨d, steps⟩ := p
  subst split
  exact .item ofEntry named isSequence isMapping

/-- What is no text, in an entry with a text key, is the value. -/
theorem value_of_part (part : key = x ∨ value = some x) (named : p.doc.scalar? key = some name)
    (noText : p.doc.scalar? x = none) : value = some x := by
  rcases part with rfl | same
  · rw [noText] at named
    cases named
  · exact same

/-- What the mapping above the entry that a path ends in leads out to is the entry that holds it. -/
theorem heldBy_of_enclosing? (rooted : p.Rooted)
    (split : p.steps = front ++ [Step.node mapping, .node pair, .node x]) (isMapping : p.doc.isMapping mapping = true)
    (leads : (⟨p, some front.length⟩ : Ancestry).enclosing? = some (around, name, nesting)) :
    p.HeldBy around name nesting := by
  cases rooted.above split (Document.isPair_of_isMapping isMapping) with
  | top =>
      rw [enclosing?_of_top rfl] at leads
      cases leads
  | @entry before outer entry key value outerMapping ofEntry part =>
      have whole : p.steps = before ++ [Step.node outer, .node entry, .node mapping, .node pair, .node x] := by
        simp [split]
      rw [List.length_append, List.length_cons, List.length_singleton,
        enclosing?_of_entry whole outerMapping ofEntry] at leads
      obtain ⟨name', named, same⟩ := Option.map_eq_some_iff.1 leads
      cases same
      obtain rfl := value_of_part part named (Document.scalar?_of_isMapping isMapping)
      exact .of_value whole ofEntry named isMapping
  | @item before list isSequence =>
      have whole : p.steps = before ++ [Step.node list, .node mapping, .node pair, .node x] := by simp [split]
      rw [List.length_append, List.length_singleton, enclosing?_of_item whole isSequence] at leads
      cases rooted.above whole (Document.isPair_of_isSequence isSequence) with
      | top =>
          rw [keyPath?_parent_of_top rfl] at leads
          cases leads
      | @entry before outer entry key value outerMapping ofEntry part =>
          have whole : p.steps = before ++
              [Step.node outer, .node entry, .node list, .node mapping, .node pair, .node x] := by simp [split]
          rw [List.length_append, List.length_cons, List.length_singleton,
            keyPath?_parent_of_entry whole outerMapping ofEntry, Option.bind_some, keyName?_of_split] at leads
          obtain ⟨name', named, same⟩ := Option.map_eq_some_iff.1 leads
          cases same
          obtain rfl := value_of_part part named (Document.scalar?_of_isSequence isSequence)
          exact .of_item whole ofEntry named isSequence isMapping
      | @item before outerList outerSequence =>
          have whole : p.steps = before ++
              [Step.node outerList, .node list, .node mapping, .node pair, .node x] := by simp [split]
          rw [List.length_append, List.length_singleton,
            Ancestry.parent_mapping_of_item whole outerSequence rfl] at leads
          cases leads

/-- The mapping above the entry that a path ends in leads out to the entry that holds it. -/
theorem enclosing?_of_heldBy (rooted : p.Rooted)
    (split : p.steps = front ++ [Step.node mapping, .node pair, .node x]) (held : p.HeldBy around name nesting) :
    (⟨p, some front.length⟩ : Ancestry).enclosing? = some (around, name, nesting) := by
  cases held with
  | @value d before outer entry key mapping' pair' x' _ ofEntry named _ =>
      have whole : front ++ [Step.node mapping, .node pair, .node x] =
          (before ++ [Step.node outer, .node entry]) ++ [Step.node mapping', .node pair', .node x'] :=
        split.symm.trans (List.append_assoc before [Step.node outer, .node entry] _).symm
      obtain ⟨rfl, -⟩ := List.append_inj' whole rfl
      have outerMapping := rooted.isMapping_of_split rfl (Document.isPair_of_pair? ofEntry)
      rw [List.length_append, List.length_cons, List.length_singleton, enclosing?_of_entry rfl outerMapping ofEntry]
      simp [named]
  | @item d before outer entry key list mapping' pair' x' _ ofEntry named isSequence _ =>
      have whole : front ++ [Step.node mapping, .node pair, .node x] =
          (before ++ [Step.node outer, .node entry, .node list]) ++ [Step.node mapping', .node pair', .node x'] :=
        split.symm.trans (List.append_assoc before [Step.node outer, .node entry, .node list] _).symm
      obtain ⟨rfl, -⟩ := List.append_inj' whole rfl
      have outerMapping := rooted.isMapping_of_split rfl (Document.isPair_of_pair? ofEntry)
      have through := enclosing?_of_item (p := ⟨d, before ++
        [Step.node outer, .node entry, .node list, .node mapping', .node pair', .node x']⟩)
        (List.append_assoc before [Step.node outer, .node entry] _).symm isSequence
      rw [List.length_append, List.length_cons, List.length_singleton,
        keyPath?_parent_of_entry rfl outerMapping ofEntry, Option.bind_some, keyName?_of_split] at through
      rw [List.length_append, List.length_cons, List.length_cons, List.length_singleton]
      simpa [named] using through

/-- The entry that holds another stands on a path from the root, too. -/
theorem Path.HeldBy.rooted (held : p.HeldBy around name nesting) (rooted : p.Rooted) : around.Rooted := by
  cases held with
  | value ofEntry => exact rooted.toKey rfl ofEntry
  | item ofEntry => exact rooted.toKey rfl ofEntry

theorem Path.HeldBy.atKey (held : p.HeldBy around name nesting) : around.AtKey := by
  cases held with
  | value ofEntry => exact Path.atKey_of_split ofEntry
  | item ofEntry => exact Path.atKey_of_split ofEntry

theorem Path.HeldBy.shorter (held : p.HeldBy around name nesting) : around.length < p.length := by
  cases held with
  | value => simp [Path.length]
  | item => simp [Path.length]

/-- What is held by an entry ends in an entry itself. -/
theorem Path.HeldBy.inEntry (held : p.HeldBy around name nesting) (rooted : p.Rooted) :
    ∃ front mapping pair x, p.steps = front ++ [Step.node mapping, .node pair, .node x] ∧
      p.doc.isMapping mapping = true ∧ p.doc.isPair pair = true := by
  cases held with
  | @value d before outer entry key mapping pair x _ _ _ isMapping =>
      have split := (List.append_assoc before [Step.node outer, .node entry] [.node mapping, .node pair, .node x]).symm
      exact ⟨_, mapping, pair, x, split, isMapping, rooted.isPair_of_split split isMapping⟩
  | @item d before outer entry key list mapping pair x _ _ _ _ isMapping =>
      have split := (List.append_assoc before [Step.node outer, .node entry, .node list]
        [.node mapping, .node pair, .node x]).symm
      exact ⟨_, mapping, pair, x, split, isMapping, rooted.isPair_of_split split isMapping⟩

/-- From a place that is no pair, the mapping above it leads out to the entry that holds it, and nowhere else. -/
theorem enclosing?_parent_eq_some_iff (rooted : p.Rooted) (split : p.steps = front ++ [Step.node x])
    (apart : p.doc.isPair x = false) :
    (p.ancestry.parent (some .mapping)).enclosing? = some (around, name, nesting) ↔ p.HeldBy around name nesting := by
  cases rooted.above split apart with
  | top =>
      have start : Ancestry.above p.ancestry.index = none := by simp [Path.ancestry, Path.length, split, Ancestry.above]
      rw [Ancestry.parent_of_top start, enclosing?_of_top rfl]
      constructor
      · intro impossible
        cases impossible
      · intro held
        obtain ⟨front, mapping, pair, y, inEntry, -⟩ := held.inEntry rooted
        simpa using congrArg List.length (split.symm.trans inEntry)
  | @entry before outer entry key value isMapping ofEntry part =>
      have whole : p.steps = before ++ [Step.node outer, .node entry, .node x] := by simp [split]
      rw [Path.parent_mapping_of_split whole (Document.isPair_of_pair? ofEntry) isMapping]
      exact ⟨heldBy_of_enclosing? rooted whole isMapping, enclosing?_of_heldBy rooted whole⟩
  | @item before list isSequence =>
      have whole : p.steps = before ++ [Step.node list, .node x] := by simp [split]
      have start : p.ancestry.index = some (before.length + 1) := by simp [Path.ancestry, Path.length, whole]
      rw [Ancestry.parent_mapping_of_item whole isSequence start, enclosing?_of_top rfl]
      constructor
      · intro impossible
        cases impossible
      · intro held
        obtain ⟨front, mapping, pair, y, inEntry, -, isPair⟩ := held.inEntry rooted
        rw [whole, List.append_cons front] at inEntry
        obtain ⟨-, same⟩ := List.append_inj' inEntry rfl
        cases same
        rw [Document.isPair_of_isSequence isSequence] at isPair
        cases isPair

end Outward

namespace Playbook

variable {path outer owner : Path} {name : String} {nesting : Nesting} {trace : List (String × Nesting)}

theorem enclosingKey?_eq_some_iff (rooted : path.Rooted) (atKey : path.AtKey) :
    enclosingKey? path = some (outer, name, nesting) ↔ path.HeldBy outer name nesting := by
  obtain ⟨front, mapping, pair, key, value, split, isMapping, ofPair⟩ := atKey.split rooted
  have start : enclosingKey? path = path.ancestry.parentOfKey.enclosing? := rfl
  rw [start, Path.parentOfKey_of_split split ofPair isMapping]
  exact ⟨heldBy_of_enclosing? rooted split isMapping, enclosing?_of_heldBy rooted split⟩

/-- Going outward from a key to the first one that is a task parameter passes keys on the way, innermost first. -/
inductive OwnedBy : Path → List (String × Nesting) → Path → Prop where
  | here {path : Path} (isParam : isTaskParam path = true) : OwnedBy path [] path
  | up {path outer owner : Path} {name : String} {nesting : Nesting} {trace : List (String × Nesting)}
      (other : isTaskParam path = false) (held : path.HeldBy outer name nesting) (rest : OwnedBy outer trace owner) :
      OwnedBy path ((name, nesting) :: trace) owner

theorem traceWithin_succ (fuel : Nat) (path : Path) (passed : List (String × Nesting)) :
    traceWithin (fuel + 1) path passed = if isTaskParam path then some (path, passed)
      else match enclosingKey? path with
        | some (outer, key, nesting) => traceWithin fuel outer (passed ++ [(key, nesting)])
        | none => none := by rfl

theorem traceWithin_eq_some_iff (rooted : path.Rooted) (atKey : path.AtKey) (fuel : Nat) (enough : path.length < fuel)
    (passed : List (String × Nesting)) : traceWithin fuel path passed = some (owner, trace) ↔
      ∃ further, trace = passed ++ further ∧ OwnedBy path further owner := by
  induction fuel generalizing path passed with
  | zero => exact absurd enough (Nat.not_lt_zero _)
  | succ fuel ih =>
      rw [traceWithin_succ]
      split
      next isParam =>
          constructor
          · intro same
            cases same
            exact ⟨[], by simp, .here isParam⟩
          · rintro ⟨further, rfl, owned⟩
            cases owned with
            | here => simp
            | up other => simp [isParam] at other
      next other =>
          have other : isTaskParam path = false := Bool.eq_false_iff.2 other
          split
          next outer name nesting leads =>
              have held := (enclosingKey?_eq_some_iff rooted atKey).1 leads
              rw [ih (held.rooted rooted) held.atKey (by have := held.shorter; omega)]
              constructor
              · rintro ⟨further, rfl, owned⟩
                exact ⟨(name, nesting) :: further, by simp, .up other held owned⟩
              · rintro ⟨further, rfl, owned⟩
                cases owned with
                | here isParam => simp [isParam] at other
                | up _ held' rest =>
                    rw [(enclosingKey?_eq_some_iff rooted atKey).2 held'] at leads
                    cases leads
                    exact ⟨_, by simp, rest⟩
          next nowhere =>
              constructor
              · intro impossible
                cases impossible
              · rintro ⟨further, rfl, owned⟩
                cases owned with
                | here isParam => simp [isParam] at other
                | up _ held =>
                    rw [(enclosingKey?_eq_some_iff rooted atKey).2 held] at nowhere
                    cases nowhere

/-- The walk up to the task parameter finds the key that owns an option, and the keys between them. -/
theorem taskParamWithTrace?_eq_some_iff (rooted : path.Rooted) (atKey : path.AtKey) :
    taskParamWithTrace? path = some (owner, trace) ↔ OwnedBy path trace owner := by
  rw [taskParamWithTrace?, traceWithin_eq_some_iff rooted atKey _ (Nat.lt_succ_self _)]
  simp

end Playbook

namespace Completion

variable {path outer : Path} {x : NodeId}

/-- The way out of the mapping above a path, without the name of the key that it gets to. -/
theorem enclosingEntry?_eq_map (path : Path) :
    enclosingEntry? path = (path.ancestry.parent (some .mapping)).enclosing?.map Prod.fst := by
  have named (found : Option Path) (nesting : Nesting) : found.filter (fun q => q.keyName?.isSome) =
      (found.bind fun q => q.keyName?.map fun key => (q, key, nesting)).map Prod.fst := by
    cases found with
    | none => rfl
    | some q => cases key : q.keyName? <;> simp [key]
  rw [ enclosingEntry?, named _ .dict, named _ .list, Ancestry.enclosing?, Option.map_or]

/-- From a place that is no pair the entry found around is the one that holds it. -/
theorem enclosingEntry?_eq_some_iff {front : List Step} (rooted : path.Rooted)
    (split : path.steps = front ++ [Step.node x]) (apart : path.doc.isPair x = false) :
    enclosingEntry? path = some outer ↔ ∃ name nesting, path.HeldBy outer name nesting := by
  rw [ enclosingEntry?_eq_map, Option.map_eq_some_iff]
  constructor
  · rintro ⟨⟨around, name, nesting⟩, leads, rfl⟩
    exact ⟨name, nesting, (enclosing?_parent_eq_some_iff rooted split apart).1 leads⟩
  · rintro ⟨name, nesting, held⟩
    exact ⟨_, (enclosing?_parent_eq_some_iff rooted split apart).2 held, rfl⟩

end Completion

end PlaybookServer
