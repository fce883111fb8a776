/-
Module: PlaybookServer.Proofs.Completion.Variables
Purpose: The variables offered inside a template. Going outward from the entry with the template collects the variables
  of the mappings around, the innermost first. It gets to a mapping on the path exactly if from there the path goes
  through entries with text keys, lists and mappings only, and the mapping is not the one that the template's own entry
  stands in. Behind them come the prompts and files of the outermost.
Main exports: Path.PlainAt, Path.Scope, Path.HeldBy.scope_iff, varsOf, promptsAndFiles, visibleVariables_eq,
  template_variables_of_entries_around
-/
import PlaybookServer.Proofs.Completion.Keys
import PlaybookServer.Proofs.Playbook.Enclosure

namespace PlaybookServer

open Playbook (Nesting)

/-! ### Mappings that are gone out to -/

namespace Path

/-- Whether a path goes on plainly from a step: from a list to a mapping, and from an entry, but for the last, to the
    value under a text. -/
structure PlainAt (p : Path) (i : Nat) : Prop where
  list : ∀ x, p.steps[i]? = some (.node x) → p.doc.isSequence x = true →
    ∃ item, p.steps[i + 1]? = some (.node item) ∧ p.doc.isMapping item = true
  entry : ∀ x, p.steps[i]? = some (.node x) → p.doc.isPair x = true → i + 2 < p.length →
    ∃ key value name, p.doc.pair? x = some (key, some value) ∧ p.doc.scalar? key = some name ∧
      p.steps[i + 1]? = some (.node value)

/-- A mapping on a path that is gone out to: the path goes on plainly from it, and further than to the entry that the
    path ends in. -/
structure Scope (p : Path) (i : Nat) : Prop where
  mapping : ∃ x, p.steps[i]? = some (.node x) ∧ p.doc.isMapping x = true
  further : i + 3 < p.length
  plain : ∀ j, i ≤ j → p.PlainAt j

section Scopes

variable {p around : Path} {before back : List Step} {next : Step} {outer entry value list item : NodeId}
  {name text : String} {nesting : Nesting} {i : Nat}

/-- Where a path goes on plainly from an entry, it goes to the value under a text. -/
theorem PlainAt.value_of_split (plain : p.PlainAt (before.length + 1))
    (split : p.steps = before ++ Step.node outer :: .node entry :: .node value :: next :: back)
    (isPair : p.doc.isPair entry = true) :
    ∃ key name, p.doc.pair? entry = some (key, some value) ∧ p.doc.scalar? key = some name := by
  have further : before.length + 1 + 2 < p.length := by
    simp only [length, split, List.length_append, List.length_cons]
    omega
  obtain ⟨key, value', name, ofEntry, named, goesOn⟩ := plain.entry entry (by simp [split]) isPair further
  obtain rfl : value' = value := by simpa [split, Nat.add_assoc, eq_comm] using goesOn
  exact ⟨key, name, ofEntry, named⟩

/-- Where a path goes on plainly from a list, it goes to a mapping. -/
theorem PlainAt.item_of_split (plain : p.PlainAt before.length)
    (split : p.steps = before ++ Step.node list :: .node item :: back) (isSequence : p.doc.isSequence list = true) :
    p.doc.isMapping item = true := by
  obtain ⟨item', goesOn, isMapping⟩ := plain.list list (by simp [split]) isSequence
  obtain rfl : item' = item := by simpa [split, eq_comm] using goesOn
  exact isMapping

/-- Where a mapping is gone out to, the entry that the path ends in is held by another. -/
theorem Scope.held (scope : p.Scope i) (rooted : p.Rooted) (scalar : p.keyName? = some text) :
    ∃ around name nesting, p.HeldBy around name nesting := by
  obtain ⟨front, x, split, isText⟩ := exists_last_of_keyName? scalar
  obtain ⟨⟨m, atScope, isScope⟩, further, plain⟩ := scope
  cases rooted.above split (Document.isPair_of_scalar? isText) with
  | top => simp [length, split] at further
  | @item before list isSequence =>
      -- The text would be a mapping.
      have whole : p.steps = before ++ [Step.node list, .node x] := by simp [split]
      simp only [length, whole, List.length_append, List.length_cons, List.length_nil] at further
      have isMapping := (plain before.length (by omega)).item_of_split whole isSequence
      rw [Document.scalar?_of_isMapping isMapping] at isText
      cases isText
  | @entry before mapping pair _ _ isMapping _ _ =>
      have whole : p.steps = before ++ [Step.node mapping, .node pair, .node x] := by simp [split]
      cases rooted.above whole (Document.isPair_of_isMapping isMapping) with
      | top => simp [length, split] at further
      | @entry before outer entry _ _ outerMapping ofEntry _ =>
          have whole : p.steps = before ++ [Step.node outer, .node entry, .node mapping, .node pair, .node x] := by
            simp [split]
          simp only [length, whole, List.length_append, List.length_cons, List.length_nil] at further
          obtain ⟨key, name, ofEntry, named⟩ :=
            (plain (before.length + 1) (by omega)).value_of_split whole (Document.isPair_of_pair? ofEntry)
          exact ⟨_, _, _, .of_value whole ofEntry named isMapping⟩
      | @item before list isSequence =>
          have whole : p.steps = before ++ [Step.node list, .node mapping, .node pair, .node x] := by simp [split]
          simp only [length, whole, List.length_append, List.length_cons, List.length_nil] at further
          have above : i < before.length := by
            by_contra below
            obtain rfl : i = before.length := by omega
            obtain rfl : list = m := by simpa [whole] using atScope
            rw [Document.isMapping_of_isSequence isSequence] at isScope
            cases isScope
          cases rooted.above whole (Document.isPair_of_isSequence isSequence) with
          | top => simp at above
          | @entry before outer entry _ _ outerMapping ofEntry _ =>
              have whole : p.steps = before ++
                  [Step.node outer, .node entry, .node list, .node mapping, .node pair, .node x] := by simp [split]
              rw [List.length_append, List.length_cons, List.length_singleton] at above
              obtain ⟨key, name, ofEntry, named⟩ :=
                (plain (before.length + 1) (by omega)).value_of_split whole (Document.isPair_of_pair? ofEntry)
              exact ⟨_, _, _, .of_item whole ofEntry named isSequence isMapping⟩
          | @item before outerList outerSequence =>
              rw [List.length_append, List.length_singleton] at above
              have whole : p.steps = before ++
                  [Step.node outerList, .node list, .node mapping, .node pair, .node x] := by simp [split]
              have itemMapping := (plain before.length (by omega)).item_of_split whole outerSequence
              rw [Document.isMapping_of_isSequence isSequence] at itemMapping
              cases itemMapping

section PlainAt

variable {q : Path} {front : List Step} {mapping pair x : NodeId} {j : Nat}

/-- Whether a path goes on plainly is seen at two steps. -/
theorem PlainAt.congr (plain : p.PlainAt j) (doc : p.doc = q.doc) (here : p.steps[j]? = q.steps[j]?)
    (next : p.steps[j + 1]? = q.steps[j + 1]?) (inner : j + 2 < q.length → j + 2 < p.length) : q.PlainAt j where
  list x at' isSequence := by
    rw [← here] at at'
    rw [← doc] at isSequence
    rw [← next, ← doc]
    exact plain.list x at' isSequence
  entry x at' isPair further := by
    rw [← here] at at'
    rw [← doc] at isPair
    rw [← next, ← doc]
    exact plain.entry x at' isPair (inner further)

theorem plainAt_mapping (here : p.steps[j]? = some (.node mapping)) (isMapping : p.doc.isMapping mapping = true) :
    p.PlainAt j where
  list x same isSequence := by
    cases here.symm.trans same
    simp [Document.isSequence_of_isMapping isMapping] at isSequence
  entry x same isPair := by
    cases here.symm.trans same
    simp [Document.isPair_of_isMapping isMapping] at isPair

theorem plainAt_list (here : p.steps[j]? = some (.node list)) (isSequence : p.doc.isSequence list = true)
    (next : p.steps[j + 1]? = some (.node item)) (isMapping : p.doc.isMapping item = true) : p.PlainAt j where
  list _ _ _ := ⟨item, next, isMapping⟩
  entry x same isPair := by
    cases here.symm.trans same
    simp [Document.isPair_of_isSequence isSequence] at isPair

theorem plainAt_entry (here : p.steps[j]? = some (.node entry)) (isPair : p.doc.isPair entry = true)
    (next : j + 2 < p.length → ∃ key value name, p.doc.pair? entry = some (key, some value) ∧
      p.doc.scalar? key = some name ∧ p.steps[j + 1]? = some (.node value)) : p.PlainAt j where
  list x same isSequence := by
    cases here.symm.trans same
    simp [Document.isPair_of_isSequence isSequence] at isPair
  entry x same _ further := by
    cases here.symm.trans same
    exact next further

theorem plainAt_scalar (here : p.steps[j]? = some (.node x)) (isText : p.doc.scalar? x = some text) :
    p.PlainAt j where
  list y same isSequence := by
    cases here.symm.trans same
    simp [Document.scalar?_of_isSequence isSequence] at isText
  entry y same isPair := by
    cases here.symm.trans same
    simp [Document.isPair_of_scalar? isText] at isPair

/-- The last entry goes on plainly to any text. -/
theorem plainAt_end (split : p.steps = front ++ [Step.node pair, .node x]) (isPair : p.doc.isPair pair = true)
    (isText : p.doc.scalar? x = some text) (below : front.length ≤ j) : p.PlainAt j := by
  obtain ⟨k, rfl⟩ := Nat.exists_eq_add_of_le below
  rcases k with _ | _ | k
  · exact plainAt_entry (by simp [split]) isPair (by simp [length, split])
  · exact plainAt_scalar (by simp [split]) isText
  · have beyond : p.steps[front.length + (k + 1 + 1)]? = none := by
      rw [List.getElem?_eq_none_iff, split, List.length_append, List.length_cons, List.length_singleton]
      omega
    exact ⟨fun y at' => by simp [beyond] at at', fun y at' => by simp [beyond] at at'⟩

/-- A path that ends at a text in an entry goes on plainly from the mapping of the entry. -/
theorem plainAt_inEntry (rooted : p.Rooted) (scalar : p.keyName? = some text)
    (split : p.steps = front ++ [Step.node mapping, .node pair, .node x]) (isMapping : p.doc.isMapping mapping = true)
    (below : front.length ≤ j) : p.PlainAt j := by
  obtain ⟨init, y, last, isText⟩ := exists_last_of_keyName? scalar
  have isPair := rooted.isPair_of_split split isMapping
  obtain ⟨-, same⟩ := List.append_inj' ((List.append_assoc front [_, _] [_]).trans (split.symm.trans last)) rfl
  cases same
  obtain ⟨k, rfl⟩ := Nat.exists_eq_add_of_le below
  cases k with
  | zero => exact plainAt_mapping (by simp [split]) isMapping
  | succ k => exact plainAt_end (split.trans (List.append_cons _ _ _)) isPair isText (by simp)

theorem getElem?_shared {s t : Step} (back back' : List Step) (inside : j ≤ front.length + 1) :
    (front ++ s :: t :: back)[j]? = (front ++ s :: t :: back')[j]? := by
  have split (rest : List Step) : front ++ s :: t :: rest = (front ++ [s, t]) ++ rest := by simp
  have short : j < (front ++ [s, t]).length := by simp; omega
  rw [split back, split back', List.getElem?_append_left short, List.getElem?_append_left short]

/-- Up to a step that they share with what follows it, two paths go on plainly alike. -/
theorem plainAt_iff_of_shared {d : Document} {s t : Step} {back back' : List Step} (nonempty : back ≠ [])
    (nonempty' : back' ≠ []) (above : j ≤ front.length) :
    PlainAt ⟨d, front ++ s :: t :: back⟩ j ↔ PlainAt ⟨d, front ++ s :: t :: back'⟩ j := by
  have long (rest : List Step) (more : rest ≠ []) : j + 2 < (⟨d, front ++ s :: t :: rest⟩ : Path).length := by
    have positive := List.length_pos_iff.2 more
    simp only [length, List.length_append, List.length_cons]
    omega
  have here := getElem?_shared (s := s) (t := t) back back' (Nat.le_succ_of_le above)
  have next := getElem?_shared (s := s) (t := t) back back' (Nat.succ_le_succ above)
  constructor
  · intro plain
    exact plain.congr rfl here next fun _ => long back nonempty
  · intro plain
    exact plain.congr rfl here.symm next.symm fun _ => long back' nonempty'

end PlainAt

/-- The path to the entry around goes on plainly where the path does. -/
theorem HeldBy.plainAt_iff (held : p.HeldBy around name nesting) (rooted : p.Rooted) (scalar : p.keyName? = some text)
    (j : Nat) : around.PlainAt j ↔ p.PlainAt j := by
  cases held with
  | @value d before outer entry key mapping pair x _ ofEntry named isMapping =>
      rcases Nat.lt_or_ge before.length j with below | above
      · have isEntry := Document.isPair_of_pair? ofEntry
        refine iff_of_true (plainAt_end (List.append_cons before _ _) isEntry named (by simp; omega)) ?_
        obtain ⟨k, rfl⟩ := Nat.exists_eq_add_of_lt below
        cases k with
        | zero =>
            refine plainAt_entry (by simp) isEntry fun _ => ?_
            exact ⟨key, mapping, name, ofEntry, named, by simp [Nat.add_assoc]⟩
        | succ k =>
            have split := (List.append_assoc before [Step.node outer, .node entry]
              [.node mapping, .node pair, .node x]).symm
            exact plainAt_inEntry rooted scalar split isMapping (by simp)
      · exact plainAt_iff_of_shared (by simp) (by simp) above
  | @item d before outer entry key list mapping pair x _ ofEntry named isSequence isMapping =>
      rcases Nat.lt_or_ge before.length j with below | above
      · have isEntry := Document.isPair_of_pair? ofEntry
        refine iff_of_true (plainAt_end (List.append_cons before _ _) isEntry named (by simp; omega)) ?_
        obtain ⟨k, rfl⟩ := Nat.exists_eq_add_of_lt below
        rcases k with _ | _ | k
        · refine plainAt_entry (by simp) isEntry fun _ => ?_
          exact ⟨key, list, name, ofEntry, named, by simp [Nat.add_assoc]⟩
        · exact plainAt_list (by simp [Nat.add_assoc]) isSequence (by simp [Nat.add_assoc]) isMapping
        · have split := (List.append_assoc before [Step.node outer, .node entry, .node list]
            [.node mapping, .node pair, .node x]).symm
          exact plainAt_inEntry rooted scalar split isMapping (by simp)
      · exact plainAt_iff_of_shared (by simp) (by simp) above

/-- The path to the entry around leaves the path at that entry, and below it is no mapping but the one that is held. -/
theorem HeldBy.parts (held : p.HeldBy around name nesting) (rooted : p.Rooted) :
    ∃ before outer entry key back, p.steps = before ++ Step.node outer :: .node entry :: back ∧ 3 ≤ back.length ∧
      around = ⟨p.doc, before ++ [Step.node outer, .node entry, .node key]⟩ ∧ p.doc.isMapping outer = true ∧
      p.doc.scalar? key = some name ∧
      ∀ i m, before.length < i → i + 3 < p.length → p.steps[i]? = some (.node m) → p.doc.isMapping m = false := by
  cases held with
  | @value d before outer entry key mapping pair x _ ofEntry named isMapping =>
      have isEntry := Document.isPair_of_pair? ofEntry
      refine ⟨before, outer, entry, key, _, rfl, by simp, rfl, rooted.isMapping_of_split rfl isEntry, named, ?_⟩
      intro i m below above here
      simp only [length, List.length_append, List.length_cons, List.length_nil] at above
      obtain rfl : i = before.length + 1 := by omega
      obtain rfl : entry = m := by simpa using here
      exact Bool.eq_false_iff.2 fun other => by simp [Document.isPair_of_isMapping other] at isEntry
  | @item d before outer entry key list mapping pair x _ ofEntry named isSequence isMapping =>
      have isEntry := Document.isPair_of_pair? ofEntry
      refine ⟨before, outer, entry, key, _, rfl, by simp, rfl, rooted.isMapping_of_split rfl isEntry, named, ?_⟩
      intro i m below above here
      simp only [length, List.length_append, List.length_cons, List.length_nil] at above
      obtain rfl | rfl : i = before.length + 1 ∨ i = before.length + 2 := by omega
      · obtain rfl : entry = m := by simpa using here
        exact Bool.eq_false_iff.2 fun other => by simp [Document.isPair_of_isMapping other] at isEntry
      · obtain rfl : list = m := by simpa using here
        exact Document.isMapping_of_isSequence isSequence

/-- The mappings that are gone out to are that of the entry around, and those that are gone out to from there. -/
theorem HeldBy.scope_iff (held : p.HeldBy around name nesting) (rooted : p.Rooted) (scalar : p.keyName? = some text) :
    p.Scope i ↔ i + 3 = around.length ∨ around.Scope i := by
  have plain := held.plainAt_iff rooted scalar
  have rootedAround := held.rooted rooted
  obtain ⟨before, outer, entry, key, back, split, long, rfl, isMapping, named, between⟩ := held.parts rooted
  have short : (⟨p.doc, before ++ [Step.node outer, .node entry, .node key]⟩ : Path).length = before.length + 3 := by
    simp [length]
  have shared (j : Nat) (above : j ≤ before.length) :
      p.steps[j]? = (before ++ [Step.node outer, .node entry, .node key])[j]? := by
    rw [split]
    exact getElem?_shared back _ (by omega)
  have whole : p.length = before.length + 2 + back.length := by
    simp [length, split]
    omega
  rw [short]
  constructor
  · intro scope
    obtain ⟨m, here, isScope⟩ := scope.mapping
    rcases Nat.lt_trichotomy i before.length with above | same | below
    · right
      exact ⟨⟨m, (shared i (by omega)) ▸ here, isScope⟩, by omega, fun j after => (plain j).2 (scope.plain j after)⟩
    · exact .inl (by omega)
    · rw [between i m below scope.further here] at isScope
      cases isScope
  · rintro (same | scope)
    · obtain rfl : i = before.length := by omega
      refine ⟨⟨outer, by simp [split], isMapping⟩, by omega, fun j after => (plain j).1 ?_⟩
      have scalarAround :
          (⟨p.doc, before ++ [Step.node outer, .node entry, .node key]⟩ : Path).keyName? = some name := by
        rw [keyName?_of_split]
        exact named
      exact plainAt_inEntry rootedAround scalarAround rfl isMapping after
    · obtain ⟨m, here, isScope⟩ := scope.mapping
      have inside := scope.further
      rw [short] at inside
      refine ⟨⟨m, (shared i (by omega)).trans here, isScope⟩, by omega, ?_⟩
      intro j after
      exact (plain j).1 (scope.plain j after)

theorem HeldBy.steps_eq (held : p.HeldBy around name nesting) (rooted : p.Rooted) (above : i + 3 ≤ around.length) :
    p.steps[i]? = around.steps[i]? := by
  obtain ⟨before, outer, entry, key, back, split, -, rfl, -⟩ := held.parts rooted
  simp only [length, List.length_append, List.length_cons, List.length_nil] at above
  rw [split]
  exact getElem?_shared back _ (by omega)

theorem HeldBy.keyName? (held : p.HeldBy around name nesting) (rooted : p.Rooted) : around.keyName? = some name := by
  obtain ⟨before, outer, entry, key, back, split, -, rfl, -, named, -⟩ := held.parts rooted
  rw [keyName?_of_split]
  exact named

theorem HeldBy.doc_eq (held : p.HeldBy around name nesting) : around.doc = p.doc := by
  cases held with
  | value | item => rfl

/-- The mapping of the entry around. -/
theorem HeldBy.parentOfKey_index (held : p.HeldBy around name nesting) (rooted : p.Rooted) :
    ∃ i, around.length = i + 3 ∧ around.ancestry.parentOfKey = ⟨around, some i⟩ := by
  obtain ⟨front, mapping, pair, key, value, split, isMapping, ofPair⟩ := held.atKey.split (held.rooted rooted)
  exact ⟨front.length, by simp [length, split], parentOfKey_of_split split ofPair isMapping⟩

end Scopes

end Path

namespace Completion

open Source Playbook

/-! ### Collecting -/

/-- Variables of the mapping at a step of a path. -/
def varsAt (path : Path) (i : Nat) : List String :=
  match (path.steps[i]?.bind Step.node?).bind fun map => path.doc.get? map "vars" with
  | some vars => keysOfVars path.doc vars
  | none => []

/-- Variables of mappings on a path, with the numbers of their scopes. -/
def varsOf (path : Path) (scopes : List Nat) (first : Nat) : List (String × Nat) :=
  (scopes.zipIdx first).flatMap fun (i, n) => (varsAt path i).map (·, min n scopeLimit)

/-- The mapping that prompts and files are taken from: the outermost that is gone out to, else the one that owns the
    key at the end of the path. -/
def outermost? (path : Path) (scopes : List Nat) : Option NodeId :=
  match scopes.getLast? with
  | some i => path.steps[i]?.bind Step.node?
  | none => path.ancestry.parentOfKey.node?

section Collecting

variable {path around : Path} {name text : String} {nesting : Nesting}

/-- The list above the mapping of a play's key is the root. -/
theorem length_of_isPlayParam? (play : isPlayParam? path none = some true) :
    (path.ancestry.parentOfKey.parent (some .sequence)).path?.map Path.length = some 1 := by
  rw [isPlayParam?] at play
  split at play
  next => cases play
  next short => simpa using short

/-- From a key of a play no way leads further out. -/
theorem not_heldBy_of_isPlayParam? (rooted : path.Rooted) (play : isPlayParam? path none = some true) :
    ¬ path.HeldBy around name nesting := by
  intro held
  have short := length_of_isPlayParam? play
  obtain ⟨front, mapping, pair, x, split, isMapping, isPair⟩ := held.inEntry rooted
  obtain ⟨key, value, kind⟩ := Document.kind_of_isPair isPair
  rw [Path.parentOfKey_of_pair split (Document.pair?_of_kind kind) isMapping] at short
  by_cases same : key = x
  · rw [if_pos same] at short
    cases rooted.above split (Document.isPair_of_isMapping isMapping) with
    | top =>
        rw [Ancestry.parent_of_top rfl] at short
        cases short
    | @entry before outer entry _ _ outerMapping ofEntry _ =>
        have whole : path.steps = before ++ [Step.node outer, .node entry, .node mapping, .node pair, .node x] := by
          simp [split]
        have isEntry := Document.isPair_of_pair? ofEntry
        rw [List.length_append, Ancestry.parent_of_entry whole isEntry rfl (by simp)] at short
        simp [Expect.fits, Document.isSequence_of_isMapping outerMapping, Ancestry.path?] at short
    | @item before list isSequence =>
        have whole : path.steps = before ++ [Step.node list, .node mapping, .node pair, .node x] := by simp [split]
        rw [List.length_append, Ancestry.parent_of_item whole (Document.isPair_of_isSequence isSequence) rfl] at short
        have atRoot : before = [] := by
          simpa [Expect.fits, isSequence, Ancestry.path?, Path.upTo, Path.length, whole] using short
        obtain ⟨front, outer, entry, key, back, apart, long, -⟩ := held.parts rooted
        have lengths := congrArg List.length (whole.symm.trans apart)
        simp only [atRoot, List.length_append, List.length_cons, List.length_nil] at lengths
        omega
  · rw [if_neg same, Ancestry.parent_of_top rfl] at short
    cases short

theorem varsAt_of_heldBy (held : path.HeldBy around name nesting) (rooted : path.Rooted) {i : Nat}
    (above : i + 3 ≤ around.length) : varsAt around i = varsAt path i := by
  rw [varsAt, varsAt, held.steps_eq rooted above, held.doc_eq]

theorem scopedVars_of_heldBy (held : path.HeldBy around name nesting) (rooted : path.Rooted) {i : Nat}
    (size : around.length = i + 3) (owner : around.ancestry.parentOfKey = ⟨around, some i⟩) :
    scopedVars around = varsAt path i := by
  rw [← varsAt_of_heldBy held rooted (by omega)]
  rw [scopedVars, owner]
  rfl

theorem nextScope_min (s : Nat) : nextScope (min s scopeLimit) = min (s + 1) scopeLimit := by
  rw [nextScope]
  omega

theorem varsOf_cons (path : Path) (i : Nat) (scopes : List Nat) (first : Nat) :
    varsOf path (i :: scopes) first =
      (varsAt path i).map (·, min first scopeLimit) ++ varsOf path scopes (first + 1) := rfl

theorem varsOf_congr {scopes : List Nat} (same : ∀ i ∈ scopes, varsAt around i = varsAt path i) (first : Nat) :
    varsOf around scopes first = varsOf path scopes first := by
  induction scopes generalizing first with
  | nil => rfl
  | cons i scopes ih =>
      rw [varsOf_cons, varsOf_cons, same i List.mem_cons_self, ih fun j among => same j (List.mem_cons_of_mem i among)]

/-- The variables of the entries around are those of the mappings that are gone out to, from the innermost to the
    outermost, in ascending scopes up to the last one that is told apart. -/
theorem enclosingVars_eq (rooted : path.Rooted) (scalar : path.keyName? = some text) (fuel : Nat)
    (enough : path.length < fuel) (s : Nat) : ∃ (scopes : List Nat) (last : Path),
      enclosingVars fuel path (min s scopeLimit) =
        (varsOf path scopes (s + 1), last, min (s + scopes.length) scopeLimit) ∧
      scopes.Pairwise (· > ·) ∧ (∀ i, i ∈ scopes ↔ path.Scope i) ∧
      last.doc = path.doc ∧ last.ancestry.parentOfKey.node? = outermost? path scopes := by
  induction fuel generalizing path text s with
  | zero => exact absurd enough (Nat.not_lt_zero _)
  | succ fuel ih =>
      obtain ⟨front, x, split, isText⟩ := Path.exists_last_of_keyName? scalar
      have leads (outer : Path) : enclosingEntry? path = some outer ↔ ∃ name nesting, path.HeldBy outer name nesting :=
        enclosingEntry?_eq_some_iff rooted split (Document.isPair_of_scalar? isText)
      -- Where no entry is around, no mapping is gone out to.
      have alone (nowhere : ∀ around name nesting, ¬ path.HeldBy around name nesting) :
          ∀ i, i ∈ [] ↔ path.Scope i := by
        intro i
        refine iff_of_false List.not_mem_nil fun scope => ?_
        obtain ⟨around, name, nesting, held⟩ := scope.held rooted scalar
        exact nowhere around name nesting held
      rw [enclosingVars]
      split
      next play =>
          exact ⟨[], path, rfl, .nil, alone fun _ _ _ => not_heldBy_of_isPlayParam? rooted play, rfl, rfl⟩
      next other =>
          split
          next nowhere =>
              refine ⟨[], path, rfl, .nil, alone fun around name nesting held => ?_, rfl, rfl⟩
              have found := (leads around).2 ⟨name, nesting, held⟩
              rw [nowhere] at found
              cases found
          next outer found =>
              obtain ⟨name, nesting, held⟩ := (leads outer).1 found
              have shorter := held.shorter
              obtain ⟨scopes, last, collected, descending, reached, doc, outermost⟩ :=
                ih (held.rooted rooted) (held.keyName? rooted) (by omega) (s + 1)
              obtain ⟨i, size, owner⟩ := held.parentOfKey_index rooted
              have inside (j : Nat) (among : j ∈ scopes) : j < i := by
                have further := ((reached j).1 among).further
                omega
              refine ⟨i :: scopes, last, ?_, List.pairwise_cons.2 ⟨inside, descending⟩, ?_, doc.trans held.doc_eq, ?_⟩
              · have further : varsOf outer scopes (s + 1 + 1) = varsOf path scopes (s + 1 + 1) := by
                  apply varsOf_congr
                  intro j among
                  have less := inside j among
                  exact varsAt_of_heldBy held rooted (by omega)
                have number : s + 1 + scopes.length = s + (i :: scopes).length := by
                  rw [List.length_cons]
                  omega
                dsimp only
                rw [nextScope_min, collected, varsOf_cons, further, number,
                  scopedVars_of_heldBy held rooted size owner]
              · intro j
                rw [held.scope_iff rooted scalar, List.mem_cons, reached, size]
                simp
              · rw [outermost, outermost?, outermost?, List.getLast?_cons]
                cases atEnd : scopes.getLast? with
                | none =>
                    dsimp only
                    rw [Option.getD_none, held.steps_eq rooted (by omega), owner]
                    rfl
                | some j =>
                    have less := inside j (List.mem_of_getLast? atEnd)
                    dsimp only
                    rw [Option.getD_some, held.steps_eq rooted (by omega)]

/-- Prompts of a mapping, and behind them the keys of its files. -/
def promptsAndFiles (path : Path) (uri : Url) (fs : Files.FileView) (play : NodeId) (scope : Nat) :
    List (String × Nat) :=
  (promptedNames path.doc play).map (·, min scope scopeLimit) ++
    (playFileVariables fs uri path.doc play).map (·, min (scope + 1) scopeLimit)

/-- What is visible are the variables of the mappings that are gone out to, and prompts and files of the outermost. -/
theorem visibleVariables_eq (rooted : path.Rooted) (scalar : path.keyName? = some text) (uri : Url)
    (fs : Files.FileView) : ∃ scopes : List Nat, scopes.Pairwise (· > ·) ∧ (∀ i, i ∈ scopes ↔ path.Scope i) ∧
      visibleVariables path uri fs = varsOf path scopes 1 ++
        (outermost? path scopes).toList.flatMap fun play => promptsAndFiles path uri fs play (scopes.length + 1) := by
  obtain ⟨scopes, last, collected, descending, reached, doc, outermost⟩ :=
    enclosingVars_eq rooted scalar (path.length + 1) (Nat.lt_succ_self _) 0
  refine ⟨scopes, descending, reached, ?_⟩
  rw [Nat.zero_min, Nat.zero_add, Nat.zero_add] at collected
  unfold visibleVariables
  generalize enclosingVars (path.length + 1) path 0 = found at collected ⊢
  subst collected
  simp only [outermost, doc]
  cases outermost? path scopes with
  | none => simp
  | some play => simp [promptsAndFiles, nextScope_min]

theorem scope_le_of_mem_varsOf {scopes : List Nat} {first : Nat} {v : String × Nat}
    (among : v ∈ varsOf path scopes first) :
    min first scopeLimit ≤ v.2 ∧ v.2 ≤ min (first + scopes.length) scopeLimit := by
  induction scopes generalizing first with
  | nil => cases among
  | cons i scopes ih =>
      rw [varsOf_cons] at among
      rw [List.length_cons]
      rcases List.mem_append.1 among with here | further
      · obtain ⟨name, -, rfl⟩ := List.mem_map.1 here
        dsimp only
        omega
      · have bounds := ih further
        omega

/-- Names of one scope. -/
theorem ascending_map (names : List String) (scope : Nat) :
    (names.map (·, scope)).Pairwise fun (v w : String × Nat) => v.2 ≤ w.2 := by
  rw [List.pairwise_map]
  exact List.pairwise_of_forall fun _ _ => Nat.le_refl scope

theorem ascending_varsOf (path : Path) (scopes : List Nat) (first : Nat) :
    (varsOf path scopes first).Pairwise fun v w => v.2 ≤ w.2 := by
  induction scopes generalizing first with
  | nil => exact .nil
  | cons i scopes ih =>
      rw [varsOf_cons, List.pairwise_append]
      refine ⟨ascending_map _ _, ih (first + 1), fun v here w further => ?_⟩
      obtain ⟨name, -, rfl⟩ := List.mem_map.1 here
      have bounds := scope_le_of_mem_varsOf further
      dsimp only
      omega

theorem ascending_promptsAndFiles (path : Path) (uri : Url) (fs : Files.FileView) (play : NodeId) (scope : Nat) :
    (promptsAndFiles path uri fs play scope).Pairwise fun v w => v.2 ≤ w.2 := by
  rw [promptsAndFiles, List.pairwise_append]
  refine ⟨ascending_map _ _, ascending_map _ _, fun v prompt w file => ?_⟩
  obtain ⟨_, -, rfl⟩ := List.mem_map.1 prompt
  obtain ⟨_, -, rfl⟩ := List.mem_map.1 file
  dsimp only
  omega

theorem scope_le_of_mem_promptsAndFiles {uri : Url} {fs : Files.FileView} {play : NodeId} {scope : Nat}
    {v : String × Nat} (among : v ∈ promptsAndFiles path uri fs play scope) : min scope scopeLimit ≤ v.2 := by
  rcases List.mem_append.1 among with prompt | file
  · obtain ⟨_, -, rfl⟩ := List.mem_map.1 prompt
    exact Nat.le_refl _
  · obtain ⟨_, -, rfl⟩ := List.mem_map.1 file
    dsimp only
    omega

/-- Variables come in the order of their scopes. -/
theorem ascending_visibleVariables (rooted : path.Rooted) (scalar : path.keyName? = some text) (uri : Url)
    (fs : Files.FileView) : (visibleVariables path uri fs).Pairwise fun v w => v.2 ≤ w.2 := by
  obtain ⟨scopes, -, -, visible⟩ := visibleVariables_eq rooted scalar uri fs
  rw [visible, List.pairwise_append]
  refine ⟨ascending_varsOf path scopes 1, ?_, ?_⟩
  · cases outermost? path scopes with
    | none => exact .nil
    | some play => simpa using ascending_promptsAndFiles path uri fs play (scopes.length + 1)
  · intro v here w further
    obtain ⟨play, -, further⟩ := List.mem_flatMap.1 further
    have inner := (scope_le_of_mem_varsOf here).2
    have outer := scope_le_of_mem_promptsAndFiles further
    omega

end Collecting

section Offered

variable {r : Request} {p : Prepared} {path : Path} {text : String}

/-- Ranked variables are the visible ones, in the same order. -/
theorem ranked_template (rooted : path.Rooted) (scalar : path.keyName? = some text) :
    (ranked r p path .template).map (fun c => (c.label, c.priority)) = visibleVariables path r.uri r.fs := by
  have ascending := ascending_visibleVariables rooted scalar r.uri r.fs
  have start : ranked r p path .template = rank (variableCandidates (visibleVariables path r.uri r.fs)) := rfl
  rw [start]
  generalize visibleVariables path r.uri r.fs = vars at ascending
  have priorities : (variableCandidates vars).Pairwise fun a b => a.priority ≤ b.priority := by
    rw [variableCandidates, List.pairwise_map]
    exact ascending
  rw [rank_of_ascending _ priorities]
  apply List.ext_getElem
  · simp [variableCandidates]
  · intro i _ _
    simp [variableCandidates, Candidate.make]

theorem exists_keyName?_of_insideTemplate (inside : p.insideTemplate path = true) :
    ∃ text, path.keyName? = some text := by
  rw [Prepared.insideTemplate] at inside
  split at inside
  next => cases inside
  next text scalar => exact ⟨text, scalar⟩

/-- Inside a template the variables are offered of each mapping on the path from which it goes on plainly, through
    entries with text keys and lists of mappings, to an entry further in; so not those of the mapping that the
    template's own entry stands in, and none above a template in a list. Inner mappings come first, and prompts and then
    files of the outermost mapping last. The ranking keeps this order, also where the numbers of scopes end. -/
theorem template_variables_of_entries_around (r : Request) (p : Prepared) (path : Path) (rooted : path.Rooted)
    (inside : p.insideTemplate path = true) :
    (Prepared.ofText? r.text.toList r.position = some p → cursorPath? p = some path →
      classify? r p path = some .template → complete r = some (ranked r p path .template)) ∧
    (∀ place, cursorPath? p = some place → place.Rooted ∧ place.doc.OneTree) ∧
    ∃ scopes : List Nat, scopes.Pairwise (· > ·) ∧ (∀ i, i ∈ scopes ↔ path.Scope i) ∧
      visibleVariables path r.uri r.fs = varsOf path scopes 1 ++ (outermost? path scopes).toList.flatMap (fun play =>
        promptsAndFiles path r.uri r.fs play (scopes.length + 1)) ∧
      (ranked r p path .template).map (fun c => (c.label, c.priority)) = visibleVariables path r.uri r.fs := by
  obtain ⟨text, scalar⟩ := exists_keyName?_of_insideTemplate inside
  constructor
  · intro prepared cursor classified
    exact complete_of_cursor prepared cursor classified
  constructor
  · intro place cursor
    exact rooted_cursorPath? cursor
  · obtain ⟨scopes, descending, reached, visible⟩ := visibleVariables_eq rooted scalar r.uri r.fs
    exact ⟨scopes, descending, reached, visible, ranked_template rooted scalar⟩

end Offered

/-! ### A template in a task, and one beside its variables -/

/-- A play with variables, and a task in it with variables and a message. -/
def messageText : List Char := linesOf [
  "- hosts: all",
  "  vars:",
  "    port: 1",
  "  tasks:",
  "    - vars:",
  "        user: x",
  "      debug:",
  "        msg: \"\x7b\x7b  \x7d\x7d\""]

/-- A request in the message. -/
def messageRequest : Request := { plainRequest with text := String.ofList messageText, position := ⟨7, 17⟩ }

/-- Its text with the placeholder. -/
def messagePrepared : Prepared := (Prepared.ofText? messageText messageRequest.position).get (by decide +kernel)

/-- The tree of the text, up to its end. -/
def messageTree (stop : Nat) : Concrete :=
  streamOf stop (sequenceAt none 0 stop 0 [itemAt 0 stop 0 (mappingAt none 2 stop 0 [
    entryAt 2 12 2 7 (wordAt .value 9 12 2 9),
    entryAt 15 32 2 19 (mappingAt (some .value) 25 32 2 [entryAt 25 32 4 29 (wordAt .value 31 32 4 10)]),
    entryAt 35 stop 2 40 (sequenceAt (some .value) 46 stop 2 [itemAt 46 stop 4 (mappingAt none 48 stop 4 [
      entryAt 48 69 6 52 (mappingAt (some .value) 62 69 6 [entryAt 62 69 8 66 (wordAt .value 68 69 8 14)]),
      entryAt 76 stop 6 81 (mappingAt (some .value) 91 stop 6 [
        entryAt 91 (stop - 1) 8 94 (quotedAt 96 (stop - 1) 8 13)])])])])])

/-- The place of the message. -/
def messageInTask : Path := (placeIn? messagePrepared (messageTree 107)).get (by decide +kernel)

/-- A message sees the variables of its task before those of the play. -/
theorem message_sees_task_before_play : messageInTask.Rooted ∧
    messagePrepared.insideTemplate messageInTask = true ∧
    (ReadAs messageRequest.text (messageTree 105) → ReadAs (String.ofList messagePrepared.patched) (messageTree 107) →
      complete messageRequest = some (ranked messageRequest messagePrepared messageInTask .template)) ∧
    (ranked messageRequest messagePrepared messageInTask .template).map (fun c => (c.label, c.priority)) =
      [("user", 1), ("port", 2)] := by
  have rooted : messageInTask.Rooted := by decide +kernel
  have inside : messagePrepared.insideTemplate messageInTask = true := by decide +kernel
  have offered := template_variables_of_entries_around messageRequest messagePrepared messageInTask rooted inside
  obtain ⟨-, -, scopes, -, -, -, listed⟩ := offered
  refine ⟨rooted, inside, fun read => ?_, ?_⟩
  · have chars : messageRequest.text.toList = messageText := String.toList_ofList
    have prepared : Prepared.ofText? messageRequest.text.toList messageRequest.position = some messagePrepared := by
      rw [chars]
      exact (Option.some_get _).symm
    have playbook : isPlaybook messageRequest.text = true := by
      rw [isPlaybook_of_readAs read, chars]
      decide +kernel
    have classified : classify? messageRequest messagePrepared messageInTask = some .template :=
      classify?_of_inside (by decide +kernel) playbook inside
    exact complete_of_readAs prepared (Option.some_get _).symm classified
  · rw [listed]
    decide +kernel

/-- A play and a task in it with a name beside its variables. -/
def nameText : List Char := linesOf [
  "- hosts: all",
  "  tasks:",
  "    - vars:",
  "        task_port: 1",
  "      name: \"\x7b\x7b  \x7d\x7d\""]

/-- A request in the name. -/
def nameRequest : Request := { plainRequest with text := String.ofList nameText, position := ⟨4, 16⟩ }

/-- Its text with the placeholder. -/
def namePrepared : Prepared := (Prepared.ofText? nameText nameRequest.position).get (by decide +kernel)

/-- The tree of the text, up to its end. -/
def nameTree (stop : Nat) : Concrete :=
  streamOf stop (sequenceAt none 0 stop 0 [itemAt 0 stop 0 (mappingAt none 2 stop 0 [
    entryAt 2 12 2 7 (wordAt .value 9 12 2 9),
    entryAt 15 stop 2 20 (sequenceAt (some .value) 26 stop 2 [itemAt 26 stop 4 (mappingAt none 28 stop 4 [
      entryAt 28 54 6 32 (mappingAt (some .value) 42 54 6 [entryAt 42 54 8 51 (wordAt .value 53 54 8 19)]),
      entryAt 61 (stop - 1) 6 65 (quotedAt 67 (stop - 1) 6 12)])])])])

/-- The place of the name. -/
def nameBesideVars : Path := (placeIn? namePrepared (nameTree 78)).get (by decide +kernel)

/-- A template in an entry of the task itself does not see the variables of the task. -/
theorem name_misses_vars_of_own_task : nameBesideVars.Rooted ∧ namePrepared.insideTemplate nameBesideVars = true ∧
    "task_port" ∈ varsAt nameBesideVars 4 ∧ visibleVariables nameBesideVars nameRequest.uri nameRequest.fs = [] ∧
    (ReadAs nameRequest.text (nameTree 76) → ReadAs (String.ofList namePrepared.patched) (nameTree 78) →
      complete nameRequest = some []) := by
  have inside : namePrepared.insideTemplate nameBesideVars = true := by decide +kernel
  have unseen : visibleVariables nameBesideVars nameRequest.uri nameRequest.fs = [] := by decide +kernel
  refine ⟨by decide +kernel, inside, by decide +kernel, unseen, fun read => ?_⟩
  have chars : nameRequest.text.toList = nameText := String.toList_ofList
  have prepared : Prepared.ofText? nameRequest.text.toList nameRequest.position = some namePrepared := by
    rw [chars]
    exact (Option.some_get _).symm
  have playbook : isPlaybook nameRequest.text = true := by
    rw [isPlaybook_of_readAs read, chars]
    decide +kernel
  have classified : classify? nameRequest namePrepared nameBesideVars = some .template :=
    classify?_of_inside (by decide +kernel) playbook inside
  have nothing : rank (contextCandidates nameRequest namePrepared nameBesideVars .template) = [] := by
    rw [contextCandidates, unseen]
    simp [rank, variableCandidates]
  rw [← nothing]
  exact complete_of_readAs prepared (Option.some_get _).symm classified

end Completion

end PlaybookServer
