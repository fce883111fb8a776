/-
Module: PlaybookServer.Proofs.Completion.Cursor
Purpose: From a request to the place of its cursor and to its answer. The tree that the parser reads a text as decides
  where the cursor stands: lowered and walked down, it leads to a path from the root of a document. With this path and
  its context the request is answered by the ranked candidates. The trees of texts in block form are given by the bytes
  and the columns of their parts.
Main exports: ReadAs, placeIn?, cursorPath?_of_readAs, isPlaybook_of_readAs, rooted_cursorPath?, complete_of_readAs,
  streamOf, sequenceAt, mappingAt
-/
import PlaybookServer.Completion.Complete
import PlaybookServer.Proofs.Document.Ancestry

namespace PlaybookServer.Completion

open Text Source Playbook

/-! ### The place of a cursor -/

/-- The parser reads a text as a tree. -/
def ReadAs (text : String) (tree : Concrete) : Prop := parseTree (SourceText.ofString text) = tree

/-- The path to a cursor whose text is read as a tree. -/
def placeIn? (p : Prepared) (tree : Concrete) : Option Path := do
  let path ← pathAt? (Stream.ofConcrete p.patched tree) p.offset true
  let _ ← path.lastNode?
  return path

/-- Whether a path ends at a key of a play, a block, a role entry or a task. -/
def atKnownKey (r : Request) (path : Path) : Bool :=
  isPlayParam? path (some r.uri.text) = some true || isBlockParam path || isRoleParam path || isTaskParam path

/-- Whether a text that is read as a tree looks like a playbook. -/
def isPlaybookIn (text : List Char) (tree : Concrete) : Bool :=
  !isBlankLine text && match (Stream.ofConcrete text tree).documents.head? with
    | some d => d.root.any fun root => d.isSequence root && (d.items root).any fun x => (d.keys x).any marksPlay
    | none => false

section Place

variable {r : Request} {p : Prepared} {path : Path} {tree : Concrete}

theorem cursorPath?_of_readAs (read : ReadAs (String.ofList p.patched) tree) : cursorPath? p = placeIn? p tree := by
  rw [cursorPath?, Stream.ofText, read, String.toList_ofList]
  rfl

theorem isPlaybook_of_readAs {text : String} (read : ReadAs text tree) :
    isPlaybook text = isPlaybookIn text.toList tree := by
  rw [isPlaybook, isPlaybookIn, Stream.ofText, read]
  cases isBlankLine text.toList with
  | true => rfl
  | false =>
      cases (Stream.ofConcrete text.toList tree).documents.head? with
      | none => rfl
      | some d => cases root : d.root with
          | none => simp [root]
          | some _ => simp [root]

/-- The path to a cursor goes down from the root of its document, a tree. -/
theorem rooted_cursorPath? (cursor : cursorPath? p = some path) : path.Rooted ∧ path.doc.OneTree := by
  unfold cursorPath? at cursor
  simp only [Option.bind_eq_bind, Option.bind_eq_some_iff, Option.pure_def, Option.some.injEq] at cursor
  obtain ⟨found, atCursor, -, -, rfl⟩ := cursor
  rw [Stream.ofText] at atCursor
  exact Path.rooted_pathAt? (oneTree_of_mem_documents _ _) atCursor

/-- Only a key belongs to an item of a list. -/
theorem atKey_of_listed {i : Nat} (listed : (path.ancestry.parentOfKey.parent (some .sequence)).index = some i) :
    path.AtKey := by
  obtain ⟨m, owner⟩ := Ancestry.index_of_parent listed
  exact Path.atKey_of_parentOfKey owner

/-- A key of a play, a block, a role entry or a task is the key of an entry. -/
theorem atKey_of_atKnownKey (known : atKnownKey r path = true) : path.AtKey := by
  cases index : (path.ancestry.parentOfKey.parent (some .sequence)).index with
  | some i => exact atKey_of_listed index
  | none =>
      have play : isPlayParam? path (some r.uri.text) = some false := by simp [isPlayParam?, Ancestry.path?, index]
      have block : isBlockParam path = false := by simp [isBlockParam, Ancestry.node?, Ancestry.get?, index]
      have role : isRoleParam path = false := by
        rw [isRoleParam, Ancestry.parent_of_top (by rw [index]; rfl)]
        rfl
      have task : isTaskParam path = false := by simp [isTaskParam, Ancestry.path?, index]
      simp [atKnownKey, play, block, role, task] at known

/-- At other places the template around the cursor decides, and else the options of a module. -/
theorem classify?_of_other (other : atKnownKey r path = false) : classify? r p path =
    if isPlaybook r.text && p.insideTemplate path then some .template
    else match possibleOptions? r path with
      | some options => some (.optionKey options)
      | none => (valueOption? r path).map .optionValue := by
  simp only [atKnownKey, Bool.or_eq_false_iff, decide_eq_false_iff_not] at other
  obtain ⟨⟨⟨play, block⟩, role⟩, task⟩ := other
  cases possible : possibleOptions? r path with
  | none => simp [classify?, play, block, role, task, possible]
  | some options => simp [classify?, play, block, role, task, possible]

theorem classify?_of_inside (other : atKnownKey r path = false) (playbook : isPlaybook r.text = true)
    (inside : p.insideTemplate path = true) : classify? r p path = some .template := by
  rw [classify?_of_other other, playbook, inside]
  rfl

theorem classify?_of_outside (other : atKnownKey r path = false) (outside : p.insideTemplate path = false) :
    classify? r p path = match possibleOptions? r path with
      | some options => some (.optionKey options)
      | none => (valueOption? r path).map .optionValue := by
  rw [classify?_of_other other, outside, Bool.and_false]
  rfl

/-- At a cursor with a context a request is answered by the ranked candidates. -/
theorem complete_of_cursor {context : Context} (prepared : Prepared.ofText? r.text.toList r.position = some p)
    (cursor : cursorPath? p = some path) (classified : classify? r p path = some context) :
    complete r = some (rank (contextCandidates r p path context)) := by
  simp only [complete, Option.bind_eq_bind, Option.bind_eq_some_iff]
  exact ⟨p, prepared, path, cursor, context, classified, rfl⟩

/-- A request is answered from the place that the tree of its prepared text leads to. -/
theorem complete_of_readAs {context : Context} (prepared : Prepared.ofText? r.text.toList r.position = some p)
    (place : placeIn? p tree = some path) (classified : classify? r p path = some context)
    (read : ReadAs (String.ofList p.patched) tree) : complete r = some (rank (contextCandidates r p path context)) :=
  complete_of_cursor prepared ((cursorPath?_of_readAs read).trans place) classified

end Place

/-! ### Block text and its trees -/

/-- A text of lines. -/
def linesOf (lines : List String) : List Char := lines.flatMap fun line => line.toList ++ ['\n']

/-- A node without faults. -/
def nodeAt (kind : Kind) (start stop outer : Nat) (children : List Concrete) (role : Option Role := none) : Concrete :=
  .node { kind, start, stop, role, ownerColumn := outer } children

/-- A word that starts in a column, in a mapping that starts in another. -/
def wordAt (role : Role) (start stop outer column : Nat) : Concrete :=
  nodeAt .flowNode start stop outer
    [nodeAt .plainScalar start stop outer [nodeAt .stringScalar start stop column []]] (some role)

/-- A text between double quotes, without escapes. -/
def quotedAt (start stop outer column : Nat) : Concrete :=
  nodeAt .flowNode start stop outer [nodeAt .doubleQuoteScalar start stop outer
    [nodeAt (.mark "\"") start (start + 1) column [], nodeAt (.mark "\"") (stop - 1) stop column []]] (some .value)

/-- An entry of a mapping that starts in a column. Its key, a word, stops at a colon. -/
def entryAt (start stop column colon : Nat) (value : Option Concrete) : Concrete :=
  nodeAt .blockMappingPair start stop column
    (wordAt .key start colon column column :: nodeAt (.mark ":") colon (colon + 1) column [] :: value.toList)

/-- A mapping inside a block that starts in a column. -/
def mappingAt (role : Option Role) (start stop outer : Nat) (entries : List Concrete) : Concrete :=
  nodeAt .blockNode start stop outer [nodeAt .blockMapping start stop outer entries] role

/-- A list inside a block that starts in a column. -/
def sequenceAt (role : Option Role) (start stop outer : Nat) (items : List Concrete) : Concrete :=
  nodeAt .blockNode start stop outer [nodeAt .blockSequence start stop outer items] role

/-- An item of a list that starts in a column. -/
def itemAt (start stop column : Nat) (content : Concrete) : Concrete :=
  nodeAt .blockSequenceItem start stop column [nodeAt (.mark "-") start (start + 1) column [], content]

/-- A text of one document, up to its end. -/
def streamOf (stop : Nat) (content : Concrete) : Concrete :=
  nodeAt .stream 0 stop 0 [nodeAt .document 0 stop 0 [content]]

end PlaybookServer.Completion
