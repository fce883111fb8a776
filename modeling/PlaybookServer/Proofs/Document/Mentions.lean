/-
Module: PlaybookServer.Proofs.Document.Mentions
Purpose: The anchors and references of a concrete tree, in the order in which lowering comes by them. A node's anchors
  come before its content, a pair's key before its value, and unplaced regions where they stand; what lowering does not
  go into is not mentioned. A reference dangles if no anchor of its name is mentioned before it.
Main exports: Mention, mentions, documentMentions, dangling, dangling_append_singleton, Met
-/
import Mathlib.Data.List.Basic
import PlaybookServer.Document.Lowering

namespace PlaybookServer

open Text Source

/-- An anchor, or a reference with its bytes. -/
inductive Mention where
  | anchor (name : String)
  | reference (name : String) (span : Span)
deriving DecidableEq

/-- The name an anchor gives. -/
def anchorName (text : List Char) (i : ConcreteInfo) : String :=
  String.ofList ((i.span.slice text).dropWhile (· = '&'))

/-- The name a reference looks for. -/
def referenceName (text : List Char) (i : ConcreteInfo) : String :=
  String.ofList ((i.span.slice text).dropWhile (· = '*'))

/-- The anchors among the children of a node. -/
def anchorMentions (text : List Char) (cs : List Concrete) : List Mention :=
  (cs.filter fun c => c.kind = .anchor).map fun c => .anchor (anchorName text c.info)

/-! ### Going through a concrete tree -/

mutual

/-- The mentions in a node. -/
def mentions (text : List Char) : Concrete → List Mention
  | .node i cs =>
    match i.kind with
    | .blockNode | .flowNode => anchorMentions text cs ++ (contentMentions text cs).getD []
    | .blockMapping => pairMentions text false cs
    | .flowMapping => pairMentions text true cs
    | .blockSequence => itemMentions text false cs
    | .flowSequence => itemMentions text true cs
    | .flowPair => (roleMentions text .key cs).getD [] ++ (roleMentions text .value cs).getD []
    | .reference => [.reference (referenceName text i) i.span]
    | .plainScalar | .doubleQuoteScalar | .singleQuoteScalar | .blockScalar => []
    | _ => (firstMentions text cs).getD []

/-- The mentions in the content of a node, if it has content. -/
def contentMentions (text : List Char) : List Concrete → Option (List Mention)
  | [] => none
  | .node i cs :: rest =>
    if i.kind.counts && i.kind ≠ .anchor && i.kind ≠ .tag then some (mentions text (.node i cs))
    else contentMentions text rest

/-- The mentions in the first content among nodes or in an unplaced region, if there is content. -/
def firstMentions (text : List Char) : List Concrete → Option (List Mention)
  | [] => none
  | .node i cs :: rest =>
    if i.kind.isContent then some (mentions text (.node i cs))
    else if i.kind = .error then (firstMentions text cs).or (firstMentions text rest)
    else firstMentions text rest

/-- The mentions in the first node with a role, if there is one. -/
def roleMentions (text : List Char) (role : Role) : List Concrete → Option (List Mention)
  | [] => none
  | .node i cs :: rest =>
    if i.role = some role then some (mentions text (.node i cs)) else roleMentions text role rest

/-- The mentions in the pairs among nodes, those in unplaced regions included. -/
def pairMentions (text : List Char) (flow : Bool) : List Concrete → List Mention
  | [] => []
  | .node i cs :: rest =>
    (if i.kind = (if flow then .flowPair else .blockMappingPair) then
      (roleMentions text .key cs).getD [] ++ (roleMentions text .value cs).getD []
    else if flow && i.kind = .flowNode then mentions text (.node i cs)
    else if i.kind = .error then pairMentions text flow cs
    else []) ++ pairMentions text flow rest

/-- The mentions in the items among nodes, those in unplaced regions included. -/
def itemMentions (text : List Char) (flow : Bool) : List Concrete → List Mention
  | [] => []
  | .node i cs :: rest =>
    (if flow && (i.kind = .flowNode || i.kind = .flowPair) then mentions text (.node i cs)
    else if !flow && i.kind = .blockSequenceItem then (firstMentions text cs).getD []
    else if i.kind = .error then itemMentions text flow cs
    else []) ++ itemMentions text flow rest

end

/-- What is said about the references whose name no anchor before them has. -/
def dangling (met : List Mention) : List Fault :=
  (List.range met.length).filterMap fun i =>
    match met[i]? with
    | some (Mention.reference name span) =>
      if Mention.anchor name ∈ met.take i then none
      else some ⟨.reference, "Aliased anchor not found: " ++ name, span⟩
    | _ => none

/-- The name of an anchor. -/
def Mention.anchor? : Mention → Option String
  | .anchor name => some name
  | .reference _ _ => none

/-- The node of a reference. -/
def Mention.node? : Mention → Option Node
  | .anchor _ => none
  | .reference name span => some ⟨.reference name, span⟩

/-- Whether a node is a reference. -/
def NodeKind.isReference : NodeKind → Bool
  | .reference _ => true
  | _ => false

/-- The fault of a reference after other mentions. -/
theorem dangling_append_singleton (met : List Mention) (last : Mention) : dangling (met ++ [last]) = dangling met ++
    match last with
    | .anchor _ => []
    | .reference name span =>
      if .anchor name ∈ met then [] else [⟨.reference, "Aliased anchor not found: " ++ name, span⟩] := by
  rw [dangling, dangling, List.length_append, List.length_singleton, List.range_succ, List.filterMap_append]
  congr 1
  · refine List.filterMap_congr fun i among => ?_
    have small : i < met.length := List.mem_range.1 among
    rw [List.getElem?_append_left small, List.take_append_of_le_length (Nat.le_of_lt small)]
  · cases last with
    | anchor name => simp
    | reference name span => by_cases known : .anchor name ∈ met <;> simp [known]

example : dangling [.reference "a" ⟨1, 3⟩, .anchor "a", .reference "a" ⟨8, 10⟩] =
    [⟨.reference, "Aliased anchor not found: a", ⟨1, 3⟩⟩] := by decide

/-- What the mentions so far have left in the state of lowering: the names of the anchors, the nodes of the references
    and the faults of those that dangle. -/
structure Met (met : List Mention) (s : Lowering) : Prop where
  anchors : s.anchors = (met.filterMap Mention.anchor?).reverse
  references : s.nodes.toList.filter (fun n => n.kind.isReference) = met.filterMap Mention.node?
  faults : s.faults.filter (fun f => f.kind = .reference) = dangling met

end PlaybookServer
