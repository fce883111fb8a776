/-
Module: PlaybookServer.Source.Grammar
Purpose: The grammar of a YAML stream over positioned tokens. Every form says on which row and how far
  indented it may start (`Lead`) and, for flow content, whether it stays on one row (`Rows`): a value
  that serves as an implicit key has to. Alternatives are finite sums of sequences of steps, written
  with `+` and `*`. A form that shows up as a node of the tree names its kind once (`Form.shown?`); a
  step may override that kind or give its node a role in a pair.
Main exports: Form, Form.all, Form.shown?, Phrase, Step, Symbol, phrase
-/
import PlaybookServer.Source.Token

namespace PlaybookServer.Source

/-- How many rows a piece of flow content takes. -/
inductive Rows where
  | one
  | many
  | any
deriving DecidableEq, Repr, Inhabited, Hashable

/-- Flow content that carries its own delimiters. -/
inductive Delimited where
  | sequence
  | mapping
  | double
  | single
deriving DecidableEq, Repr, Inhabited, Hashable

/-- The two ways of quoting. -/
inductive Quoting where
  | double
  | single
deriving DecidableEq, Repr, Inhabited, Hashable

/-- The two flow collections. -/
inductive Enclosure where
  | sequence
  | mapping
deriving DecidableEq, Repr, Inhabited, Hashable

/-- How a document starts: with its content, with a marker, or with directives and a marker. -/
inductive Opening where
  | bare
  | marked
  | directed
deriving DecidableEq, Repr, Inhabited, Hashable

/-- Things of which a form may hold any number. -/
inductive Repeated where
  | directive
  | parameter
  | entry
  | pair
  | textRow
  | doubleBreak
  | singleBreak
deriving DecidableEq, Repr, Inhabited, Hashable

/-- The forms of the grammar. -/
inductive Form where
  | stream
  /-- Later documents: whether the first one closed with a marker, and whether the last one does. -/
  | laterDocuments (afterClosed closed : Bool)
  | closedDocument (opening : Opening)
  | document (opening : Opening)
  | documentEnd
  | directive
  | yamlDirective
  | tagDirective
  | otherDirective
  | markedBody
  | anchor (lead : Lead)
  | properties (lead : Lead)
  /-- Properties that stay on one row. -/
  | rowProperties (lead : Lead)
  /-- Properties whose second part stands on a later row; only inside flow collections. -/
  | splitProperties (lead : Lead)
  | inlineSequenceNode
  | sequenceNodeBelow
  | deeperSequenceNode
  /-- A sequence at the indentation of the mapping that holds it. -/
  | levelSequenceNode (lead : Lead)
  | blockSequence (lead : Lead)
  | sequenceItem (lead : Lead)
  | itemBody
  | inlineMappingNode
  | mappingNodeBelow
  | deeperMappingNode
  | blockMapping (lead : Lead)
  | explicitBody
  | implicitBody
  | explicitPair (lead : Lead)
  | keyPart (lead : Lead)
  | valuePart (lead : Lead)
  | implicitPair (lead : Lead)
  | blockTextNode (lead : Lead)
  | blockText (lead : Lead)
  /-- A flow node inside block context. -/
  | blockFlow (rows : Rows) (lead : Lead)
  | delimited (rows : Rows) (lead : Lead)
  | undelimited (rows : Rows) (lead : Lead)
  | contentNode (content : Delimited) (rows : Rows) (lead : Lead)
  | content (content : Delimited) (rows : Rows) (lead : Lead)
  | plainNode (rows : Rows) (lead : Lead)
  | plain (rows : Rows) (lead : Lead)
  | flowPlain (rows : Rows) (lead : Lead)
  | referenceNode (lead : Lead)
  | reference (lead : Lead)
  | flowUndelimited (rows : Rows) (lead : Lead)
  | quotedRun (quoting : Quoting)
  | quotedBreak (quoting : Quoting)
  | flowNode (rows : Rows) (lead : Lead)
  | rowPairBody
  | rowPair
  | pairBody (within : Enclosure) (lead : Lead)
  | pair (within : Enclosure) (lead : Lead)
  | rowItem
  | brokenItem (within : Enclosure)
  | rowTail (within : Enclosure)
  | brokenTail (within : Enclosure)
  | rest (within : Enclosure)
  | rowItems
  | several (of : Repeated)
deriving DecidableEq, Repr, Inhabited, Hashable

/-- A symbol of the grammar. -/
inductive Symbol where
  | token (t : Token)
  | form (f : Form)
deriving DecidableEq, Repr, Inhabited

/-- One step of an alternative: a symbol, the kind it shows up as here if not its own, and its role. -/
structure Step where
  symbol : Symbol
  shown : Option Kind := none
  role : Option Role := none
deriving DecidableEq, Repr, Inhabited

/-- A finite choice of sequences of steps. -/
structure Phrase where
  alternatives : List (List Step)
deriving DecidableEq, Repr, Inhabited

namespace Phrase

/-- Choice. -/
instance : Add Phrase := ⟨fun a b => ⟨a.alternatives ++ b.alternatives⟩⟩

/-- One after the other, the first part varying slowest. -/
instance : Mul Phrase :=
  ⟨fun a b => ⟨a.alternatives.flatMap fun p => b.alternatives.map fun q => p ++ q⟩⟩

/-- A token. -/
def tok (mark : Mark) (lead : Lead := .inline) : Phrase := ⟨[[{ symbol := .token ⟨mark, lead⟩ }]]⟩

/-- A form. -/
def of (f : Form) : Phrase := ⟨[[{ symbol := .form f }]]⟩

/-- A phrase or nothing. -/
def opt (p : Phrase) : Phrase := ⟨p.alternatives ++ [[]]⟩

/-- A choice among several phrases. -/
def oneOf (ps : List Phrase) : Phrase := ⟨ps.flatMap Phrase.alternatives⟩

/-- Show every step as the given kind. -/
def shownAs (kind : Kind) (p : Phrase) : Phrase :=
  ⟨p.alternatives.map fun steps => steps.map fun s => { s with shown := some kind }⟩

/-- Give every step the given role. -/
def withRole (role : Role) (p : Phrase) : Phrase :=
  ⟨p.alternatives.map fun steps => steps.map fun s => { s with role := some role }⟩

end Phrase

open Phrase

/-! ### Order of the forms

The order is part of the meaning: where two trees for the same text are equally good, the one whose
first differing node comes earlier in this order is kept. -/

/-- The two leads of something that may stand on the current row or further down. -/
def openLeads : List Lead := [.inline, .deeper]

/-- All three leads. -/
def allLeads : List Lead := [.inline, .deeper, .level]

/-- Every form, in order. -/
def Form.all : List Form :=
  List.flatten [
   [.stream, .laterDocuments false false, .laterDocuments false true, .laterDocuments true false,
   .laterDocuments true true, .closedDocument .bare, .closedDocument .marked,
   .closedDocument .directed, .document .directed, .documentEnd, .document .marked, .directive,
   .yamlDirective, .tagDirective, .otherDirective, .document .bare, .markedBody],
   allLeads.map .anchor,
   openLeads.map .properties,
   allLeads.map .rowProperties,
   [.inlineSequenceNode, .sequenceNodeBelow, .deeperSequenceNode],
   allLeads.map .levelSequenceNode,
   allLeads.map .blockSequence,
   allLeads.map .sequenceItem,
   [.itemBody, .inlineMappingNode, .mappingNodeBelow, .deeperMappingNode,
      .blockMapping .inline, .blockMapping .deeper, .explicitBody, .implicitBody],
   allLeads.flatMap (fun l => [.explicitPair l, .keyPart l, .valuePart l, .implicitPair l]),
   openLeads.flatMap (fun l => [.blockTextNode l, .blockText l]),
   openLeads.flatMap (fun l =>
      [.blockFlow .any l, .delimited .any l, .undelimited .any l, .contentNode .sequence .any l,
       .contentNode .mapping .any l, .contentNode .double .any l, .contentNode .single .any l,
       .plainNode .any l, .plain .any l]),
   allLeads.flatMap (fun l =>
      [.blockFlow .one l, .delimited .one l, .undelimited .one l, .contentNode .sequence .one l,
       .contentNode .mapping .one l, .contentNode .double .one l, .contentNode .single .one l,
       .plainNode .one l, .plain .one l, .content .sequence .one l, .content .mapping .one l,
       .content .double .one l, .content .single .one l, .referenceNode l, .reference l]),
   openLeads.flatMap (fun l =>
      [.content .sequence .any l, .content .mapping .any l, .content .double .any l,
       .content .single .any l, .content .sequence .many l, .content .mapping .many l,
       .content .double .many l, .content .single .many l, .flowPlain .many l, .flowPlain .one l,
       .flowUndelimited .one l]),
   [.quotedRun .double, .quotedBreak .double, .quotedRun .single, .quotedBreak .single],
   openLeads.map .splitProperties,
   openLeads.flatMap (fun l => [.delimited .many l, .flowUndelimited .many l]),
   openLeads.flatMap (fun l => [.flowNode .one l, .flowNode .many l]),
   [.rowPairBody, .rowPair],
   [Enclosure.sequence, .mapping].flatMap (fun c => openLeads.map (.pairBody c)),
   openLeads.map (.pair .sequence),
   [.rowItem, .brokenItem .sequence],
   openLeads.map (.pair .mapping),
   [.brokenItem .mapping],
   [Enclosure.sequence, .mapping].flatMap (fun c => [.rowTail c, .brokenTail c, .rest c]),
   [.rowItems],
   [Repeated.directive, .parameter, .entry, .pair, .textRow, .doubleBreak, .singleBreak].map
      .several]

/-- The kind of node a form shows up as; a form without one passes its children up. -/
def Form.shown? : Form → Option Kind
  | .stream => some .stream
  | .closedDocument _ => some .document
  | .yamlDirective => some .yamlDirective
  | .tagDirective => some .tagDirective
  | .otherDirective => some .reservedDirective
  | .anchor _ => some .anchor
  | .inlineSequenceNode | .sequenceNodeBelow | .deeperSequenceNode | .levelSequenceNode _
  | .inlineMappingNode | .mappingNodeBelow | .deeperMappingNode | .blockTextNode _ => some .blockNode
  | .blockSequence _ => some .blockSequence
  | .sequenceItem _ => some .blockSequenceItem
  | .blockMapping _ => some .blockMapping
  | .explicitPair _ | .implicitPair _ => some .blockMappingPair
  | .blockText _ => some .blockScalar
  | .blockFlow _ _ | .flowNode _ _ => some .flowNode
  | .content .sequence _ _ => some .flowSequence
  | .content .mapping _ _ => some .flowMapping
  | .content .double _ _ => some .doubleQuoteScalar
  | .content .single _ _ => some .singleQuoteScalar
  | .plain _ _ | .flowPlain _ _ => some .plainScalar
  | .reference _ => some .reference
  | .rowPair | .pair _ _ => some .flowPair
  | _ => none

/-- Forms that hold a run of like parts; a run may be split anywhere without changing its meaning. -/
def Form.isRun : Form → Bool
  | .quotedRun _ | .several _ => true
  | _ => false

/-- Forms that, when they could either end or go on, go on. -/
def Form.goesOn : Form → Bool
  | .explicitPair _ => true
  | _ => false

/-! ### Alternatives of each form -/

/-- Any number of like parts, none included. -/
def anyOf (r : Repeated) : Phrase := opt (of (.several r))

/-- A document shown as such by whoever holds it. -/
def doc (f : Form) : Phrase := shownAs .document (of f)

/-- Documents without and with a closing marker. -/
def anyOpenDocument : Phrase := oneOf ([.bare, .marked, .directed].map fun o => doc (.document o))

/-- Documents with a closing marker; a lone marker counts as one. -/
def anyClosedDocument : Phrase :=
  oneOf ([.bare, .marked, .directed].map fun o => of (.closedDocument o)) + doc .documentEnd

/-- Later documents given what the first one and the last one end with. A document that directly
    follows an open one needs a start marker. -/
def laterDocuments (afterClosed closed : Bool) : Phrase :=
  let any := if closed then anyClosedDocument else anyOpenDocument
  let marked := if closed then of (.closedDocument .marked) else doc (.document .marked)
  (if afterClosed then any else marked)
  + of (.laterDocuments afterClosed false) * marked
  + of (.laterDocuments afterClosed true) * any

/-- The stream: nothing, or a first document and later ones. -/
def streamPhrase : Phrase :=
  let later := fun afterClosed =>
    of (.laterDocuments afterClosed false) + of (.laterDocuments afterClosed true)
  opt (anyOpenDocument + anyOpenDocument * later false
       + anyClosedDocument + anyClosedDocument * later true)
  * tok .endOfStream

/-- The two flow nodes that may stand where a block node may. -/
def eitherBlockFlow : Phrase := of (.blockFlow .any .inline) + of (.blockFlow .any .deeper)

/-- Block nodes that may follow on a row already begun or stand below it. -/
def nodesBelow : List Form := [.sequenceNodeBelow, .deeperSequenceNode]

/-- Sequences at the indentation of the mapping around them. -/
def levelSequences : List Form := allLeads.map .levelSequenceNode

/-- Both block texts. -/
def blockTexts : List Form := openLeads.map .blockTextNode

/-- A body made of the given block nodes, or of a flow node. -/
def body (nodes : List Form) : Phrase := oneOf (nodes.map of) + eitherBlockFlow

/-- Items of a block sequence after its first, up to the end of the block. -/
def sequenceBlock (lead : Lead) : Phrase :=
  of (.sequenceItem lead) * anyOf .entry * tok .blockEnd

/-- Pairs of a block mapping. -/
def mappingBlock (lead : Lead) : Phrase :=
  (of (.explicitPair lead) + of (.implicitPair lead)) * anyOf .pair * tok .blockEnd

/-- Content, or properties and then content on the same row or below. -/
def withProperties (lead : Lead) (content : Lead → Form) : Phrase :=
  of (content lead)
  + of (.properties lead) * (of (content .inline) + of (content .deeper))

/-- Content, or properties and then content, all on one row. -/
def withRowProperties (lead : Lead) (content : Lead → Form) : Phrase :=
  of (content lead) + of (.rowProperties lead) * of (content .inline)

/-- The four kinds of delimited content. -/
def Delimited.all : List Delimited := [.sequence, .mapping, .double, .single]

/-- Either form of a separator between flow items. -/
def separator : Phrase := tok .flowSeparator + tok .flowSeparator .deeper

/-- The mark that opens delimited content. -/
def Delimited.opener : Delimited → Mark
  | .sequence => .flowSequenceOpen
  | .mapping => .flowMappingOpen
  | .double => .doubleOpen
  | .single => .singleOpen

/-- The mark that closes a flow collection. -/
def Enclosure.closer : Enclosure → Mark
  | .sequence => .flowSequenceClose
  | .mapping => .flowMappingClose

/-- The mark that closes a quotation. -/
def Quoting.closer : Quoting → Mark
  | .double => .doubleClose
  | .single => .singleClose

/-- Further rows of a quotation. -/
def Quoting.breaks : Quoting → Repeated
  | .double => .doubleBreak
  | .single => .singleBreak

/-- What follows the opening mark of delimited content. -/
def inside : Delimited → Rows → Phrase
  | .sequence, rows => collection .sequence rows
  | .mapping, rows => collection .mapping rows
  | .double, rows => quoted .double rows
  | .single, rows => quoted .single rows
where
  /-- Items and closing mark of a collection. -/
  collection (c : Enclosure) : Rows → Phrase
    | .one => of (.rowTail c)
    | .many => of (.brokenTail c)
    | .any => of (.rowTail c) + of (.brokenTail c)
  /-- Text and closing mark of a quotation. -/
  quoted (q : Quoting) : Rows → Phrase
    | .one => opt (of (.quotedRun q)) * tok q.closer
    | .many =>
      opt (of (.quotedRun q))
      * (of (.several q.breaks) * (tok q.closer + tok q.closer .deeper) + tok q.closer .deeper)
    | .any =>
      opt (of (.quotedRun q)) * anyOf q.breaks * (tok q.closer + tok q.closer .deeper)

/-- One piece of quoted text on the current row. -/
def quotedPiece : Quoting → Lead → Phrase
  | .double, lead => tok .doubleText lead + tok .doubleLineEscape lead + tok .doubleEscape lead
  | .single, lead => tok .singleText lead + tok .singleEscape lead

/-- Content that takes several rows, counting its properties: the break is in the content, between the
    properties and the content, or between the properties. -/
def brokenContent (lead : Lead) (content : Rows → Lead → Form) : Phrase :=
  of (content .many lead)
  + of (.rowProperties lead)
    * (of (content .many .inline) + of (content .one .deeper) + of (content .many .deeper))
  + of (.splitProperties lead)
    * (of (content .one .inline) + of (content .many .inline)
       + of (content .one .deeper) + of (content .many .deeper))

/-- A key of a flow pair. -/
def flowKey (f : Form) : Phrase := withRole .key (shownAs .flowNode (of f))

/-- A value of a flow pair. -/
def flowValue (rows : Rows) (lead : Lead) : Phrase := withRole .value (of (.flowNode rows lead))

/-- A value anywhere after its colon. -/
def anyFlowValue : Phrase :=
  flowValue .one .inline + flowValue .many .inline + flowValue .one .deeper + flowValue .many .deeper

/-- A value that makes its pair take several rows. -/
def brokenFlowValue : Phrase :=
  flowValue .many .inline + flowValue .one .deeper + flowValue .many .deeper

/-- The colon after a key: a delimited key needs no blank after it. -/
def colonAfter (delimitedKey : Bool) (lead : Lead) : Phrase :=
  tok (if delimitedKey then .jsonColon else .plainColon) lead

/-- A key that stays on one row. -/
def rowKey (delimitedKey : Bool) (lead : Lead) : Form :=
  if delimitedKey then .delimited .one lead else .flowUndelimited .one lead

/-- A key that takes several rows. -/
def brokenKey (delimitedKey : Bool) (lead : Lead) : Form :=
  if delimitedKey then .delimited .many lead else .flowUndelimited .many lead

/-- Pairs that take several rows or start on a later row. Inside a flow mapping the colon may stand on
    a later row than its key; inside a flow sequence it stays with the key. -/
def brokenPair (within : Enclosure) (lead : Lead) : Phrase :=
  let mapping := within = .mapping
  let withRowKey := fun delimitedKey =>
    let key := flowKey (rowKey delimitedKey lead)
    (if lead = .inline then key * colonAfter delimitedKey .inline * brokenFlowValue
     else key * colonAfter delimitedKey .inline * opt anyFlowValue)
    + (if mapping then key * colonAfter delimitedKey .deeper * opt anyFlowValue else ⟨[]⟩)
  let withBrokenKey := fun delimitedKey =>
    flowKey (brokenKey delimitedKey lead)
    * (colonAfter delimitedKey .inline
       + (if mapping then colonAfter delimitedKey .deeper else ⟨[]⟩))
    * opt anyFlowValue
  withRowKey true + withRowKey false + withBrokenKey true + withBrokenKey false

/-- A colon without a key, and its value on a later row or over several rows unless the colon itself
    stands on a later row. -/
def keylessPair (lead : Lead) : Phrase :=
  if lead = .inline then tok .plainColon * brokenFlowValue
  else tok .plainColon .deeper * opt anyFlowValue

/-- What may follow the question mark of a pair; there the colon may always stand on a later row. -/
def markedPair : Phrase := of (.pairBody .mapping .inline) + of (.pairBody .mapping .deeper)

/-- The two ends of a collection that stand on a later row. -/
def lowerCloser (c : Enclosure) : Phrase := tok c.closer .deeper + tok c.closer .level

/-- An item on the current row, or one that takes several rows or starts below. -/
def anyItem (c : Enclosure) : Phrase := of .rowItem + of (.brokenItem c)

/-- The alternatives of a form. -/
def phrase : Form → Phrase
  | .stream => streamPhrase
  | .laterDocuments afterClosed closed => laterDocuments afterClosed closed
  | .closedDocument o => of (.document o) * of .documentEnd
  | .document .directed => of (.several .directive) * of (.document .marked)
  | .documentEnd => tok .documentEnd
  | .document .marked => tok .documentStart * opt (of .markedBody)
  | .directive => of .yamlDirective + of .tagDirective + of .otherDirective
  | .yamlDirective => tok .yamlDirective * tok .yamlVersion
  | .tagDirective => tok .tagDirective * tok .tagHandle * tok .tagPrefix
  | .otherDirective => tok .otherDirective * anyOf .parameter
  | .document .bare | .itemBody =>
    body ([.inlineSequenceNode] ++ nodesBelow
          ++ [.inlineMappingNode, .mappingNodeBelow, .deeperMappingNode] ++ blockTexts)
  | .markedBody => body (nodesBelow ++ [.mappingNodeBelow, .deeperMappingNode] ++ blockTexts)
  | .anchor lead => tok .anchorSign lead * tok .anchorName
  | .properties lead =>
    tok .tag lead * opt (of (.anchor .inline) + of (.anchor .deeper))
    + of (.anchor lead) * opt (tok .tag + tok .tag .deeper)
  | .rowProperties lead =>
    tok .tag lead * opt (of (.anchor .inline)) + of (.anchor lead) * opt (tok .tag)
  | .splitProperties lead =>
    tok .tag lead * of (.anchor .deeper) + of (.anchor lead) * tok .tag .deeper
  | .inlineSequenceNode => of (.blockSequence .inline)
  | .sequenceNodeBelow => of (.properties .inline) * of (.blockSequence .deeper)
  | .deeperSequenceNode =>
    of (.blockSequence .deeper) + of (.properties .deeper) * of (.blockSequence .deeper)
  | .levelSequenceNode .level => of (.blockSequence .level)
  | .levelSequenceNode lead => of (.properties lead) * of (.blockSequence .level)
  | .blockSequence lead => sequenceBlock lead
  | .sequenceItem lead => tok .sequenceEntry lead * opt (of .itemBody)
  | .inlineMappingNode => of (.blockMapping .inline)
  | .mappingNodeBelow => of (.properties .inline) * of (.blockMapping .deeper)
  | .deeperMappingNode =>
    of (.blockMapping .deeper) + of (.properties .deeper) * of (.blockMapping .deeper)
  | .blockMapping lead => mappingBlock lead
  | .explicitBody =>
    body ([.inlineSequenceNode] ++ nodesBelow ++ levelSequences
          ++ [.inlineMappingNode, .mappingNodeBelow, .deeperMappingNode] ++ blockTexts)
  | .implicitBody =>
    body (nodesBelow ++ levelSequences ++ [.mappingNodeBelow, .deeperMappingNode] ++ blockTexts)
  | .explicitPair lead =>
    of (.keyPart lead) * opt (of (.valuePart .level)) + of (.valuePart lead)
  | .keyPart lead => tok .explicitKey lead * opt (withRole .key (of .explicitBody))
  | .valuePart lead => tok .explicitValue lead * opt (withRole .value (of .explicitBody))
  | .implicitPair lead =>
    withRole .key (of (.blockFlow .one lead)) * tok .implicitColon
    * opt (withRole .value (of .implicitBody))
  | .blockTextNode lead => withProperties lead .blockText
  | .blockText lead =>
    (tok .literalStart lead + tok .foldedStart lead) * anyOf .textRow * tok .blockEnd
  | .blockFlow rows lead => of (.delimited rows lead) + of (.undelimited rows lead)
  | .delimited .many lead =>
    oneOf (Delimited.all.map fun d => brokenContent lead (.content d))
  | .delimited rows lead => oneOf (Delimited.all.map fun d => of (.contentNode d rows lead))
  | .undelimited .one lead =>
    of (.referenceNode lead) + of (.rowProperties lead) + of (.plainNode .one lead)
  | .undelimited rows lead =>
    of (.referenceNode lead) + of (.properties lead) + of (.plainNode rows lead)
  | .contentNode d .one lead => withRowProperties lead (.content d .one)
  | .contentNode d rows lead => withProperties lead (.content d rows)
  | .content d rows lead => tok d.opener lead * inside d rows
  | .plainNode .one lead => withRowProperties lead (.plain .one)
  | .plainNode rows lead => withProperties lead (.plain rows)
  | .plain .one lead => tok .plainRowBlock lead
  | .plain _ lead => tok .plainRowBlock lead + tok .plainRowsBlock lead
  | .flowPlain .many lead => tok .plainRowsFlow lead
  | .flowPlain _ lead => tok .plainRowFlow lead
  | .referenceNode lead => of (.reference lead)
  | .reference lead => tok .aliasSign lead * tok .aliasName
  | .flowUndelimited .many lead => of (.splitProperties lead) + brokenContent lead .flowPlain
  | .flowUndelimited _ lead =>
    of (.referenceNode lead) + of (.rowProperties lead) + withRowProperties lead (.flowPlain .one)
  | .quotedRun q => of (.quotedRun q) * of (.quotedRun q) + quotedPiece q .inline
  | .quotedBreak q => quotedPiece q .deeper * opt (of (.quotedRun q))
  | .flowNode rows lead => of (.delimited rows lead) + of (.flowUndelimited rows lead)
  | .rowPairBody =>
    flowKey (rowKey true .inline) * colonAfter true .inline * opt (flowValue .one .inline)
    + flowKey (rowKey false .inline) * colonAfter false .inline * opt (flowValue .one .inline)
  | .rowPair =>
    of .rowPairBody + tok .plainColon * opt (flowValue .one .inline)
    + tok .flowKey * opt (of .rowPairBody)
  | .pairBody within lead => brokenPair within lead
  | .pair within .inline =>
    of (.pairBody within .inline) + keylessPair .inline + tok .flowKey * markedPair
  | .pair within lead =>
    of (.pairBody within lead) + keylessPair lead
    + tok .flowKey lead * opt (of .rowPairBody + markedPair)
  | .rowItem => of (.flowNode .one .inline) + of .rowPair
  | .brokenItem within =>
    of (.flowNode .many .inline) + of (.flowNode .one .deeper) + of (.flowNode .many .deeper)
    + of (.pair within .inline) + of (.pair within .deeper)
  | .rowTail c => tok c.closer + of .rowItems * opt (tok .flowSeparator) * tok c.closer
  | .brokenTail c =>
    lowerCloser c
    + of .rowItems * opt (tok .flowSeparator) * lowerCloser c
    + of (.brokenItem c) * of (.rest c)
    + of .rowItems * tok .flowSeparator * of (.brokenItem c) * of (.rest c)
    + of .rowItems * tok .flowSeparator .deeper * (tok c.closer + lowerCloser c)
    + of .rowItems * tok .flowSeparator .deeper * anyItem c * of (.rest c)
  | .rest c =>
    tok c.closer + lowerCloser c
    + separator * (tok c.closer + lowerCloser c)
    + separator * anyItem c * of (.rest c)
  | .rowItems => of .rowItem + of .rowItems * tok .flowSeparator * of .rowItem
  | .several r =>
    of (.several r) * of (.several r)
    + match r with
      | .directive => of .directive
      | .parameter => tok .directiveParameter
      | .entry => of (.sequenceItem .level)
      | .pair => of (.explicitPair .level) + of (.implicitPair .level)
      | .textRow => tok .blockText .deeper
      | .doubleBreak => of (.quotedBreak .double)
      | .singleBreak => of (.quotedBreak .single)

end PlaybookServer.Source
