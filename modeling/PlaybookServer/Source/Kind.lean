/-
Module: PlaybookServer.Source.Kind
Purpose: Names of the nodes of a concrete YAML syntax tree. Structural kinds are what a reader of the
  tree looks for (mappings, sequences, scalars, properties); `mark` covers the punctuation a node may
  carry as an anonymous child. `Role` names the two positions of a pair.
Main exports: Kind, Kind.label, Kind.named, Role
-/

namespace PlaybookServer.Source

/-- What a node of the concrete tree stands for. -/
inductive Kind where
  | stream
  | document
  | blockNode
  | flowNode
  | blockMapping
  | blockMappingPair
  | blockSequence
  | blockSequenceItem
  | blockScalar
  | flowMapping
  | flowSequence
  | flowPair
  | plainScalar
  | stringScalar
  | doubleQuoteScalar
  | singleQuoteScalar
  | escapeSequence
  | reference
  | aliasName
  | anchor
  | anchorName
  | tag
  | yamlDirective
  | yamlVersion
  | tagDirective
  | tagHandle
  | tagPrefix
  | reservedDirective
  | directiveName
  | directiveParameter
  | comment
  /-- A region the grammar could not place. -/
  | error
  /-- Punctuation, by its text. -/
  | mark (text : String)
deriving DecidableEq, Repr, Inhabited, Hashable

/-- The name a kind goes by in messages. -/
def Kind.label : Kind → String
  | .stream => "stream"
  | .document => "document"
  | .blockNode => "block_node"
  | .flowNode => "flow_node"
  | .blockMapping => "block_mapping"
  | .blockMappingPair => "block_mapping_pair"
  | .blockSequence => "block_sequence"
  | .blockSequenceItem => "block_sequence_item"
  | .blockScalar => "block_scalar"
  | .flowMapping => "flow_mapping"
  | .flowSequence => "flow_sequence"
  | .flowPair => "flow_pair"
  | .plainScalar => "plain_scalar"
  | .stringScalar => "null_scalar"
  | .doubleQuoteScalar => "double_quote_scalar"
  | .singleQuoteScalar => "single_quote_scalar"
  | .escapeSequence => "escape_sequence"
  | .reference => "alias"
  | .aliasName => "alias_name"
  | .anchor => "anchor"
  | .anchorName => "anchor_name"
  | .tag => "tag"
  | .yamlDirective => "yaml_directive"
  | .yamlVersion => "yaml_version"
  | .tagDirective => "tag_directive"
  | .tagHandle => "tag_handle"
  | .tagPrefix => "tag_prefix"
  | .reservedDirective => "reserved_directive"
  | .directiveName => "directive_name"
  | .directiveParameter => "directive_parameter"
  | .comment => "comment"
  | .error => "ERROR"
  | .mark text => text

/-- Punctuation is anonymous; every other kind is named. -/
def Kind.named : Kind → Bool
  | .mark _ => false
  | _ => true

/-- Position of a node inside a pair. -/
inductive Role where
  | key
  | value
deriving DecidableEq, Repr, Inhabited, Hashable

end PlaybookServer.Source
