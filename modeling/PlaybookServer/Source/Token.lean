/-
Module: PlaybookServer.Source.Token
Purpose: Tokens of the YAML source scanner. Most tokens come in several forms that differ only in where
  they stand relative to what precedes them: on the row already reached (`inline`), on a later row and
  indented past the enclosing block (`deeper`), or on a later row exactly at the block's indentation
  (`level`). The grammar is written over these forms, so indentation is settled before parsing.
  Tokens are numbered; number 0 is kept for the end of the parse itself.
Main exports: Lead, Mark, Token, Token.all, Token.id, TokenSet
-/
import PlaybookServer.Source.Kind

namespace PlaybookServer.Source

/-- Where a token starts relative to the row reached so far and the enclosing block. -/
inductive Lead where
  | inline
  | deeper
  | level
deriving DecidableEq, Repr, Inhabited, Hashable

/-- What a token says, without where it stands. -/
inductive Mark where
  | endOfStream
  | yamlDirective
  | yamlVersion
  | tagDirective
  | tagHandle
  | tagPrefix
  | otherDirective
  | directiveParameter
  | documentStart
  | documentEnd
  | sequenceEntry
  | explicitKey
  | explicitValue
  | implicitColon
  | literalStart
  | foldedStart
  | blockText
  | flowSequenceOpen
  | flowSequenceClose
  | flowMappingOpen
  | flowMappingClose
  | flowSeparator
  | flowKey
  | jsonColon
  | plainColon
  | doubleOpen
  | doubleText
  | doubleLineEscape
  | doubleEscape
  | doubleClose
  | singleOpen
  | singleText
  | singleEscape
  | singleClose
  | plainRowBlock
  | plainRowFlow
  | plainRowsBlock
  | plainRowsFlow
  | tag
  | anchorSign
  | anchorName
  | aliasSign
  | aliasName
  | blockEnd
  | comment
  | recovering
deriving DecidableEq, Repr, Inhabited, Hashable

/-- A token: its mark and where it stands. -/
structure Token where
  mark : Mark
  lead : Lead := .inline
deriving DecidableEq, Repr, Inhabited, Hashable

/-- Number of the first form of a mark. Forms of one mark are numbered consecutively in the order
    inline, deeper, level; plain scalars interleave, see `Token.id`. -/
def Mark.base : Mark → Nat
  | .endOfStream => 1
  | .yamlDirective => 2
  | .yamlVersion => 3
  | .tagDirective => 4
  | .tagHandle => 5
  | .tagPrefix => 6
  | .otherDirective => 7
  | .directiveParameter => 8
  | .documentStart => 9
  | .documentEnd => 10
  | .sequenceEntry => 11
  | .explicitKey => 14
  | .explicitValue => 17
  | .implicitColon => 20
  | .literalStart => 21
  | .foldedStart => 23
  | .blockText => 25
  | .flowSequenceOpen => 26
  | .flowSequenceClose => 29
  | .flowMappingOpen => 32
  | .flowMappingClose => 35
  | .flowSeparator => 38
  | .flowKey => 40
  | .jsonColon => 42
  | .plainColon => 44
  | .doubleOpen => 46
  | .doubleText => 49
  | .doubleLineEscape => 51
  | .doubleEscape => 53
  | .doubleClose => 55
  | .singleOpen => 57
  | .singleText => 60
  | .singleEscape => 62
  | .singleClose => 64
  | .plainRowBlock => 66
  | .plainRowFlow => 69
  | .plainRowsBlock => 71
  | .plainRowsFlow => 73
  | .tag => 75
  | .anchorSign => 78
  | .anchorName => 81
  | .aliasSign => 82
  | .aliasName => 85
  | .blockEnd => 86
  | .comment => 87
  | .recovering => 88

/-- Position of a form among the forms of its mark. -/
def Lead.offset : Lead → Nat
  | .inline => 0
  | .deeper => 1
  | .level => 2

/-- The number of a token. A mark that has a single form uses its base whatever the lead. -/
def Token.id (t : Token) : Nat :=
  match t.mark with
  | .blockText => t.mark.base
  | _ => t.mark.base + t.lead.offset

/-- How many token numbers there are, the reserved 0 included. -/
def tokenCount : Nat := 89

/-- The number reserved for the end of the parse. -/
def endId : Nat := 0

/-- The kind under which a token of the given number shows up in a tree; hidden tokens have none. -/
def shownToken (id : Nat) : Option Kind :=
  if id = 3 then some .yamlVersion
  else if id = 5 then some .tagHandle
  else if id = 6 then some .tagPrefix
  else if id = 7 then some .directiveName
  else if id = 8 then some .directiveParameter
  else if id = 9 then some (.mark "---")
  else if id = 10 then some (.mark "...")
  else if id < 11 then none
  else if id < 14 then some (.mark "-")
  else if id < 17 then some (.mark "?")
  else if id < 21 then some (.mark ":")
  else if id < 23 then some (.mark "|")
  else if id < 25 then some (.mark ">")
  else if id < 26 then none
  else if id < 29 then some (.mark "[")
  else if id < 32 then some (.mark "]")
  else if id < 35 then some (.mark "\x7b")
  else if id < 38 then some (.mark "\x7d")
  else if id < 40 then some (.mark ",")
  else if id < 42 then some (.mark "?")
  else if id < 46 then some (.mark ":")
  else if id < 49 then some (.mark "\"")
  else if id < 51 then none
  else if id < 55 then some .escapeSequence
  else if id < 57 then some (.mark "\"")
  else if id < 60 then some (.mark "'")
  else if id < 62 then none
  else if id < 64 then some .escapeSequence
  else if id < 66 then some (.mark "'")
  else if id < 75 then some .stringScalar
  else if id < 78 then some .tag
  else if id < 81 then some (.mark "&")
  else if id < 82 then some .anchorName
  else if id < 85 then some (.mark "*")
  else if id < 86 then some .aliasName
  else if id = 87 then some .comment
  else none

/-- A set of token numbers as a bit mask. -/
abbrev TokenSet := Nat

/-- Whether a token number belongs to a set. -/
def TokenSet.has (s : TokenSet) (id : Nat) : Bool := Nat.testBit s id

/-- The set with one token number. -/
def TokenSet.one (id : Nat) : TokenSet := 1 <<< id

/-- Every token number, for the state that accepts anything. -/
def TokenSet.full : TokenSet := (1 <<< tokenCount) - 1

end PlaybookServer.Source
