/-
Module: PlaybookServer.Completion.Candidate
Purpose: Completion candidates, their order, and the texts shown with them.
Main exports: CandidateKind, Candidate, Candidate.sortText, rank, insertionSuffix, valueLabel,
  optionDetail, optionDocumentation, moduleDocumentation?
-/
import PlaybookServer.Docs.Library
import PlaybookServer.Text.LineMap
import PlaybookServer.Yaml.Writer

namespace PlaybookServer.Completion

open Text Docs
open Yaml (Value)

/-- What a candidate is. -/
inductive CandidateKind where
  | keyword
  | indexedModule
  | redirectedModule
  | option
  | alternateName
  | value
  | templateVariable
deriving DecidableEq, Repr, Inhabited

/-- A replacement of a range. -/
structure TextEdit where
  range : Range
  newText : String
deriving DecidableEq, Repr, Inhabited

/-- A candidate. -/
structure Candidate where
  label : String
  kind : CandidateKind
  /-- Lower ranks first. -/
  priority : Nat
  /-- Position in the order of the document or schema. -/
  order : Nat := 0
  detail : Option String := none
  documentation : Option String := none
  filterText : Option String := none
  insertText : String
  edit : Option TextEdit := none
  /-- Fully qualified name of a module. -/
  moduleName : Option String := none
deriving DecidableEq, Repr, Inhabited

namespace Candidate

/-- A candidate that replaces a range. -/
def make (label : String) (kind : CandidateKind) (priority : Nat) (insertText : String)
    (range : Option Range) : Candidate :=
  { label, kind, priority, insertText, edit := range.map (⟨·, insertText⟩) }

/-- Whether the inserted text goes on over several lines, whose tabs stand for indentation. -/
def isSnippet (c : Candidate) : Bool := occursIn "\n" c.insertText

/-- Digits of the largest order, so that keys compare as texts. -/
def orderWidth : Nat := 20

/-- The key by which clients sort. -/
def sortText (c : Candidate) : String :=
  let digits := toString c.order
  toString c.priority ++ "_" ++ String.ofList (List.replicate (orderWidth - digits.length) '0') ++ digits

/-- Whether a candidate ranks before another or with it. -/
def ranksBefore (a b : Candidate) : Bool :=
  a.priority < b.priority || (a.priority = b.priority && a.order ≤ b.order)

end Candidate

/-- Number candidates as they come, and rank them. -/
def rank (cs : List Candidate) : List Candidate :=
  (cs.mapIdx fun i c => { c with order := i }).mergeSort Candidate.ranksBefore

/-- Text after a key and its colon at the end of a line, by the type of its value. Tabs stand for one
    level of indentation. -/
def insertionSuffix (typeName : Option String) (firstOfList : Bool) : String :=
  let indent := if firstOfList then "\t\t" else "\t"
  match typeName with
  | some "list" => "\n" ++ indent ++ "- "
  | some "dict" => "\n" ++ indent
  | _ => " "

/-- The label of a value; one that cannot be written has an empty label. -/
def valueLabel : Value → String
  | .string s => s
  | .bool b => toString b
  | .number n => n.text
  | v => trimmedEnd (v.text?.getD "")

/-- Type and requirement of an option. -/
def optionDetail (o : OptionDoc) : String :=
  let requirement := if o.required then "(required)" else "(optional)"
  match o.typeLabel? with
  | some label => label ++ " " ++ requirement
  | none => requirement

/-- What is said about an option. -/
def optionDocumentation (o : OptionDoc) : String :=
  let text := join "\n\n" o.description
  let choices := if o.choices.isEmpty then ""
    else "\n\nChoices: `" ++ join "`, `" (o.choices.map valueLabel) ++ "`"
  let default := match o.default with
    | some v => "\n\nDefault: `" ++ valueLabel v ++ "`"
    | none => ""
  let version := match o.versionAdded with
    | some v => "\n\nAdded in version " ++ v
    | none => ""
  trimmedStart (text ++ choices ++ default ++ version)

/-- The module that a candidate's name leads to. -/
def documentedModule? (l : Library) (name : String) : Option Module :=
  (l.module? name).orElse fun _ => (l.find name none []).1

/-- What is said about a module, with marks for emphasis. -/
def moduleDocumentation? (l : Library) (fs : Files.FileView) (name : String) : Option String := do
  let m ← documentedModule? l name
  let doc ← Library.documentation? fs m
  let short := match doc.shortDescription with
    | some s => "\n\n*" ++ s ++ "*"
    | none => ""
  let routed := match l.route? name with
    | none => ""
    | some r =>
      (match r.redirect with
        | some target => "\n\nRedirects to `" ++ target ++ "`"
        | none => "")
      ++ (match r.deprecation with
        | some notice =>
          "\n\n**Deprecated:** " ++ notice.warningText.getD "This module is deprecated."
        | none => "")
  let description := if doc.description.isEmpty then "" else "\n\n" ++ join "\n\n" doc.description
  return "**" ++ name ++ "**" ++ short ++ routed ++ description

end PlaybookServer.Completion
