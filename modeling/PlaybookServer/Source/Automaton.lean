/-
Module: PlaybookServer.Source.Automaton
Purpose: The parsing automaton of the grammar. States are sets of items with their lookahead; a state's
  table says which actions each lookahead allows and where a finished form leads. Two decisions are
  taken here once for all texts: inside a run the choice between ending and going on is marked, since
  both readings mean the same, and a form that only renames its single part is passed over.
  State 0 is the state after a fault, in which every token is skipped; state 1 is the start.
Main exports: Action, Reduction, Shape, Automaton, Automaton.yaml
-/
import Std.Data.HashMap
import Std.Data.TreeMap
import PlaybookServer.Source.Grammar

namespace PlaybookServer.Source

/-- How the parts of a finished form show up: kinds that override their own, roles, and which parts
    pass on the roles given inside them. Empty when no part is special. -/
structure Shape where
  shown : Array (Option Kind) := #[]
  roles : Array (Option Role) := #[]
  passes : Array Bool := #[]
deriving Inhabited

/-- A shape that says nothing. -/
def Shape.plain (s : Shape) : Bool := s.shown.isEmpty

/-- Replace the last `count` symbols by a form. -/
structure Reduction where
  symbol : Nat
  count : Nat
  shape : Shape
deriving Inhabited

/-- What to do on a lookahead. -/
inductive Action where
  /-- Take the token; `withinRun` marks the redundant choice of going on inside a run. -/
  | shift (target : Nat) (withinRun : Bool)
  /-- Take the token without leaving the state: a comment. -/
  | setAside
  | reduce (r : Reduction)
  | accept
  /-- Skip the token: the text around it has a fault. -/
  | recover
deriving Inhabited

/-- The tables of the automaton. -/
structure Automaton where
  /-- Actions by state and token number. -/
  actions : Array (Array (List Action))
  /-- Successors by state and form number. -/
  gotos : Array (Array Nat)
  /-- Tokens that have an action, by state. -/
  valid : Array TokenSet
deriving Inhabited

/-- State reached after a fault. -/
def faultState : Nat := 0

/-- Start state. -/
def startState : Nat := 1

/-- Number of a form among all symbols. -/
def Form.symbol (f : Form) : Nat := tokenCount + Form.all.idxOf f

/-- Number of a symbol: its token number, or the number of its form after all tokens. -/
def Symbol.number : Symbol → Nat
  | .token t => t.id
  | .form f => f.symbol

/-- The kind a symbol shows up as by itself. -/
def shownSymbol? (forms : Array Form) (symbol : Nat) : Option Kind :=
  if symbol < tokenCount then shownToken symbol
  else (forms[symbol - tokenCount]?).bind Form.shown?

namespace Construction

/-- Repeat a step until it changes nothing, at most `fuel` times. -/
def stabilise {α : Type} [BEq α] (step : α → α) : Nat → α → α
  | 0, x => x
  | fuel + 1, x =>
    let y := step x
    if y == x then x else stabilise step fuel y

/-- A numbered step. -/
structure Part where
  symbol : Nat
  shown : Option Kind
  role : Option Role
deriving BEq, Hashable, Inhabited

/-- A numbered alternative of a form. -/
structure Production where
  form : Nat
  parts : Array Part
deriving Inhabited

/-- Properties of the whole grammar that the construction consults. -/
structure Facts where
  forms : Array Form
  /-- Productions by form; the last entry is the start production. -/
  productions : Array (Array Production)
  /-- Tokens a form can start with. -/
  first : Array TokenSet
  /-- Forms in which some part has a role that shows through. -/
  roles : Array Bool
  /-- Forms that some step shows as another kind. -/
  renamed : Array Bool

/-- Number the productions. -/
def numberProductions (forms : List Form) : Array (Array Production) :=
  let numbers : Std.HashMap Form Nat := Std.HashMap.ofList (forms.zip (List.range forms.length))
  let number : Symbol → Nat
    | .token t => t.id
    | .form f => tokenCount + numbers.getD f 0
  let all := forms.zip (List.range forms.length) |>.map fun (f, i) =>
    (phrase f).alternatives.eraseDups.map (fun steps =>
      { form := i
        parts := (steps.map fun s => ⟨number s.symbol, s.shown, s.role⟩).toArray : Production })
      |>.toArray
  let start : Production := { form := forms.length, parts := #[⟨number (.form .stream), none, none⟩] }
  all.toArray.push #[start]

/-- Tokens a symbol can start with. -/
def firstOf (first : Array TokenSet) (symbol : Nat) : TokenSet :=
  if symbol < tokenCount then TokenSet.one symbol else first.getD (symbol - tokenCount) 0

/-- Whether a symbol is a form without a node of its own. -/
def hiddenForm (forms : Array Form) (symbol : Nat) : Bool :=
  tokenCount ≤ symbol && (shownSymbol? forms symbol).isNone

/-- Whether a part passes on the roles given inside it. -/
def passesRoles (forms : Array Form) (roles : Array Bool) (p : Part) : Bool :=
  hiddenForm forms p.symbol && p.shown.isNone && roles.getD (p.symbol - tokenCount) false

/-- Collect the facts about a list of forms. -/
def facts (forms : List Form) : Facts :=
  let productions := numberProductions forms
  let rounds := productions.size
  let forms := forms.toArray
  let firstStep := fun (first : Array TokenSet) =>
    productions.mapIdx fun i ps =>
      ps.foldl (fun acc p => acc ||| firstOf first (p.parts.getD 0 default).symbol) (first.getD i 0)
  let first := stabilise firstStep rounds (productions.map fun _ => 0)
  let rolesStep := fun (roles : Array Bool) =>
    productions.map fun ps =>
      ps.any fun p => p.parts.any fun s => s.role.isSome || passesRoles forms roles s
  let roles := stabilise rolesStep rounds (productions.map fun _ => false)
  let renamed := productions.foldl (fun acc ps => ps.foldl (fun acc p => p.parts.foldl
    (fun acc s => if s.shown.isSome then acc.setIfInBounds (s.symbol - tokenCount) true else acc)
    acc) acc) (productions.map fun _ => false)
  { forms, productions, first, roles, renamed }

/-- How the parts of a production show up. -/
def Facts.shape (g : Facts) (parts : Array Part) : Shape :=
  let passes := parts.map fun p => passesRoles g.forms g.roles p && p.role.isNone
  if parts.all (fun p => p.shown.isNone && p.role.isNone) && passes.all (! ·) then {}
  else { shown := parts.map Part.shown, roles := parts.map Part.role, passes }

/-- A production with a position in it. Items that agree on what is to come and on how the parts
    already read show up are one item. -/
structure Item where
  form : Nat
  parts : Array Part
  dot : Nat
  /-- The item one part further. -/
  next : Nat
deriving Inhabited

/-- What distinguishes items. -/
structure ItemKey where
  form : Nat
  read : List Part
  ahead : List Part
deriving BEq, Hashable

/-- The key of a position in a production. The symbols already read count only when one of them passes
    roles on. -/
def Facts.itemKey (g : Facts) (p : Production) (dot : Nat) : ItemKey :=
  let read := p.parts.toList.take dot
  let significant := read.any fun s =>
    hiddenForm g.forms s.symbol && g.roles.getD (s.symbol - tokenCount) false
  { form := p.form
    read := if significant then read else read.map fun s => { s with symbol := 0 }
    ahead := p.parts.toList.drop dot }

/-- All items, with the first item of every production by form. -/
structure Items where
  items : Array Item := #[]
  index : Std.HashMap ItemKey Nat := {}
  starts : Array (Array Nat) := #[]

/-- Number the positions of one production. -/
def Items.addProduction (g : Facts) (all : Items) (p : Production) : Items × Nat :=
  let step := fun (acc : Items × List Nat) (dot : Nat) =>
    let (all, ids) := acc
    let key := g.itemKey p dot
    match all.index[key]? with
    | some id => (all, id :: ids)
    | none =>
      let id := all.items.size
      ({ all with items := all.items.push { form := p.form, parts := p.parts, dot, next := 0 }
                  index := all.index.insert key id }, id :: ids)
  let (all, ids) := (List.range (p.parts.size + 1)).foldl step (all, [])
  let linked := (ids.zip ids.tail).foldl
    (fun items (later, earlier) => items.modify earlier fun it => { it with next := later })
    all.items
  ({ all with items := linked }, ids.getLast?.getD 0)

/-- Number all items. -/
def Facts.items (g : Facts) : Items :=
  g.productions.foldl (fun all ps =>
    let (all, starts) := ps.foldl
      (fun (all, starts) p =>
        let (all, id) := all.addProduction g p
        (all, starts.push id))
      (all, #[])
    { all with starts := all.starts.push starts }) {}

/-- The part after the dot. -/
def Item.ahead? (it : Item) : Option Part := it.parts[it.dot]?

/-- Lookahead an opened form gets: tokens known from inside, and whether the lookahead of whoever
    opened it applies too. -/
structure Context where
  inner : TokenSet := 0
  outer : Bool := false
deriving BEq, Inhabited

/-- Forms that open when `forms` do, with their contexts: a worklist of forms still to visit. -/
def openForms (g : Facts) : Nat → List (Nat × Context) → Std.TreeMap Nat Context → Std.TreeMap Nat Context
  | 0, _, seen => seen
  | _, [], seen => seen
  | fuel + 1, (form, ctx) :: rest, seen =>
    let known := seen[form]?
    let old := known.getD {}
    let ctx : Context := { inner := old.inner ||| ctx.inner, outer := old.outer || ctx.outer }
    if known == some ctx then openForms g fuel rest seen
    else
      let more := (g.productions.getD form #[]).toList.filterMap fun p =>
        match p.parts[0]? with
        | some s =>
          if s.symbol < tokenCount then none
          else
            match p.parts[1]? with
            | some t => some (s.symbol - tokenCount, { inner := firstOf g.first t.symbol })
            | none => some (s.symbol - tokenCount, ctx)
        | none => none
      openForms g fuel (more ++ rest) (seen.insert form ctx)

/-- Items that open with a form, with their contexts. -/
def openItems (g : Facts) (all : Items) (form : Nat) : Array (Nat × Context) :=
  let contexts := openForms g 100000 [(form, { outer := true })] {}
  contexts.foldl (fun acc f ctx =>
    (all.starts.getD f #[]).foldl (fun acc id => acc.push (id, ctx)) acc) #[]

/-- A state under construction. -/
structure Row where
  actions : Array (List Action)
  gotos : Array Nat
  /-- The form this state renames its single part to, if it does nothing else. -/
  renames : Option Nat
deriving Inhabited

/-- The states found so far. -/
structure Progress where
  kernels : Array (List (Nat × TokenSet)) := #[]
  index : Std.HashMap (List (Nat × TokenSet)) Nat := {}
  rows : Array Row := #[]

/-- The number of a state, new or known. -/
def Progress.state (s : Progress) (kernel : List (Nat × TokenSet)) : Nat × Progress :=
  match s.index[kernel]? with
  | some id => (id, s)
  | none =>
    let id := s.kernels.size
    (id, { s with kernels := s.kernels.push kernel, index := s.index.insert kernel id })

/-- Add lookahead to an item. -/
def addLookahead (set : Std.TreeMap Nat TokenSet) (item : Nat) (la : TokenSet) : Std.TreeMap Nat TokenSet :=
  set.alter item fun old => some ((old.getD 0) ||| la)

/-- Everything a kernel opens. -/
def close (g : Facts) (all : Items) (opens : Array (Array (Nat × Context)))
    (kernel : List (Nat × TokenSet)) : Std.TreeMap Nat TokenSet :=
  kernel.foldl (fun set (id, la) =>
    let it := all.items.getD id default
    match it.ahead? with
    | some p =>
      if p.symbol < tokenCount then set
      else
        let follow := match it.parts[it.dot + 1]? with
          | some q => firstOf g.first q.symbol
          | none => la
        (opens.getD (p.symbol - tokenCount) #[]).foldl
          (fun set (j, ctx) => addLookahead set j (ctx.inner ||| if ctx.outer then follow else 0)) set
    | none => set) (Std.TreeMap.ofList kernel)

/-- Settle a cell with several actions. Going on inside a run is only marked; a form that prefers to go
    on does; every other choice is kept open. -/
def settle (g : Facts) (all : Items) (set : Std.TreeMap Nat TokenSet) (token : Nat)
    (acts : List Action) : List Action :=
  match acts.reverse with
  | .shift target false :: (e :: earlier) =>
    let involved := set.foldl (fun acc id la =>
      let it := all.items.getD id default
      match it.ahead? with
      | some p =>
        if 0 < it.dot && (firstOf g.first p.symbol).has token then it.form :: acc else acc
      | none => if TokenSet.has la token then it.form :: acc else acc) []
    let isRun := match involved with
      | f :: rest => rest.all (· = f) && (g.forms[f]?.map Form.isRun).getD false
      | [] => false
    if isRun then acts.dropLast ++ [.shift target true]
    else
      let goesOn := (e :: earlier).all fun a => match a with
        | .reduce r => (g.forms[r.symbol - tokenCount]?.map Form.goesOn).getD false
        | _ => false
      if goesOn then [.shift target false] else acts
  | _ => acts

/-- The form a row of actions renames its single part to. -/
def renamesTo (g : Facts) (actions : Array (List Action)) : Option Nat :=
  let candidate := fun (r : Reduction) =>
    r.count = 1 && r.shape.plain && (shownSymbol? g.forms r.symbol).isNone
    && !(g.renamed.getD (r.symbol - tokenCount) false)
  let step := fun (acc : Bool × Option Nat) (a : Action) =>
    match a with
    | .setAside => acc
    | .reduce r =>
      if candidate r && (acc.2.isNone || acc.2 = some r.symbol) then (acc.1, some r.symbol)
      else (false, acc.2)
    | _ => (false, acc.2)
  let (only, symbol) := actions.foldl (fun acc l => l.foldl step acc) (true, none)
  if only then symbol else none

/-- Kernels of the successors of a state, by symbol. -/
abbrev Successors := Std.TreeMap Nat (Std.TreeMap Nat TokenSet)

/-- Build the row of a state. -/
def buildRow (g : Facts) (all : Items) (opens : Array (Array (Nat × Context)))
    (kernel : List (Nat × TokenSet)) (s : Progress) : Progress :=
  let set := close g all opens kernel
  let start := g.forms.size
  let empty : Array (List Action) := Array.replicate tokenCount []
  let (actions, succ) := set.foldl (fun (acc : Array (List Action) × Successors) id la =>
    let (actions, succ) := acc
    let it := all.items.getD id default
    match it.ahead? with
    | some p =>
      (actions, succ.alter p.symbol fun old => some (addLookahead (old.getD {}) it.next la))
    | none =>
      let act : Action :=
        if it.form = start then .accept
        else .reduce { symbol := tokenCount + it.form, count := it.dot, shape := g.shape it.parts }
      let actions := (List.range tokenCount).foldl (fun acc t =>
        if TokenSet.has la t then acc.modify t (· ++ [act]) else acc) actions
      (actions, succ)) (empty, {})
  let noGotos : Array Nat := Array.replicate g.forms.size 0
  let (s, actions, gotos) := succ.foldl (fun (acc : Progress × Array (List Action) × Array Nat) symbol kernel =>
    let (s, actions, gotos) := acc
    let (id, s) := s.state kernel.toList
    if symbol < tokenCount then
      (s, actions.modify symbol (· ++ [Action.shift id false]), gotos)
    else (s, actions, gotos.setIfInBounds (symbol - tokenCount) id)) (s, actions, noGotos)
  let actions := actions.mapIdx fun t acts =>
    if 1 < acts.length then settle g all set t acts else acts
  let commentId := Token.id ⟨.comment, .inline⟩
  let actions := actions.modify commentId fun acts => if acts.isEmpty then [.setAside] else acts
  { s with rows := s.rows.push { actions, gotos, renames := renamesTo g actions } }

/-- Build rows until every state has one. -/
def grow (g : Facts) (all : Items) (opens : Array (Array (Nat × Context))) : Nat → Progress → Progress
  | 0, s => s
  | fuel + 1, s =>
    match s.kernels[s.rows.size]? with
    | none => s
    | some kernel => grow g all opens fuel (buildRow g all opens kernel s)

/-- The row after a fault: skip everything, keep comments aside. -/
def faultRow (forms : Nat) : Row :=
  let commentId := Token.id ⟨.comment, .inline⟩
  { actions := (Array.replicate tokenCount [Action.recover]).setIfInBounds commentId [.setAside]
    gotos := Array.replicate forms 0
    renames := none }

/-- Where a step from `row` to `target` ends up once renaming states are passed over. -/
def passOver (rows : Array Row) (row : Row) : Nat → Nat → Nat
  | 0, target => target
  | fuel + 1, target =>
    match (rows.getD target default).renames with
    | none => target
    | some symbol =>
      let onward := row.gotos.getD (symbol - tokenCount) 0
      if onward = 0 then target else passOver rows row fuel onward

/-- The automaton of a list of forms. -/
def automaton (forms : List Form) : Automaton :=
  let g := facts forms
  let all := g.items
  let opens := (Array.range (forms.length + 1)).map (openItems g all)
  let startItem := (all.starts.getD forms.length #[]).getD 0 0
  let first : Progress := { kernels := #[[]], rows := #[faultRow forms.length] }
  let (_, first) := first.state [(startItem, TokenSet.one endId)]
  let rows := (grow g all opens 5000 first).rows
  let settled := rows.map fun row =>
    { row with
      actions := row.actions.map fun acts => acts.map fun a => match a with
        | .shift target w => .shift (passOver rows row 64 target) w
        | a => a
      gotos := row.gotos.map fun target => if target = 0 then 0 else passOver rows row 64 target }
  { actions := settled.map Row.actions
    gotos := settled.map Row.gotos
    valid := settled.mapIdx fun i row =>
      if i = faultState then TokenSet.full
      else (List.range tokenCount).foldl (fun acc t =>
        if (row.actions.getD t []).isEmpty then acc else acc ||| TokenSet.one t) 0 }

end Construction

/-- The automaton of the YAML grammar. -/
def Automaton.yaml : Automaton := Construction.automaton Form.all

/-- Actions of a state on a token. -/
def Automaton.on (a : Automaton) (state token : Nat) : List Action :=
  (a.actions.getD state #[]).getD token []

/-- Tokens that have an action in a state. -/
def Automaton.validIn (a : Automaton) (state : Nat) : TokenSet := a.valid.getD state 0

/-- The state after a finished form; 0 when there is none. -/
def Automaton.goto (a : Automaton) (state symbol : Nat) : Nat :=
  (a.gotos.getD state #[]).getD (symbol - tokenCount) 0

end PlaybookServer.Source
