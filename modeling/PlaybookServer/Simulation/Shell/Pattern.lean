/-
Module: PlaybookServer.Simulation.Shell.Pattern
Purpose: Patterns: those of words, where a star takes any text, and those of lines, where a star repeats what
  stands before it.
Main exports: Pattern, Pattern.ofLine, Pattern.ofGlyphs, Pattern.occursIn, Pattern.takesAll
-/

namespace PlaybookServer.Simulation.Shell

/-- A piece of a pattern: the characters it takes, and whether it may take any number of them. -/
structure Pattern.Piece where
  takes : Char → Bool
  repeats : Bool := false

/-- A pattern, and whether it holds to the start and the end of a text. -/
structure Pattern where
  atStart : Bool := false
  atEnd : Bool := false
  pieces : List Pattern.Piece := []

/-! ### Reading -/

/-- The characters of a set between brackets. -/
def setMembers : List Char → Char → Bool
  | a :: '-' :: b :: rest, c => (a ≤ c && c ≤ b) || setMembers rest c
  | a :: rest, c => a = c || setMembers rest c
  | [], _ => false

/-- Read the pieces of a line's pattern. -/
def linePieces : Nat → List Char → List Pattern.Piece
  | 0, _ => []
  | fuel + 1, cs =>
    let (takes, rest) : (Char → Bool) × List Char := match cs with
      | '\\' :: c :: rest => ((· = c), rest)
      | '.' :: rest => (fun _ => true, rest)
      | '[' :: '^' :: rest =>
        let members := rest.takeWhile (· ≠ ']')
        (fun c => !setMembers members c, rest.drop (members.length + 1))
      | '[' :: rest =>
        let members := rest.takeWhile (· ≠ ']')
        (setMembers members, rest.drop (members.length + 1))
      | c :: rest => ((· = c), rest)
      | [] => (fun _ => false, [])
    if cs.isEmpty then []
    else
      match rest with
      | '*' :: rest => ⟨takes, true⟩ :: linePieces fuel rest
      | rest => ⟨takes, false⟩ :: linePieces fuel rest

/-- Read a pattern for lines. -/
def Pattern.ofLine (cs : List Char) : Pattern :=
  let (atStart, cs) := match cs with
    | '^' :: rest => (true, rest)
    | cs => (false, cs)
  let atEnd : Bool := cs.getLast? = some '$'
  let cs := if atEnd then cs.dropLast else cs
  { atStart, atEnd, pieces := linePieces (cs.length + 1) cs }

/-- A character of a word, and whether it stands for itself only. -/
abbrev Glyph := Char × Bool

/-- The set at the start of a word, and what follows its closing bracket. -/
def readSet? (gs : List Glyph) : Option ((Char → Bool) × List Glyph) :=
  let (negated, gs) := match gs with
    | ('!', false) :: rest => (true, rest)
    | gs => (false, gs)
  let (front, gs) := match gs with
    | (']', q) :: rest => ([(']', q)], rest)
    | gs => ([], gs)
  let inner := gs.takeWhile (· ≠ (']', false))
  if inner.length < gs.length then
    let members := (front ++ inner).map Prod.fst
    some (fun c => setMembers members c != negated, gs.drop (inner.length + 1))
  else none

/-- Read the pieces of a word's pattern. -/
def wordPieces : Nat → List Glyph → List Pattern.Piece
  | 0, _ => []
  | fuel + 1, gs =>
    match gs with
    | [] => []
    | ('*', false) :: rest => ⟨fun _ => true, true⟩ :: wordPieces fuel rest
    | ('?', false) :: rest => ⟨fun _ => true, false⟩ :: wordPieces fuel rest
    | ('[', false) :: rest =>
      match readSet? rest with
      | some (takes, rest) => ⟨takes, false⟩ :: wordPieces fuel rest
      | none => ⟨(· = '['), false⟩ :: wordPieces fuel rest
    | (c, _) :: rest => ⟨(· = c), false⟩ :: wordPieces fuel rest

/-- Read a pattern for words. -/
def Pattern.ofGlyphs (gs : List Glyph) : Pattern :=
  { atStart := true, atEnd := true, pieces := wordPieces (gs.length + 1) gs }

/-! ### Taking -/

/-- Whether pieces take the start of a text, or with `atEnd` all of it. -/
def takeFrom (atEnd : Bool) : Nat → List Pattern.Piece → List Char → Bool
  | 0, _, _ => false
  | _, [], cs => !atEnd || cs.isEmpty
  | fuel + 1, p :: ps, cs =>
    match cs with
    | c :: rest =>
      if p.repeats then takeFrom atEnd fuel ps cs || (p.takes c && takeFrom atEnd fuel (p :: ps) rest)
      else p.takes c && takeFrom atEnd fuel ps rest
    | [] => p.repeats && takeFrom atEnd fuel ps []

/-- The text from each place on. -/
def tails : List Char → List (List Char)
  | [] => [[]]
  | c :: rest => (c :: rest) :: tails rest

/-- Whether a pattern is found in a text. -/
def Pattern.occursIn (p : Pattern) (cs : List Char) : Bool :=
  let places := if p.atStart then [cs] else tails cs
  places.any fun cs => takeFrom p.atEnd (cs.length + p.pieces.length + 1) p.pieces cs

/-- The text without the start that a pattern takes, the shortest or the longest; all of it if there is none. -/
def Pattern.withoutStart (p : Pattern) (longest : Bool) (cs : List Char) : List Char :=
  let sizes := List.range (cs.length + 1)
  let sizes := if longest then sizes.reverse else sizes
  match sizes.find? fun n => p.occursIn (cs.take n) with
  | some n => cs.drop n
  | none => cs

/-- The text without the end that a pattern takes. -/
def Pattern.withoutEnd (p : Pattern) (longest : Bool) (cs : List Char) : List Char :=
  let sizes := List.range (cs.length + 1)
  let sizes := if longest then sizes else sizes.reverse
  match sizes.find? fun n => p.occursIn (cs.drop n) with
  | some n => cs.take n
  | none => cs

end PlaybookServer.Simulation.Shell
