/-
Module: PlaybookServer.Simulation.Shell.Word
Purpose: Words of a shell script, with their quotes, parameters, sums and the commands whose output they take.
  A word ends at a blank or an operator, and everything that was opened in it has to be closed.
Main exports: Use, Part, Word, WordFault, readWord, readDocument
-/
import PlaybookServer.Text.Lines

namespace PlaybookServer.Simulation.Shell

/-! ### Parts -/

/-- What is done with the value of a parameter. With `orEmpty` an empty value counts as none. -/
inductive Use where
  | plain
  | length
  /-- The word stands for a value that is not there. -/
  | instead (orEmpty : Bool)
  /-- As `instead`, and the word becomes the value. -/
  | assigning (orEmpty : Bool)
  /-- Without a value the shell ends with the word as its message. -/
  | required (orEmpty : Bool)
  /-- The word stands for a value that is there. -/
  | onlyWith (orEmpty : Bool)
  /-- The value without what the word takes of its start, as little or as much as it can. -/
  | withoutStart (longest : Bool)
  /-- The value without what the word takes of its end. -/
  | withoutEnd (longest : Bool)
  /-- No use that there is. -/
  | unknown
deriving DecidableEq, Repr, Inhabited

/-- Whether the word beside a parameter is a pattern. -/
def Use.takesPattern : Use → Bool
  | .withoutStart _ | .withoutEnd _ => true
  | _ => false

/-- A part of a word. What comes from a parameter or a command is split at blanks unless it is quoted. -/
inductive Part where
  | plain (c : Char)
  /-- Text between quotes; even if it is empty it makes a word. -/
  | fixed (chars : List Char)
  | parameter (name : String) (use : Use) (word : List Part) (quoted : Bool)
  | output (script : List Char) (quoted : Bool)
  | sum (expression : List Part) (quoted : Bool)
deriving Repr, Inhabited

/-- A word before its parameters are replaced. -/
abbrev Word := List Part

/-- What a word leaves open at the end of the text. -/
inductive WordFault where
  | quote
  | backQuote
  | brace
  | parentheses
  | command
deriving DecidableEq, Repr, Inhabited

/-- The text of a word without quotes or parameters. -/
def plainText? : Word → Option (List Char)
  | [] => some []
  | .plain c :: rest => (plainText? rest).map (c :: ·)
  | _ => none

/-- The text of a word with its quotes taken off, as far as it is text, and whether there were any. -/
def unquoted : Word → List Char × Bool
  | [] => ([], false)
  | .plain c :: rest => let (cs, q) := unquoted rest; (c :: cs, q)
  | .fixed cs :: rest => (cs ++ (unquoted rest).1, true)
  | _ :: rest => unquoted rest

/-! ### Characters -/

/-- Whether a character can stand in a parameter's name. -/
def isNameChar (c : Char) : Bool := c.isAlphanum || c = '_'

/-- Whether a text is the name of a variable. -/
def isVariableName (cs : List Char) : Bool := cs.all isNameChar && cs.head?.any fun c => !c.isDigit

/-- Whether a character is a parameter of its own. -/
def isSpecial (c : Char) : Bool := ['$', '*', '@', '#', '?', '!', '-'].contains c

/-- Whether a character is a backward quote, which surrounds commands. -/
def isBackQuote (c : Char) : Bool := c.toNat = 0x60

/-- Whether a character opens a braced parameter. -/
def isOpenBrace (c : Char) : Bool := c.toNat = 0x7b

/-- Whether a character closes a braced parameter. -/
def isCloseBrace (c : Char) : Bool := c.toNat = 0x7d

/-- Characters that end a word. -/
def endsWord (c : Char) : Bool := [' ', '\t', '\n', ';', '&', '|', '<', '>', '(', ')'].contains c

/-! ### Commands inside words -/

/-- The text up to the quote that closes it, that quote included, and what follows. -/
def cutDoubleQuotes : List Char → List Char × List Char
  | [] => ([], [])
  | '\\' :: c :: rest => let (inner, after) := cutDoubleQuotes rest; ('\\' :: c :: inner, after)
  | '"' :: rest => (['"'], rest)
  | c :: rest => let (inner, after) := cutDoubleQuotes rest; (c :: inner, after)

/-- The text up to the parenthesis that closes it, and what follows that. -/
def cutParenthesis? : Nat → Nat → List Char → Option (List Char × List Char)
  | 0, _, _ => none
  | fuel + 1, depth, cs =>
    let more (taken rest : List Char) (depth : Nat) :=
      (cutParenthesis? fuel depth rest).map fun (inner, after) => (taken ++ inner, after)
    match cs with
    | [] => none
    | ')' :: rest => if depth = 0 then some ([], rest) else more [')'] rest (depth - 1)
    | '(' :: rest => more ['('] rest (depth + 1)
    | '\\' :: c :: rest => more ['\\', c] rest depth
    | '\'' :: rest =>
      let inner := rest.takeWhile (· ≠ '\'')
      more ('\'' :: inner ++ ['\'']) (rest.drop (inner.length + 1)) depth
    | '"' :: rest =>
      let (inner, after) := cutDoubleQuotes rest
      more ('"' :: inner) after depth
    | c :: rest => more [c] rest depth

/-- The commands up to a backward quote, and what follows it. A backslash guards a few characters. -/
def cutBackQuotes? : List Char → Option (List Char × List Char)
  | [] => none
  | '\\' :: c :: rest =>
    (cutBackQuotes? rest).map fun (inner, after) =>
      (if isBackQuote c || c = '\\' || c = '$' then (c :: inner, after) else ('\\' :: c :: inner, after))
  | c :: rest =>
    if isBackQuote c then some ([], rest) else (cutBackQuotes? rest).map fun (inner, after) => (c :: inner, after)

/-- The use that follows a parameter's name, and what follows that. -/
def readUse : List Char → Use × List Char
  | ':' :: '-' :: rest => (.instead true, rest)
  | '-' :: rest => (.instead false, rest)
  | ':' :: '=' :: rest => (.assigning true, rest)
  | '=' :: rest => (.assigning false, rest)
  | ':' :: '?' :: rest => (.required true, rest)
  | '?' :: rest => (.required false, rest)
  | ':' :: '+' :: rest => (.onlyWith true, rest)
  | '+' :: rest => (.onlyWith false, rest)
  | '#' :: '#' :: rest => (.withoutStart true, rest)
  | '#' :: rest => (.withoutStart false, rest)
  | '%' :: '%' :: rest => (.withoutEnd true, rest)
  | '%' :: rest => (.withoutEnd false, rest)
  | c :: rest => if isCloseBrace c then (.plain, c :: rest) else (.unknown, rest)
  | [] => (.plain, [])

/-- The name of a braced parameter, and what follows it. -/
def readBracedName (cs : List Char) : List Char × List Char :=
  match cs with
  | c :: rest =>
    if c.isDigit then (cs.takeWhile Char.isDigit, cs.dropWhile Char.isDigit)
    else if isSpecial c then ([c], rest)
    else (cs.takeWhile isNameChar, cs.dropWhile isNameChar)
  | [] => ([], [])

/-! ### Reading -/

mutual

/-- What stands after a dollar sign; nothing if the sign stands for itself. -/
def readDollar (quoted : Bool) : Nat → List Char → Except WordFault (Option (Part × List Char))
  | 0, _ => .ok none
  | fuel + 1, cs =>
    match cs with
    | '(' :: '(' :: rest =>
      match cutParenthesis? (rest.length + 1) 0 rest with
      | some (inner, ')' :: after) => do
        let (w, _) ← readDouble true fuel [] inner
        return some (.sum w quoted, after)
      | _ => .error .parentheses
    | '(' :: rest =>
      match cutParenthesis? (rest.length + 1) 0 rest with
      | some (inner, after) => .ok (some (.output inner quoted, after))
      | none => .error .command
    | c :: rest =>
      if isOpenBrace c then do
        let (p, after) ← readBraced quoted fuel rest
        return some (p, after)
      else if isSpecial c || c.isDigit then .ok (some (.parameter (String.ofList [c]) .plain [] quoted, rest))
      else if isNameChar c then
        let name := cs.takeWhile isNameChar
        .ok (some (.parameter (String.ofList name) .plain [] quoted, cs.dropWhile isNameChar))
      else .ok none
    | [] => .ok none

/-- A parameter between braces. -/
def readBraced (quoted : Bool) : Nat → List Char → Except WordFault (Part × List Char)
  | 0, _ => .error .brace
  | fuel + 1, cs =>
    let isLength : Bool := match cs with
      | '#' :: c :: _ => !isCloseBrace c && (isNameChar c || isSpecial c)
      | _ => false
    if isLength then
      match readBracedName (cs.drop 1) with
      | (name, c :: after) =>
        if isCloseBrace c then .ok (.parameter (String.ofList name) .length [] quoted, after) else .error .brace
      | _ => .error .brace
    else
      let (name, rest) := readBracedName cs
      let (use, rest) := if name.isEmpty then (Use.unknown, rest) else readUse rest
      do
        let (w, after) ← readBracedWord (quoted && !use.takesPattern) fuel [] rest
        return (.parameter (String.ofList name) use w quoted, after)

/-- A word up to a closing brace. -/
def readBracedWord (quoted : Bool) : Nat → Word → List Char → Except WordFault (Word × List Char)
  | 0, _, _ => .error .brace
  | fuel + 1, w, cs =>
    match cs with
    | [] => .error .brace
    | '\\' :: c :: rest =>
      let guards := !quoted || c = '"' || c = '\\' || c = '$' || isBackQuote c || isCloseBrace c
      readBracedWord quoted fuel (w ++ [.fixed (if guards then [c] else ['\\', c])]) rest
    | '"' :: rest => do
      let (w, rest) ← readDouble false fuel (w ++ [.fixed []]) rest
      readBracedWord quoted fuel w rest
    | '$' :: rest => do
      match ← readDollar quoted fuel rest with
      | some (p, rest) => readBracedWord quoted fuel (w ++ [p]) rest
      | none => readBracedWord quoted fuel (w ++ [.plain '$']) rest
    | c :: rest =>
      if isCloseBrace c then .ok (w, rest)
      else if c = '\'' && !quoted then
        let inner := rest.takeWhile (· ≠ '\'')
        if inner.length < rest.length then
          readBracedWord quoted fuel (w ++ [.fixed inner]) (rest.drop (inner.length + 1))
        else .error .quote
      else if isBackQuote c then
        match cutBackQuotes? rest with
        | some (inner, rest) => readBracedWord quoted fuel (w ++ [.output inner quoted]) rest
        | none => .error .backQuote
      else readBracedWord quoted fuel (w ++ [if quoted then .fixed [c] else .plain c]) rest

/-- Text inside double quotes. With `whole` there are none around it and all of the text is taken. -/
def readDouble (whole : Bool) : Nat → Word → List Char → Except WordFault (Word × List Char)
  | 0, _, _ => .error .quote
  | fuel + 1, w, cs =>
    match cs with
    | [] => if whole then .ok (w, []) else .error .quote
    | '"' :: rest => if whole then readDouble whole fuel (w ++ [.fixed ['"']]) rest else .ok (w, rest)
    | '\\' :: '\n' :: rest => readDouble whole fuel w rest
    | '\\' :: c :: rest =>
      let guards := (c = '"' && !whole) || c = '\\' || c = '$' || isBackQuote c
      readDouble whole fuel (w ++ [.fixed (if guards then [c] else ['\\', c])]) rest
    | '$' :: rest => do
      match ← readDollar true fuel rest with
      | some (p, rest) => readDouble whole fuel (w ++ [p]) rest
      | none => readDouble whole fuel (w ++ [.fixed ['$']]) rest
    | c :: rest =>
      if isBackQuote c then
        match cutBackQuotes? rest with
        | some (inner, rest) => readDouble whole fuel (w ++ [.output inner true]) rest
        | none => .error .backQuote
      else readDouble whole fuel (w ++ [.fixed [c]]) rest

end

/-- Read the parts of a word. -/
def readParts : Nat → Word → List Char → Except WordFault (Word × List Char)
  | 0, w, cs => .ok (w, cs)
  | fuel + 1, w, cs =>
    match cs with
    | [] => .ok (w, [])
    | '\'' :: rest =>
      let inner := rest.takeWhile (· ≠ '\'')
      if inner.length < rest.length then readParts fuel (w ++ [.fixed inner]) (rest.drop (inner.length + 1))
      else .error .quote
    | '"' :: rest => do
      let (w, rest) ← readDouble false (2 * rest.length + 2) (w ++ [.fixed []]) rest
      readParts fuel w rest
    | '\\' :: '\n' :: rest => readParts fuel w rest
    | '\\' :: c :: rest => readParts fuel (w ++ [.fixed [c]]) rest
    | '$' :: rest => do
      match ← readDollar false (2 * rest.length + 2) rest with
      | some (p, rest) => readParts fuel (w ++ [p]) rest
      | none => readParts fuel (w ++ [.plain '$']) rest
    | c :: rest =>
      if isBackQuote c then
        match cutBackQuotes? rest with
        | some (inner, rest) => readParts fuel (w ++ [.output inner false]) rest
        | none => .error .backQuote
      else if endsWord c then .ok (w, cs)
      else readParts fuel (w ++ [.plain c]) rest

/-- Read the word at the start of a text, and what follows it. -/
def readWord (cs : List Char) : Except WordFault (Word × List Char) := readParts (cs.length + 1) [] cs

/-- Read a text that stands between lines of a script, with its parameters unless it is taken as it is. -/
def readDocument (asIs : Bool) (cs : List Char) : Except WordFault Word :=
  if asIs then .ok [.fixed cs] else (readDouble true (2 * cs.length + 2) [] cs).map Prod.fst

end PlaybookServer.Simulation.Shell
