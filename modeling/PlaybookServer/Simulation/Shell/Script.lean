/-
Module: PlaybookServer.Simulation.Shell.Script
Purpose: Shell scripts: redirections, pipelines, and the commands that hold others. A script is read line by
  line, since a shell runs each line before it reads the next.
Main exports: Redirect, Simple, Command, Clause, Branch, ScriptFault, parseScript
-/
import PlaybookServer.Simulation.Shell.Word

namespace PlaybookServer.Simulation.Shell

/-! ### Commands -/

/-- Where a stream of a command goes or comes from. -/
inductive Redirect where
  | toFile (stream : Nat) (append : Bool) (target : Word)
  | toStream (stream target : Nat)
  | fromFile (source : Word)
  /-- A text in the script. -/
  | fromText (text : Word)
deriving Repr, Inhabited

/-- A command with its assignments and redirections. -/
structure Simple where
  assignments : List (String × Word) := []
  words : List Word := []
  redirects : List Redirect := []
deriving Repr, Inhabited

/-- When a pipeline runs after the one before it. -/
inductive Link where
  | always
  | onSuccess
  | onFailure
deriving DecidableEq, Repr, Inhabited

mutual

/-- A command, with the line it stands on if it can be at fault. -/
inductive Command where
  | simple (line : Nat) (command : Simple)
  /-- Commands between braces. -/
  | group (body : List Clause) (redirects : List Redirect)
  /-- Commands between parentheses, run by a shell of their own. -/
  | apart (body : List Clause) (redirects : List Redirect)
  | choice (test yes no : List Clause) (redirects : List Redirect)
  /-- Commands that run while a test succeeds, or fails. -/
  | loop (onSuccess : Bool) (test body : List Clause) (redirects : List Redirect)
  /-- Commands that run for each word, or for each argument. -/
  | each (name : String) (words : Option (List Word)) (body : List Clause) (redirects : List Redirect)
  /-- Commands chosen by the first pattern that a word fits. -/
  | select (subject : Word) (branches : List Branch) (redirects : List Redirect)
  /-- A command that gets a name. -/
  | define (name : String) (body : Command)

/-- A pipeline: when it runs, whether its outcome is turned round, whether it is left running, and its
    commands. -/
inductive Clause where
  | mk (link : Link) (negated background : Bool) (commands : List Command)

/-- A branch of a selection. -/
inductive Branch where
  | mk (patterns : List Word) (body : List Clause)

end

instance : Inhabited Command := ⟨.simple 1 {}⟩

/-! ### Faults -/

/-- Why a script cannot be read. -/
inductive ScriptFault where
  | openWord (line : Nat) (fault : WordFault)
  | unexpected (line : Nat) (what : String) (expected : Option String)
  | badLoopName (line : Nat)
deriving DecidableEq, Repr, Inhabited

/-- The line of a fault. -/
def ScriptFault.line : ScriptFault → Nat
  | .openWord n _ | .unexpected n _ _ | .badLoopName n => n

/-- What a message says of a word that is left open. -/
def WordFault.text : WordFault → String
  | .quote => "Unterminated quoted string"
  | .backQuote => "EOF in backquote substitution"
  | .brace => "Missing '\x7d'"
  | .parentheses => "Missing '))'"
  | .command => "end of file unexpected (expecting \")\")"

/-- The text of a fault. -/
def ScriptFault.text : ScriptFault → String
  | .openWord _ f => "Syntax error: " ++ f.text
  | .unexpected _ what none => "Syntax error: " ++ what ++ " unexpected"
  | .unexpected _ what (some e) => "Syntax error: " ++ what ++ " unexpected (expecting " ++ e ++ ")"
  | .badLoopName _ => "Syntax error: Bad for loop variable"

/-! ### Tokens -/

/-- What a token is. -/
inductive Lexeme where
  | word (w : Word)
  | operator (s : String)
  | newline
  /-- A redirection of a stream by an operator. -/
  | redirect (stream : Nat) (operator : String)
  /-- A text in the script that a command reads. -/
  | document (text : Word)
deriving Repr, Inhabited

/-- A token and its line. -/
structure Token where
  line : Nat
  lexeme : Lexeme
deriving Repr, Inhabited

/-- Whether a token is an operator. -/
def Token.isOperator (t : Token) (s : String) : Bool :=
  match t.lexeme with
  | .operator o => o = s
  | _ => false

/-- Whether a token ends a line. -/
def Token.isNewline (t : Token) : Bool :=
  match t.lexeme with
  | .newline => true
  | _ => false

/-- A redirection's operator, and what follows it. -/
def readRedirect? (stream : Option Nat) : List Char → Option (Lexeme × List Char)
  | '>' :: '>' :: rest => some (.redirect (stream.getD 1) ">>", rest)
  | '>' :: '&' :: rest => some (.redirect (stream.getD 1) ">&", rest)
  | '>' :: '|' :: rest => some (.redirect (stream.getD 1) ">", rest)
  | '>' :: rest => some (.redirect (stream.getD 1) ">", rest)
  | '<' :: '<' :: '-' :: rest => some (.redirect (stream.getD 0) "<<-", rest)
  | '<' :: '<' :: rest => some (.redirect (stream.getD 0) "<<", rest)
  | '<' :: '&' :: rest => some (.redirect (stream.getD 0) "<&", rest)
  | '<' :: rest => some (.redirect (stream.getD 0) "<", rest)
  | _ => none

/-- The operator at the start of a text, with a redirection's stream. -/
def readOperator? (cs : List Char) : Option (Lexeme × List Char) :=
  match cs with
  | '&' :: '&' :: rest => some (.operator "&&", rest)
  | '|' :: '|' :: rest => some (.operator "||", rest)
  | ';' :: ';' :: rest => some (.operator ";;", rest)
  | ';' :: rest => some (.operator ";", rest)
  | '\n' :: rest => some (.newline, rest)
  | '&' :: rest => some (.operator "&", rest)
  | '|' :: rest => some (.operator "|", rest)
  | '(' :: rest => some (.operator "(", rest)
  | ')' :: rest => some (.operator ")", rest)
  | d :: rest => if d.isDigit then readRedirect? (some (d.toNat - 0x30)) rest else readRedirect? none cs
  | [] => none

/-- Lines that end in a text. -/
def lineBreaks (cs : List Char) : Nat := (cs.filter (· = '\n')).length

/-- A text that is to come after the line: what ends it, whether tabs at its lines' starts are dropped, and
    whether it is taken as it is. -/
structure Awaited where
  ending : List Char
  dropsTabs : Bool
  asIs : Bool
deriving DecidableEq, Repr, Inhabited

/-- The lines of a text up to the one that ends it, and what follows that. -/
def cutDocument (a : Awaited) : Nat → List Char → List Char × List Char
  | 0, cs => ([], cs)
  | fuel + 1, cs =>
    if cs.isEmpty then ([], [])
    else
      let line := cs.takeWhile (· ≠ '\n')
      let feed := (cs.drop line.length).take 1
      let rest := cs.drop (line.length + 1)
      let line := if a.dropsTabs then line.dropWhile (· = '\t') else line
      if line = a.ending then ([], rest)
      else
        let (more, rest) := cutDocument a fuel rest
        (line ++ feed ++ more, rest)

/-- Take the texts that a line awaits, in order. -/
def readDocuments : List Awaited → List Char → Except WordFault (List Word × List Char)
  | [], cs => .ok ([], cs)
  | a :: as, cs => do
    let (text, rest) := cutDocument a (cs.length + 1) cs
    let w ← readDocument a.asIs text
    let (ws, rest) ← readDocuments as rest
    return (w :: ws, rest)

/-- Tokens, the texts that earlier tokens await, and the fault that cuts them short. -/
abbrev Scanned := List Token × List Word × Option ScriptFault

/-- The tokens of a text from a line on. -/
def tokens : Nat → Nat → List Awaited → List Char → Scanned
  | 0, _, _, _ => ([], [], none)
  | fuel + 1, line, awaited, cs =>
    let lineAfter (rest : List Char) : Nat := line + lineBreaks (cs.take (cs.length - rest.length))
    match cs with
    | [] => ([], awaited.map fun _ => [], none)
    | ' ' :: rest | '\t' :: rest => tokens fuel line awaited rest
    | '\\' :: '\n' :: rest => tokens fuel (line + 1) awaited rest
    | '#' :: rest => tokens fuel line awaited (rest.dropWhile (· ≠ '\n'))
    | cs =>
      match readOperator? cs with
      | some (.newline, rest) =>
        match readDocuments awaited rest with
        | .error f => ([], [], some (.openWord (line + lineBreaks cs) f))
        | .ok (ws, rest) =>
          let (ts, _, fault) := tokens fuel (lineAfter rest) [] rest
          (⟨line, .newline⟩ :: ts, ws, fault)
      | some (.redirect stream operator, rest) =>
        if operator = "<<" || operator = "<<-" then
          match readWord (rest.dropWhile fun c => c = ' ' || c = '\t') with
          | .error f => ([], [], some (.openWord (line + lineBreaks cs) f))
          | .ok (w, rest) =>
            let (ending, asIs) := unquoted w
            let (ts, ws, fault) := tokens fuel (lineAfter rest) (awaited ++ [⟨ending, operator = "<<-", asIs⟩]) rest
            (⟨line, .document (ws.getD awaited.length [])⟩ :: ts, ws, fault)
        else
          let (ts, ws, fault) := tokens fuel line awaited rest
          (⟨line, .redirect stream operator⟩ :: ts, ws, fault)
      | some (t, rest) =>
        let (ts, ws, fault) := tokens fuel line awaited rest
        (⟨line, t⟩ :: ts, ws, fault)
      | none =>
        match readWord cs with
        | .error f => ([], awaited.map fun _ => [], some (.openWord (line + lineBreaks cs) f))
        | .ok (w, rest) =>
          let (ts, ws, fault) := tokens fuel (lineAfter rest) awaited rest
          (⟨line, .word w⟩ :: ts, ws, fault)

/-! ### Reading commands -/

/-- Words that open, divide or close commands that hold others. -/
def reservedWords : List String :=
  ["if", "then", "elif", "else", "fi", "while", "until", "for", "do", "done", "in", "case", "esac", "\x7b", "\x7d",
   "!"]

/-- Words that cannot start a command. -/
def closingWords : List String := ["then", "elif", "else", "fi", "do", "done", "esac", "\x7d"]

/-- The reserved word that a token is. -/
def Token.reserved? (t : Token) : Option String :=
  match t.lexeme with
  | .word w => ((plainText? w).map String.ofList).filter reservedWords.contains
  | _ => none

/-- A word as a message names it. -/
def inQuotes (w : String) : String := "\"" ++ w ++ "\""

/-- How a message names a token. -/
def Token.named (t : Token) : String :=
  match t.lexeme, t.reserved? with
  | _, some w => inQuotes w
  | .operator s, _ => inQuotes s
  | .newline, _ => "newline"
  | .redirect _ _, _ | .document _, _ => "redirection"
  | .word _, _ => "word"

/-- The fault of the next token, or of the end. -/
def faultAt (lastLine : Nat) (expected : Option String) : List Token → ScriptFault
  | t :: _ => .unexpected t.line t.named expected
  | [] => .unexpected lastLine "end of file" expected

/-- An assignment: a name, an equals sign and a word, if a word has that form. -/
def assignment? (w : Word) : Option (String × Word) :=
  let front := w.takeWhile fun p => match p with
    | .plain c => isNameChar c
    | _ => false
  let name := (plainText? front).getD []
  match w.drop front.length with
  | .plain '=' :: value => if isVariableName name then some (String.ofList name, value) else none
  | _ => none

/-- A redirection from its operator and the word after it. -/
def redirectOf (stream : Nat) (operator : String) (w : Word) : Redirect :=
  match operator, plainText? w with
  | ">&", some [d] | "<&", some [d] =>
    if d.isDigit then .toStream stream (d.toNat - 0x30) else .toFile stream false w
  | ">>", _ => .toFile stream true w
  | "<", _ => .fromFile w
  | _, _ => .toFile stream false w

/-- Add a word to a command; assignments stand before the first other word. -/
def Simple.add (c : Simple) (w : Word) : Simple :=
  match (if c.words.isEmpty then assignment? w else none) with
  | some a => { c with assignments := c.assignments ++ [a] }
  | none => { c with words := c.words ++ [w] }

/-- Skip the ends of lines. -/
def skipLines (ts : List Token) : List Token := ts.dropWhile Token.isNewline

/-- Read the words and redirections of a simple command. -/
def readSimple (lastLine : Nat) : Simple → List Token → Except ScriptFault (Simple × List Token)
  | c, ⟨_, .word w⟩ :: rest => readSimple lastLine (c.add w) rest
  | c, ⟨_, .document w⟩ :: rest => readSimple lastLine { c with redirects := c.redirects ++ [.fromText w] } rest
  | c, ⟨_, .redirect stream operator⟩ :: ⟨_, .word w⟩ :: rest =>
    readSimple lastLine { c with redirects := c.redirects ++ [redirectOf stream operator w] } rest
  | _, ⟨_, .redirect _ _⟩ :: rest => .error (faultAt lastLine none rest)
  | c, rest => .ok (c, rest)

/-- Read redirections. -/
def readRedirects (lastLine : Nat) : List Redirect → List Token → Except ScriptFault (List Redirect × List Token)
  | rs, ⟨_, .document w⟩ :: rest => readRedirects lastLine (rs ++ [.fromText w]) rest
  | rs, ⟨_, .redirect stream operator⟩ :: ⟨_, .word w⟩ :: rest =>
    readRedirects lastLine (rs ++ [redirectOf stream operator w]) rest
  | _, ⟨_, .redirect _ _⟩ :: rest => .error (faultAt lastLine none rest)
  | rs, rest => .ok (rs, rest)

/-- Skip a reserved word that must come next. -/
def expectWord (lastLine : Nat) (w : String) : List Token → Except ScriptFault (List Token)
  | t :: rest => if t.reserved? = some w then .ok rest else .error (faultAt lastLine (some (inQuotes w)) (t :: rest))
  | [] => .error (faultAt lastLine (some (inQuotes w)) [])

/-- The words of a loop up to the end of its line. -/
def loopWords (lastLine : Nat) : List Token → Except ScriptFault (List Word × List Token)
  | ⟨_, .word w⟩ :: rest => do
    let (ws, rest) ← loopWords lastLine rest
    return (w :: ws, rest)
  | ⟨_, .operator ";"⟩ :: rest | ⟨_, .newline⟩ :: rest => .ok ([], rest)
  | rest => .error (faultAt lastLine none rest)

/-- The patterns of a branch, and what follows the parenthesis after them. -/
def branchPatterns (lastLine : Nat) : List Word → List Token → Except ScriptFault (List Word × List Token)
  | ws, ⟨_, .word w⟩ :: ⟨_, .operator "|"⟩ :: rest => branchPatterns lastLine (ws ++ [w]) rest
  | ws, ⟨_, .word w⟩ :: ⟨_, .operator ")"⟩ :: rest => .ok (ws ++ [w], rest)
  | _, ⟨_, .word _⟩ :: rest => .error (faultAt lastLine (some (inQuotes ")")) rest)
  | _, rest => .error (faultAt lastLine (some (if rest.isEmpty then inQuotes ")" else "word")) rest)

mutual

/-- Read pipelines up to something that cannot start one; there must be one. -/
def readBody (lastLine : Nat) : Nat → List Token → Except ScriptFault (List Clause × List Token)
  | 0, ts => .error (faultAt lastLine none ts)
  | fuel + 1, ts => do
    let (body, rest) ← readClauses lastLine false fuel .always [] (skipLines ts)
    if body.isEmpty then .error (faultAt lastLine none rest) else return (body, rest)

/-- Read pipelines and what links them, those of one line or all. -/
def readClauses (lastLine : Nat) (oneLine : Bool) :
    Nat → Link → List Clause → List Token → Except ScriptFault (List Clause × List Token)
  | 0, _, _, ts => .error (faultAt lastLine none ts)
  | fuel + 1, link, done, ts => do
    let ends : Bool := match ts with
      | [] => true
      | t :: _ => t.isOperator ")" || t.isOperator ";;" || closingWords.contains (t.reserved?.getD "")
    if ends then
      if link = .always then return (done, ts) else .error (faultAt lastLine none ts)
    else
      let (negated, commands, rest) ← readPipeline lastLine fuel ts
      let add (background : Bool) : List Clause := done ++ [.mk link negated background commands]
      match rest with
      | ⟨_, .operator "&&"⟩ :: rest => readClauses lastLine oneLine fuel .onSuccess (add false) (skipLines rest)
      | ⟨_, .operator "||"⟩ :: rest => readClauses lastLine oneLine fuel .onFailure (add false) (skipLines rest)
      | ⟨_, .newline⟩ :: more =>
        if oneLine then return (add false, rest)
        else readClauses lastLine oneLine fuel .always (add false) (skipLines more)
      | ⟨_, .operator ";"⟩ :: rest =>
        if oneLine && rest.head?.any Token.isNewline then return (add false, rest)
        else readClauses lastLine oneLine fuel .always (add false) (skipLines rest)
      | ⟨_, .operator "&"⟩ :: rest =>
        if oneLine && rest.head?.any Token.isNewline then return (add true, rest)
        else readClauses lastLine oneLine fuel .always (add true) (skipLines rest)
      | rest => return (add false, rest)

/-- Read a pipeline. -/
def readPipeline (lastLine : Nat) : Nat → List Token → Except ScriptFault (Bool × List Command × List Token)
  | 0, ts => .error (faultAt lastLine none ts)
  | fuel + 1, ts => do
    let negated : Bool := (ts.head?.bind Token.reserved?) = some "!"
    let (commands, rest) ← readPiped lastLine fuel (if negated then ts.drop 1 else ts)
    return (negated, commands, rest)

/-- Read the commands of a pipeline. -/
def readPiped (lastLine : Nat) : Nat → List Token → Except ScriptFault (List Command × List Token)
  | 0, ts => .error (faultAt lastLine none ts)
  | fuel + 1, ts => do
    let (c, rest) ← readCommand lastLine fuel ts
    match rest with
    | ⟨_, .operator "|"⟩ :: rest =>
      let (cs, rest) ← readPiped lastLine fuel (skipLines rest)
      return (c :: cs, rest)
    | rest => return ([c], rest)

/-- Read a command. -/
def readCommand (lastLine : Nat) : Nat → List Token → Except ScriptFault (Command × List Token)
  | 0, ts => .error (faultAt lastLine none ts)
  | fuel + 1, ts =>
    match ts with
    | [] => .error (faultAt lastLine none [])
    | t :: rest => do
      match t.lexeme, t.reserved? with
      | .operator "(", _ =>
        let (body, rest) ← readBody lastLine fuel rest
        match rest with
        | ⟨_, .operator ")"⟩ :: rest =>
          let (rs, rest) ← readRedirects lastLine [] rest
          return (.apart body rs, rest)
        | rest => .error (faultAt lastLine (some (inQuotes ")")) rest)
      | _, some "\x7b" =>
        let (body, rest) ← readBody lastLine fuel rest
        let (rs, rest) ← readRedirects lastLine [] (← expectWord lastLine "\x7d" rest)
        return (.group body rs, rest)
      | _, some "if" =>
        let (c, rest) ← readChoice lastLine fuel rest
        return (c, rest)
      | _, some "while" | _, some "until" =>
        let (test, rest) ← readLoopPart lastLine fuel "do" rest
        let (body, rest) ← readBody lastLine fuel rest
        let (rs, rest) ← readRedirects lastLine [] (← expectWord lastLine "done" rest)
        return (.loop (t.reserved? = some "while") test body rs, rest)
      | _, some "for" => readEach lastLine fuel rest
      | _, some "case" => readSelect lastLine fuel rest
      | .operator _, _ | .newline, _ => .error (faultAt lastLine none ts)
      | .word w, reserved =>
        if reserved.isSome && reserved ≠ some "in" then .error (faultAt lastLine none ts)
        else
          match plainText? w, rest with
          | some name, ⟨_, .operator "("⟩ :: ⟨_, .operator ")"⟩ :: rest =>
            let (body, rest) ← readCommand lastLine fuel (skipLines rest)
            return (.define (String.ofList name) body, rest)
          | some _, ⟨_, .operator "("⟩ :: rest => .error (faultAt lastLine (some (inQuotes ")")) rest)
          | _, _ =>
            let (c, rest) ← readSimple lastLine {} ts
            return (.simple t.line c, rest)
      | _, _ =>
        let (c, rest) ← readSimple lastLine {} ts
        return (.simple t.line c, rest)

/-- Read a loop over words after its first word. -/
def readEach (lastLine : Nat) : Nat → List Token → Except ScriptFault (Command × List Token)
  | 0, ts => .error (faultAt lastLine none ts)
  | fuel + 1, ts => do
    match ts with
    | ⟨line, .word w⟩ :: rest =>
      let name := (plainText? w).getD []
      if !isVariableName name then .error (.badLoopName line)
      else
        let rest := skipLines rest
        let (words, rest) ← match rest with
          | u :: more =>
            if u.reserved? = some "in" then do
              let (ws, rest) ← loopWords lastLine more
              pure (some ws, rest)
            else if u.isOperator ";" then pure (none, more)
            else pure (none, rest)
          | [] => pure (none, rest)
        let (body, rest) ← readBody lastLine fuel (← expectWord lastLine "do" (skipLines rest))
        let (rs, rest) ← readRedirects lastLine [] (← expectWord lastLine "done" rest)
        return (.each (String.ofList name) words body rs, rest)
    | ts => .error (.badLoopName ((ts.head?.map Token.line).getD lastLine))

/-- Read a selection after its first word. -/
def readSelect (lastLine : Nat) : Nat → List Token → Except ScriptFault (Command × List Token)
  | 0, ts => .error (faultAt lastLine none ts)
  | fuel + 1, ts => do
    match ts with
    | ⟨_, .word w⟩ :: rest =>
      let rest ← expectWord lastLine "in" (skipLines rest)
      let (branches, rest) ← readBranches lastLine fuel [] (skipLines rest)
      let (rs, rest) ← readRedirects lastLine [] rest
      return (.select w branches rs, rest)
    | ts => .error (faultAt lastLine (some "word") ts)

/-- Read the branches of a selection and the word that closes it. -/
def readBranches (lastLine : Nat) :
    Nat → List Branch → List Token → Except ScriptFault (List Branch × List Token)
  | 0, _, ts => .error (faultAt lastLine none ts)
  | fuel + 1, done, ts => do
    if (ts.head?.bind Token.reserved?) = some "esac" then return (done, ts.drop 1)
    else
      let ts := if ts.head?.any (Token.isOperator · "(") then ts.drop 1 else ts
      let (patterns, rest) ← branchPatterns lastLine [] ts
      let (body, rest) ← readClauses lastLine false fuel .always [] (skipLines rest)
      let done := done ++ [.mk patterns body]
      match rest with
      | ⟨_, .operator ";;"⟩ :: rest => readBranches lastLine fuel done (skipLines rest)
      | rest => return (done, ← expectWord lastLine "esac" rest)

/-- Read pipelines and the reserved word after them. -/
def readLoopPart (lastLine : Nat) : Nat → String → List Token → Except ScriptFault (List Clause × List Token)
  | 0, w, ts => .error (faultAt lastLine (some (inQuotes w)) ts)
  | fuel + 1, w, ts => do
    if ts.isEmpty then .error (faultAt lastLine (some (inQuotes w)) [])
    else
      let (body, rest) ← readBody lastLine fuel ts
      return (body, ← expectWord lastLine w rest)

/-- Read a choice after its first word. -/
def readChoice (lastLine : Nat) : Nat → List Token → Except ScriptFault (Command × List Token)
  | 0, ts => .error (faultAt lastLine none ts)
  | fuel + 1, ts => do
    let (test, rest) ← readLoopPart lastLine fuel "then" ts
    if rest.isEmpty then .error (faultAt lastLine (some (inQuotes "fi")) [])
    else
      let (yes, rest) ← readBody lastLine fuel rest
      match rest.head?.bind Token.reserved? with
      | some "elif" =>
        let (c, rest) ← readChoice lastLine fuel (rest.drop 1)
        return (.choice test yes [.mk .always false false [c]] [], rest)
      | some "else" =>
        let (no, rest) ← readBody lastLine fuel (rest.drop 1)
        let (rs, rest) ← readRedirects lastLine [] (← expectWord lastLine "fi" rest)
        return (.choice test yes no rs, rest)
      | _ =>
        let (rs, rest) ← readRedirects lastLine [] (← expectWord lastLine "fi" rest)
        return (.choice test yes [] rs, rest)

end

/-- A script: what can be run of it, line by line, and the fault that comes after that. -/
abbrev Script := List (List Clause) × Option ScriptFault

/-- Read the lines of a script. A fault in a word shows as soon as the line with it is reached. -/
def readScript (lastLine : Nat) (fault : Option ScriptFault) : Nat → List Token → Script
  | 0, _ => ([], fault)
  | fuel + 1, ts =>
    let ts := skipLines ts
    if ts.isEmpty then ([], fault)
    else
      match readClauses lastLine true (8 * ts.length + 8) .always [] ts with
      | .error f =>
        let isEnd : Bool := match f with
          | .unexpected _ what _ => what = "end of file"
          | _ => false
        ([], some (if isEnd then fault.getD f else f))
      | .ok (clauses, rest) =>
        if rest.isEmpty then if fault.isSome then ([], fault) else ([clauses], none)
        else if rest.head?.any Token.isNewline then
          let (lines, fault) := readScript lastLine fault fuel rest
          (clauses :: lines, fault)
        else ([], some (faultAt lastLine none rest))

/-- Read a script that starts on a line. -/
def parseScript (line : Nat) (text : List Char) : Script :=
  let (ts, _, fault) := tokens (text.length + 1) line [] text
  readScript (line + lineBreaks text) fault (ts.length + 1) ts

end PlaybookServer.Simulation.Shell
