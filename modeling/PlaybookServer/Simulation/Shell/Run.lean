/-
Module: PlaybookServer.Simulation.Shell.Run
Purpose: Running shell scripts on a disk: words, lists, pipelines, redirections, functions, and programs that are
  scripts themselves.
Main exports: runText, runShell, execute
-/
import PlaybookServer.Effect.Query
import PlaybookServer.Simulation.Shell.Programs

namespace PlaybookServer.Simulation.Shell

open Text Files Effect

/-! ### Redirections -/

/-- Whether a redirection gives a command its input. -/
def Redirect.isInput : Redirect → Bool
  | .fromFile _ | .fromText _ => true
  | _ => false

/-- Let the streams lead where they did before redirections. -/
def Machine.withStreamsOf (after before : Machine) (redirects : List Redirect) : Machine :=
  { after with
    sinks := before.sinks
    input := if redirects.any Redirect.isInput then before.input else after.input }

/-- Why a file cannot be opened, as a shell says it. -/
def openingReason (creating : Bool) (e : IoFault) : String :=
  match e with
  | .notFound | .notADirectory => if creating then "Directory nonexistent" else "No such file"
  | e => reasonOf e

/-- Let a stream lead to a file; none with a message if it cannot be made. -/
def openFile (m : Machine) (stream : Nat) (append : Bool) (path : String) : Machine × Bool :=
  if path = "/dev/null" then (m.point stream .nowhere, true)
  else
    let place := m.pathOf path
    let old := if append then (m.disk.readBytes place).toOption.getD [] else []
    match m.disk.put place old with
    | .ok disk => ({ m with disk }.point stream (.file place), true)
    | .error e => (m.fail ("cannot create " ++ path ++ ": " ++ openingReason true e) 2, false)

/-! ### Words -/

/-- The start of a word that stands for a home directory, replaced by it. -/
def homeAtStart (m : Machine) (w : Word) : Word :=
  match w with
  | .plain '~' :: rest =>
    let user := rest.takeWhile fun p => match p with
      | .plain c => c ≠ '/' && c ≠ ':'
      | _ => false
    let ends : Bool := match rest.drop user.length with
      | [] | .plain _ :: _ => true
      | _ => false
    let home : Option String := match (plainText? user).map String.ofList with
      | some "" => m.value? "HOME"
      | some "root" => some "/root"
      | _ => none
    match ends, home with
    | true, some h => (if h = "" then [] else [.fixed h.toList]) ++ rest.drop user.length
    | _, _ => w
  | w => w

/-- Replace home directories in the value of an assignment, where they may also stand after a colon. -/
def homesInValue (m : Machine) : Nat → Word → Word
  | 0, w => w
  | fuel + 1, w =>
    let w := homeAtStart m w
    let front := w.takeWhile fun p => match p with
      | .plain ':' => false
      | _ => true
    match w.drop front.length with
    | colon :: rest => front ++ colon :: homesInValue m fuel rest
    | [] => front

/-- Text of the script that is split at blanks where a parameter's value would be. -/
def Field.loosened : Field → Field
  | .bare c => .loose [c]
  | f => f

/-! ### Programs -/

/-- Whether a program's text is to be run by the richer shell. -/
def asksForRich (text : String) : Bool :=
  match linesOf text with
  | first :: _ => hasStem first "#!" && occursIn "bash" first
  | [] => false

/-- A child with the exported variables. Signals that are ignored stay so. -/
def spawn (m : Machine) : Machine :=
  { m with
    bindings := m.exported, arguments := [], status := 0, jump := none, loops := 0, functions := [], hidden := none
    traps := m.traps.filter fun t => t.2 = "", pending := [], stopsOnFailure := false, needsValues := false
    showsCommands := false, background := none, line := 1 }

/-- What a child leaves to the shell that started it. -/
def adopt (parent child : Machine) : Machine :=
  let m := parent.resume { child with ending := none }
  match child.ending with
  | some (.killed signal) =>
    (match (Signal.ofNumber? signal).bind Signal.text with
      | some text => m.complain (text ++ "\n")
      | none => m).leave (128 + signal)
  | _ => m.leave (child.status % 256)

/-- Say that a command is not there, or cannot be run. -/
def notFound (m : Machine) (label command : String) : Machine :=
  if command = "" then m.fail ": Permission denied" 127
  else if occursIn "/" command && m.disk.isThere (m.pathOf command) then
    m.fail (label ++ command ++ ": Permission denied") 126
  else m.fail (label ++ command ++ (if m.isRich then ": command not found" else ": not found")) 127

/-- The program that every host has at a path. -/
def stock? (m : Machine) (path : String) : Option String :=
  match m.disk.at? (m.pathOf path) with
  | some (["usr", "bin", name], .file [] _) => some name
  | _ => none

/-- How a shell is started: options, and whether its script is given in the arguments. -/
def readShellOptions (m : Machine) (given : Bool) : List String → Machine × Bool × List String
  | a :: rest =>
    match a.toList with
    | '-' :: c :: letters =>
      match (c :: letters).find? fun c => c ≠ 'c' && (switch? m true c).isNone with
      | some c => (({ m with line := 0 }.report ("Illegal option -" ++ String.ofList [c])).quit 2, false, [])
      | none =>
        let m := (c :: letters).foldl (fun m c => (switch? m true c).getD m) m
        readShellOptions m (given || (c :: letters).contains 'c') rest
    | _ => (m, given, a :: rest)
  | [] => (m, given, [])

/-- The variables that a command is started with, read off its arguments. -/
def readEnvironment (m : Machine) : List String → Machine × List String
  | "-i" :: rest => readEnvironment { m with bindings := [] } rest
  | "-u" :: name :: rest => readEnvironment (m.unassign name) rest
  | a :: rest =>
    match cutAt? "=" a with
    | some (name, value) => readEnvironment ((m.assign name value).exportName name) rest
    | none => (m, a :: rest)
  | [] => (m, [])

/-! ### Running -/

mutual

/-- Run the text of a script, line by line. The label stands before a fault in it. The fuel bounds all steps
    together. -/
def runText : Nat → String → List Char → Machine → Machine
  | 0, _, _, m => m
  | fuel + 1, label, text, m =>
    let (lines, fault) := parseScript m.line text
    let m := runLines fuel lines m
    match fault with
    | some f => if m.isHalted then m else { m with line := f.line }.giveUp (label ++ f.text)
    | none => m

/-- Run lines in order. -/
def runLines : Nat → List (List Clause) → Machine → Machine
  | 0, _, m => m
  | _, [], m => m
  | fuel + 1, line :: rest, m => runLines fuel rest (runBody fuel line m)

/-- Run a script as a shell of its own, and at its end what was asked for then. -/
def runShell : Nat → List Char → Machine → Machine
  | 0, _, m => m
  | fuel + 1, text, m => runAtExit fuel (runText fuel "" text m)

/-- Run what was asked for at the end of a shell. It changes the exit code only by an exit of its own. -/
def runAtExit : Nat → Machine → Machine
  | 0, m => m
  | fuel + 1, m =>
    match m.ending, m.traps.lookup "EXIT" with
    | some (.killed _), _ | _, none => m
    | ending, some action =>
      let traps := m.traps.filter fun t => t.1 ≠ "EXIT"
      let n := runText fuel "" action.toList { m with ending := none, jump := none, traps, line := 1 }
      if n.ending.isSome then n else { n with status := m.status, ending }

/-- Run something in a shell of its own that starts as a copy. -/
def runApart : Nat → (Machine → Machine) → Machine → Machine
  | 0, _, m => m
  | fuel + 1, run, m => m.resume (runAtExit fuel (run { m with traps := m.traps.filter fun t => t.2 = "" }))

/-- Run what was asked for on signals that came. -/
def runPending : Nat → Machine → Machine
  | 0, m => m
  | fuel + 1, m =>
    match m.pending with
    | [] => m
    | action :: rest =>
      if m.ending.isSome then m
      else
        let n := runText fuel "" action.toList { m with pending := rest }
        runPending fuel (if n.ending.isSome then n else n.leave m.status)

/-- Run pipelines in order until the rest is passed over. A failure that decides nothing may end the shell. -/
def runBody : Nat → List Clause → Machine → Machine
  | 0, _, m => m
  | _, [], m => m
  | fuel + 1, .mk link negated background commands :: rest, m =>
    let runs : Bool := match link with
      | .always => true
      | .onSuccess => m.status = 0
      | .onFailure => m.status ≠ 0
    if m.isHalted then m
    else if !runs then runBody fuel rest m
    else
      let decides : Bool := negated || match rest with
        | .mk link _ _ _ :: _ => link ≠ .always
        | [] => false
      let inner := { m with stopsOnFailure := m.stopsOnFailure && !decides }
      let next :=
        if background then
          let child := runApart fuel (runPipeline fuel commands) inner
          { child with status := 0, background := some child.status }
        else runPipeline fuel commands inner
      let next := { next with stopsOnFailure := next.stopsOnFailure || (decides && m.stopsOnFailure) }
      let next := if negated && !next.isHalted then next.leave (if next.status = 0 then 1 else 0) else next
      let next := runPending fuel next
      let fails := next.stopsOnFailure && !decides && next.status ≠ 0 && !next.isHalted
      runBody fuel rest (if fails then next.quit next.status else next)

/-- Run the commands of a pipeline; several are shells of their own. -/
def runPipeline : Nat → List Command → Machine → Machine
  | 0, _, m => m
  | fuel + 1, [c], m => runAny fuel c m
  | fuel + 1, cs, m => { runPiped fuel cs m with input := m.input }

/-- Run commands, each with the output of the one before as its input. -/
def runPiped : Nat → List Command → Machine → Machine
  | 0, _, m => m
  | _, [], m => m
  | fuel + 1, [c], m => runApart fuel (runAny fuel c) m
  | fuel + 1, c :: rest, m =>
    let child := runAtExit fuel (runAny fuel c { m.openPipe with traps := m.traps.filter fun t => t.2 = "" })
    let next := m.resume child
    if next.ending.isSome then next
    else runPiped fuel rest { next with input := child.pipes.getD m.pipes.length [] }

/-- Run a command that may hold others. -/
def runAny : Nat → Command → Machine → Machine
  | 0, _, m => m
  | fuel + 1, c, m =>
    match c with
    | .simple line c => runSimple fuel c { m with line }
    | .group body redirects => runHeld fuel redirects (runBody fuel body) m
    | .apart body redirects => runHeld fuel redirects (runApart fuel (runBody fuel body)) m
    | .choice test yes no redirects =>
      runHeld fuel redirects (fun m =>
        let m := runTesting fuel test m
        if m.isHalted then m
        else if m.status = 0 then runBody fuel yes m
        else runBody fuel no (m.leave 0)) m
    | .loop onSuccess test body redirects =>
      runHeld fuel redirects (fun m =>
        { runLoop fuel onSuccess test body 0 { m with loops := m.loops + 1 } with loops := m.loops }) m
    | .each name words body redirects =>
      let (words, m) := match words with
        | some ws => resolveAll fuel ws m
        | none => (m.arguments, m)
      if m.isHalted then m
      else
        runHeld fuel redirects (fun m =>
          { runEach fuel name words body { m with loops := m.loops + 1, status := 0 } with loops := m.loops }) m
    | .select subject branches redirects =>
      let (fields, m) := resolve fuel (homeAtStart m subject) m
      if m.isHalted then m
      else runHeld fuel redirects (runSelect fuel (joinFields fields).toList branches) (m.leave 0)
    | .define name body => { m with functions := (name, body) :: m.functions.filter fun f => f.1 ≠ name, status := 0 }

/-- Run commands whose failure decides something. -/
def runTesting : Nat → List Clause → Machine → Machine
  | 0, _, m => m
  | fuel + 1, test, m =>
    { runBody fuel test { m with stopsOnFailure := false } with stopsOnFailure := m.stopsOnFailure }

/-- Run commands with redirections around them. -/
def runHeld : Nat → List Redirect → (Machine → Machine) → Machine → Machine
  | 0, _, _, m => m
  | fuel + 1, redirects, run, m =>
    let (opened, isOpen) := openStreams fuel redirects m
    (if isOpen then run opened else opened).withStreamsOf m redirects

/-- Run commands as long as a test turns out as wanted. The code is that of the last round. -/
def runLoop : Nat → Bool → List Clause → List Clause → Nat → Machine → Machine
  | 0, _, _, _, _, m => m
  | fuel + 1, onSuccess, test, body, code, m =>
    let m := runTesting fuel test m
    if m.ending.isSome then m
    else if m.jump.isNone && (m.status = 0) ≠ onSuccess then m.leave code
    else
      let m := if m.jump.isNone then runBody fuel body m else m
      match m.jump with
      | some (.leaveLoops (n + 2)) => { m with jump := some (.leaveLoops (n + 1)) }
      | some (.leaveLoops _) => { m with jump := none }
      | some (.nextRound (n + 2)) => { m with jump := some (.nextRound (n + 1)) }
      | some (.nextRound _) => runLoop fuel onSuccess test body m.status { m with jump := none }
      | some .backOut => m
      | none => if m.ending.isSome then m else runLoop fuel onSuccess test body m.status m

/-- Run commands for each word. -/
def runEach : Nat → String → List String → List Clause → Machine → Machine
  | 0, _, _, _, m => m
  | _, _, [], _, m => m
  | fuel + 1, name, word :: rest, body, m =>
    let m := runBody fuel body (setVariable m name word)
    match m.jump with
    | some (.leaveLoops (n + 2)) => { m with jump := some (.leaveLoops (n + 1)) }
    | some (.leaveLoops _) => { m with jump := none }
    | some (.nextRound (n + 2)) => { m with jump := some (.nextRound (n + 1)) }
    | some (.nextRound _) => runEach fuel name rest body { m with jump := none }
    | some .backOut => m
    | none => if m.ending.isSome then m else runEach fuel name rest body m

/-- Run the commands of the first branch with a pattern that fits. -/
def runSelect : Nat → List Char → List Branch → Machine → Machine
  | 0, _, _, m => m
  | _, _, [], m => m
  | fuel + 1, subject, .mk patterns body :: rest, m =>
    let (fits, m) := fitsAny fuel subject patterns m
    if m.isHalted then m else if fits then runBody fuel body m else runSelect fuel subject rest m

/-- Whether one of the patterns fits. -/
def fitsAny : Nat → List Char → List Word → Machine → Bool × Machine
  | 0, _, _, m => (false, m)
  | _, _, [], m => (false, m)
  | fuel + 1, subject, w :: rest, m =>
    let (fields, m) := resolve fuel (homeAtStart m w) m
    if (patternOf fields).occursIn subject then (true, m) else fitsAny fuel subject rest m

/-- Replace the parameters of a word. -/
def resolve : Nat → Word → Machine → List Field × Machine
  | 0, _, m => ([], m)
  | _, [], m => ([], m)
  | fuel + 1, p :: rest, m =>
    if m.isHalted then ([], m)
    else
      let (front, m) := resolvePart fuel p m
      let (more, m) := resolve fuel rest m
      (front ++ more, m)

/-- Replace a part of a word. -/
def resolvePart : Nat → Part → Machine → List Field × Machine
  | 0, _, m => ([], m)
  | fuel + 1, p, m =>
    match p with
    | .plain c => ([.bare c], m)
    | .fixed cs => ([.literal cs], m)
    | .parameter name use word quoted => resolveParameter fuel name use word quoted m
    | .output script quoted =>
      let child := runApart fuel (runText fuel "" script) m.openPipe
      let cs := dropEndWhile (· = '\n') (decodeLossy (child.pipes.getD m.pipes.length []))
      let m := { m.resume child with status := m.status, substituted := some child.status }
      ([if quoted then .literal cs else .loose cs], m)
    | .sum expression quoted =>
      let (fields, m) := resolve fuel expression m
      let text := joinFields fields
      if m.isHalted then ([], m)
      else
        match evaluate m.value? text.toList with
        | .error f => ([], m.giveUp (f.message text))
        | .ok (n, set) =>
          let m := set.reverse.foldl (fun m (name, n) => setVariable m name (toString n.toInt)) m
          let cs := (toString n.toInt).toList
          ([if quoted then .literal cs else .loose cs], m)

/-- Replace a parameter. -/
def resolveParameter : Nat → String → Use → Word → Bool → Machine → List Field × Machine
  | 0, _, _, _, _, m => ([], m)
  | fuel + 1, name, use, word, quoted, m =>
    let value := m.parameter? name
    let present (orEmpty : Bool) : Bool := value.isSome && !(orEmpty && value = some "")
    let reveal (cs : List Char) : List Field := [if quoted then .literal cs else .loose cs]
    let itself : List Field :=
      if quoted && name = "@" then [.several m.arguments]
      else reveal (value.getD "").toList
    let other (m : Machine) : List Field × Machine :=
      let (fields, m) := resolve fuel (homeAtStart m word) m
      (if quoted then fields else fields.map Field.loosened, m)
    let isList : Bool := name = "@" || name = "*"
    match use with
    | .unknown => ([], m.giveUp "Bad substitution")
    | .plain =>
      if value.isNone && m.needsValues && !isList then ([], m.giveUp (name ++ ": parameter not set")) else (itself, m)
    | .length => (reveal (toString (value.getD "").utf8ByteSize).toList, m)
    | .instead orEmpty => if present orEmpty then (itself, m) else other m
    | .onlyWith orEmpty => if present orEmpty then other m else (if quoted then [.literal []] else [], m)
    | .assigning orEmpty =>
      if present orEmpty then (itself, m)
      else
        let (fields, m) := other m
        (fields, setVariable m name (joinFields fields))
    | .required orEmpty =>
      if present orEmpty then (itself, m)
      else
        let (fields, m) := other m
        let reason :=
          if word.isEmpty then "parameter not set" ++ (if orEmpty then " or null" else "") else joinFields fields
        ([], m.giveUp (name ++ ": " ++ reason))
    | .withoutStart longest =>
      let (fields, m) := resolve fuel word m
      (reveal ((patternOf fields).withoutStart longest (value.getD "").toList), m)
    | .withoutEnd longest =>
      let (fields, m) := resolve fuel word m
      (reveal ((patternOf fields).withoutEnd longest (value.getD "").toList), m)

/-- Set the variables of assignments. -/
def assignAll : Nat → List (String × Word) → Machine → Machine
  | 0, _, m => m
  | _, [], m => m
  | fuel + 1, (name, w) :: rest, m =>
    if m.isHalted then m
    else
      let (fields, m) := resolve fuel (homesInValue m (w.length + 1) w) m
      let value := joinFields fields
      let m := if m.showsCommands && !m.isHalted then m.complain ("+ " ++ name ++ "=" ++ value ++ "\n") else m
      assignAll fuel rest (if m.isHalted then m else setVariable m name value)

/-- The fields of words. -/
def resolveAll : Nat → List Word → Machine → List String × Machine
  | 0, _, m => ([], m)
  | _, [], m => ([], m)
  | fuel + 1, w :: rest, m =>
    let (fields, m) := resolve fuel (homeAtStart m w) m
    let (more, m) := resolveAll fuel rest m
    (splitFields m.separators fields ++ more, m)

/-- Let the streams of a command lead where its redirections say; a message if one cannot. -/
def openStreams : Nat → List Redirect → Machine → Machine × Bool
  | 0, _, m => (m, true)
  | _, [], m => (m, true)
  | fuel + 1, r :: rest, m =>
    let (opened, isOpen) : Machine × Bool := match r with
      | .toStream stream target =>
        match m.sinks.lookup target with
        | some sink => (m.point stream sink, true)
        | none => if target = 0 then (m, true) else (m.fail (toString target ++ ": Bad file descriptor") 2, false)
      | .toFile stream append w =>
        let (fields, m) := resolve fuel (homeAtStart m w) m
        if m.isHalted then (m, false) else openFile m stream append (joinFields fields)
      | .fromText w =>
        let (fields, m) := resolve fuel w m
        ({ m with input := encodeUtf8 (joinFields fields).toList }, !m.isHalted)
      | .fromFile w =>
        let (fields, m) := resolve fuel (homeAtStart m w) m
        let path := joinFields fields
        match m.readFile path 0 with
        | .ok input => ({ m with input }, !m.isHalted)
        | .error .isADirectory => ({ m with input := [] }, !m.isHalted)
        | .error e => (m.fail ("cannot open " ++ path ++ ": " ++ openingReason false e) 2, false)
    if isOpen then openStreams fuel rest opened else (opened, false)

/-- Run a command with its assignments and redirections. -/
def runSimple : Nat → Simple → Machine → Machine
  | 0, _, m => m
  | fuel + 1, c, m =>
    let (words, m) := resolveAll fuel c.words { m with substituted := none }
    if m.isHalted then m
    else
      match words with
      | [] =>
        runHeld fuel c.redirects (fun m =>
          let m := assignAll fuel c.assignments m
          if m.isHalted then m else m.leave (m.substituted.getD 0)) m
      | name :: arguments =>
        let isSpecial := specialCommands.contains name && (m.functions.lookup name).isNone
        let (opened, isOpen) := openStreams fuel c.redirects m
        if !isOpen then
          let n := opened.withStreamsOf m c.redirects
          if isSpecial then n.quit n.status else n
        else
          let assigned := assignAll fuel c.assignments { opened with showsCommands := false }
          let assigned := { assigned with showsCommands := opened.showsCommands }
          if assigned.isHalted then assigned.withStreamsOf m c.redirects
          else
            let shown := c.assignments.map fun a => a.1 ++ "=" ++ (assigned.value? a.1).getD ""
            let traced :=
              if assigned.showsCommands then assigned.complain ("+ " ++ join " " (shown ++ name :: arguments) ++ "\n")
              else assigned
            let prepared := c.assignments.foldl (fun (m : Machine) a => m.exportName a.1) traced
            let ran := runCommand fuel name arguments (if isSpecial then traced else prepared)
            let kept :=
              if isSpecial then ran else c.assignments.foldl (fun (n : Machine) a => n.restore a.1 (m.binding? a.1)) ran
            if name = "exec" && arguments.isEmpty then kept else kept.withStreamsOf m c.redirects

/-- Run a command by name. -/
def runCommand : Nat → String → List String → Machine → Machine
  | 0, _, _, m => m
  | fuel + 1, name, arguments, m =>
    match m.functions.lookup name with
    | some body =>
      let inner := { m with arguments, hidden := some [], loops := 0 }
      let n := runAny fuel body inner
      let restored := (n.hidden.getD []).foldl (fun (n : Machine) h => n.restore h.1 h.2) n
      { restored with
        arguments := m.arguments, hidden := m.hidden, loops := m.loops
        jump := if n.jump = some .backOut then none else n.jump }
    | none => runPlain fuel name arguments m

/-- Run a command by name that is no function. -/
def runPlain : Nat → String → List String → Machine → Machine
  | 0, _, _, m => m
  | fuel + 1, name, arguments, m =>
    match name, arguments with
    | "eval", words =>
      if words.isEmpty then m.leave 0
      else { runText fuel "eval: " (join " " words).toList { m with line := 1 } with line := m.line }
    | ".", path :: _ => runSource fuel path m
    | "command", [] | "command", ["-v"] => m.leave 0
    | "command", "-v" :: name :: _ => describe false m name
    | "command", "-V" :: name :: _ => describe true m name
    | "command", name :: arguments => runPlain fuel name arguments m
    | "exec", [] => m.leave 0
    | "exec", name :: arguments =>
      match findProgram? m name with
      | some path =>
        let child := runProgramAt fuel path arguments m
        { m.resume child with ending := some (child.ending.getD (.exited child.status)) }
      | none =>
        let n := notFound m "exec: " name
        n.quit n.status
    | name, arguments =>
      if name = "source" && m.isRich then runSource fuel (arguments.headD "") m
      else
        match if shellCommands.contains name then runBuiltin? m name arguments else none with
        | some m => m
        | none =>
          match findProgram? m name with
          | some path => adopt m (runProgramAt fuel path arguments m)
          | none => notFound m "" name

/-- Run a script in the shell itself. -/
def runSource : Nat → String → Machine → Machine
  | 0, _, m => m
  | fuel + 1, path, m =>
    match if occursIn "/" path || m.isRich then some path else findProgram? m path with
    | none => m.giveUp (".: " ++ path ++ ": not found")
    | some place =>
      match m.readFile place 0 with
      | .ok bytes =>
        let n := runText fuel "" (decodeLossy bytes) { m with line := 1, status := 0 }
        { n with line := m.line, jump := if n.jump = some .backOut then none else n.jump }
      | .error .isADirectory => m.leave 0
      | .error e =>
        if m.isRich then m.fail (path ++ ": " ++ reasonOf e) 1
        else m.giveUp (".: cannot open " ++ path ++ ": " ++ openingReason false e)

/-- Run the program at a path to its end. -/
def runProgramAt : Nat → String → List String → Machine → Machine
  | 0, _, _, m => m
  | fuel + 1, path, arguments, m =>
    match stock? m path with
    | some "sh" => runShellProgram fuel "sh" false arguments (spawn m)
    | some "bash" => runShellProgram fuel "bash" true arguments (spawn m)
    | some "env" =>
      let (child, command) := readEnvironment (spawn m) arguments
      match command with
      | [] => sayLines (child.leave 0) (child.bindings.map fun b => (b.name ++ "=" ++ b.value).toList)
      | name :: arguments =>
        let seeker := if (child.value? "PATH").isSome then child else child.assign "PATH" "/bin:/usr/bin"
        match findProgram? seeker name with
        | some path => runProgramAt fuel path arguments child
        | none => protest child "env" ("'" ++ name ++ "': " ++ reasonOf .notFound) 127
    | some program => (runProgram? (spawn m) program arguments).getD (m.leave 127)
    | none =>
      match m.disk.read (m.pathOf path) with
      | .ok text =>
        let isRich := asksForRich text
        runShell fuel text.toList { spawn m with name := path, isRich, arguments }
      | .error _ => m.leave 126

/-- Run a shell with arguments. -/
def runShellProgram : Nat → String → Bool → List String → Machine → Machine
  | 0, _, _, _, m => m
  | fuel + 1, name, isRich, arguments, m =>
    let (m, given, rest) := readShellOptions { m with name, isRich } false arguments
    if m.ending.isSome then m
    else if given then
      match rest with
      | [] => ({ m with line := 0 }.report "-c requires an argument").quit 2
      | script :: rest => runShell fuel script.toList { m with name := rest.headD name, arguments := rest.drop 1 }
    else
      match rest with
      | [] => runShell fuel (decodeLossy m.input) { m with input := [] }
      | path :: arguments =>
        match m.readFile path 0 with
        | .ok bytes => runShell fuel (decodeLossy bytes) { m with name := path, arguments }
        | .error .isADirectory => m
        | .error e =>
          if isRich then protest m name (path ++ ": " ++ reasonOf e) 127
          else ({ m with line := 0 }.report ("cannot open " ++ path ++ ": " ++ openingReason false e)).quit 2

end

/-! ### Requests -/

/-- How many steps a command may take. -/
def stepLimit : Nat := 4000

/-- The environment of a program: a name and a value each, cut at the first equals sign. What starts with no
    name of a variable is lost on a shell. -/
def bindingsOf (entries : List (String × String)) : List Binding :=
  (entries.mergeSort fun a b => a.1 ≤ b.1).filterMap fun (name, value) => do
    let (name, value) ← cutAt? "=" (name ++ "=" ++ value)
    if isVariableName name.toList then some { name, value, exported := true } else none

/-- The search path of a shell that was given none. -/
def standardPath : String := "/usr/local/sbin:/usr/local/bin:/usr/sbin:/usr/bin:/sbin:/bin"

/-- The path of a location. -/
def pathOfLocation (l : Location) : String := "/" ++ join "/" l

/-- The shell that a request starts in a directory. Of two names for the directory it keeps the one it was given. -/
def startMachine (disk : Disk) (entries : List (String × String)) (l : Location) : Machine :=
  let m : Machine := { disk, bindings := bindingsOf entries }
  let given := (m.value? "PWD").getD ""
  let cwd := if isAbsolute given && (disk.at? given).map Prod.fst = some l then given else pathOfLocation l
  let m := if (m.value? "PATH").isSome then m else m.assign "PATH" standardPath
  { (m.assign "PWD" cwd).exportName "PWD" with cwd }

/-- Whether a text holds the character that ends texts in a program's arguments. -/
def holdsNul (s : String) : Bool := s.toList.contains '\x00'

/-- Run a command line to its end. The shell itself is found by the search path that it is given. -/
def execute (disk : Disk) (bindings : List (String × String)) (r : CommandRequest) :
    Except ExecFault (CommandOutput × Disk) :=
  let cwd := r.cwd.getD "/"
  let kept := bindings.filter fun v => !r.envRemove.contains v.1 && (r.env.lookup v.1).isNone
  if holdsNul r.command || holdsNul cwd || r.env.any fun v => holdsNul v.1 || holdsNul v.2 then
    .error (.spawn r.command .nulInData)
  else
    match disk.follow cwd with
    | .error e => .error (.spawn r.command e)
    | .ok (.absent _) => .error (.spawn r.command .notFound)
    | .ok (.found l .dir) =>
      let m := startMachine disk (kept ++ r.env) l
      if (findProgram? m "sh").isNone then .error (.spawn r.command .notFound)
      else
        let m := runShell stepLimit r.command.toList m
        let status : Option Int := match m.ending with
          | some (.killed _) => none
          | _ => some (m.status % 256 : Nat)
        .ok ({ status, stdout := String.ofList (decodeLossy m.out), stderr := String.ofList (decodeLossy m.err) },
          m.disk)
    | .ok (.found _ _) => .error (.spawn r.command .notADirectory)

end PlaybookServer.Simulation.Shell
