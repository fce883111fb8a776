/-
Module: PlaybookServer.Simulation.Shell.Builtin
Purpose: The commands of a shell itself that run no other command: variables, directories, options, signals,
  printing and tests.
Main exports: shellCommands, specialCommands, findProgram?, runBuiltin?
-/
import PlaybookServer.Simulation.Shell.Condition
import PlaybookServer.Simulation.Shell.Format
import PlaybookServer.Simulation.Shell.Signal

namespace PlaybookServer.Simulation.Shell

open Text Files

/-- Commands of the shell itself whose failure ends the shell. -/
def specialCommands : List String :=
  [":", ".", "break", "continue", "eval", "exec", "exit", "export", "local", "readonly", "return", "set", "shift",
   "times", "trap", "unset"]

/-- Commands of the shell itself. -/
def shellCommands : List String :=
  specialCommands ++
    ["[", "bg", "cd", "command", "echo", "false", "fg", "hash", "jobs", "kill", "printf", "pwd", "read", "test", "true",
     "type", "umask", "wait"]

/-! ### Programs -/

/-- Whether a path names a file that can be run. -/
def isProgram (m : Machine) (path : String) : Bool :=
  match m.disk.at? (m.pathOf path) with
  | some (_, .file _ x) => x
  | _ => false

/-- The place of a program: the path itself, or the first on the search path. -/
def findProgram? (m : Machine) (name : String) : Option String :=
  if name = "" then none
  else if occursIn "/" name then (if isProgram m name then some name else none)
  else
    let dirs := (pieces ':' ((m.value? "PATH").getD "")).map fun d => if d = "" then "." else d
    (dirs.map fun d => joinPath d name).find? (isProgram m)

/-- Say what a command is, by its path or in a sentence. -/
def describe (inSentence : Bool) (m : Machine) (name : String) : Machine :=
  let tell (plain sentence : String) := (m.say ((if inSentence then sentence else plain) ++ "\n")).leave 0
  if reservedWords.contains name then tell name (name ++ " is a shell keyword")
  else if (m.functions.lookup name).isSome then tell name (name ++ " is a shell function")
  else if specialCommands.contains name && inSentence then tell name (name ++ " is a special shell builtin")
  else if shellCommands.contains name then tell name (name ++ " is a shell builtin")
  else
    match findProgram? m name with
    | some path => tell path (name ++ " is " ++ path)
    | none => (if inSentence then m.say (name ++ ": not found\n") else m).leave 127

/-! ### Numbers -/

/-- A count given to a command of the shell. -/
def count? (text : String) : Option Nat :=
  (signedNumber? false text).bind fun n => if 0 ≤ n && n ≤ 2147483647 then some n.toNat else none

/-- What is said of an argument that is no number. -/
def notANumber (command text : String) : String := command ++ ": Illegal number: " ++ text

/-- End the shell, or the command around it, with a code. -/
def exitWith (m : Machine) (name : String) (arguments : List String) : Machine :=
  let leave (code : Nat) : Machine :=
    if name = "exit" then m.quit (code % 256) else { m with status := code, jump := some .backOut }
  match arguments with
  | [] => leave m.status
  | a :: _ =>
    match count? a with
    | some n => leave n
    | none => m.giveUp (notANumber name a)

/-- Leave loops, or go to the next round. Without a loop nothing happens. -/
def jumpOut (m : Machine) (name : String) (arguments : List String) : Machine :=
  let jump (n : Nat) : Machine :=
    if m.loops = 0 then m.leave 0
    else
      let n := min n m.loops
      { m with status := 0, jump := some (if name = "break" then .leaveLoops n else .nextRound n) }
  match arguments with
  | [] => jump 1
  | a :: _ =>
    match count? a with
    | some (n + 1) => jump (n + 1)
    | _ => m.giveUp (notANumber name a)

/-- Drop arguments. -/
def dropArguments (m : Machine) (arguments : List String) : Machine :=
  match count? (arguments.headD "1") with
  | none => m.giveUp (notANumber "shift" (arguments.headD ""))
  | some n =>
    if m.arguments.length < n then m.giveUp "shift: can't shift that many"
    else { m with arguments := m.arguments.drop n, status := 0 }

/-! ### Variables -/

/-- Set a variable, unless it is fixed. -/
def setVariable (m : Machine) (name value : String) : Machine :=
  if (m.binding? name).any Binding.fixed then m.giveUp (name ++ ": is read only") else m.assign name value

/-- A text in single quotes. -/
def singleQuoted (s : String) : String := "'" ++ replaced "'" "'\"'\"'" s ++ "'"

/-- Declare names, with values where they are given, and mark them. -/
def declare (command : String) (mark : Binding → Binding) (m : Machine) (arguments : List String) : Machine :=
  arguments.foldl (fun (m : Machine) a =>
    let (name, value) := match cutAt? "=" a with
      | some (name, value) => (name, some value)
      | none => (a, none)
    if m.ending.isSome then m
    else if !isVariableName name.toList then m.giveUp (command ++ ": " ++ name ++ ": bad variable name")
    else
      let m := match value with
        | some v => setVariable m name v
        | none => if (m.binding? name).isSome then m else m.assign name ""
      { m with bindings := m.bindings.map fun b => if b.name = name then mark b else b }) (m.leave 0)

/-- List the variables with a mark. -/
def listDeclared (command : String) (m : Machine) (marked : Binding → Bool) : Machine :=
  let bs := (m.bindings.filter marked).mergeSort fun a b => a.name ≤ b.name
  (bs.foldl (fun (m : Machine) b => m.say (command ++ " " ++ b.name ++ "=" ++ singleQuoted b.value ++ "\n")) m).leave 0

/-- Export variables, or list those that are. -/
def runExport (m : Machine) (arguments : List String) : Machine :=
  if arguments.isEmpty || arguments = ["-p"] then listDeclared "export" m Binding.exported
  else declare "export" ({ · with exported := true }) m arguments

/-- Fix variables, or list those that are. -/
def runReadonly (m : Machine) (arguments : List String) : Machine :=
  if arguments.isEmpty || arguments = ["-p"] then listDeclared "readonly" m Binding.fixed
  else declare "readonly" ({ · with fixed := true }) m arguments

/-- Drop variables or functions. -/
def runUnset (m : Machine) (arguments : List String) : Machine :=
  match arguments with
  | "-f" :: names => { m with functions := m.functions.filter fun f => !names.contains f.1, status := 0 }
  | arguments =>
    (if arguments.head? = some "-v" then arguments.drop 1 else arguments).foldl (fun (m : Machine) name =>
      if m.ending.isSome then m
      else if !isVariableName name.toList then m.giveUp ("unset: " ++ name ++ ": bad variable name")
      else if (m.binding? name).any Binding.fixed then m.giveUp ("unset: " ++ name ++ ": is read only")
      else m.unassign name) (m.leave 0)

/-- Declare variables of a running function. -/
def runLocal (m : Machine) (arguments : List String) : Machine :=
  match m.hidden with
  | none => m.giveUp "local: not in a function"
  | some hidden =>
    let names := arguments.map fun a => ((cutAt? "=" a).map Prod.fst).getD a
    declare "local" id { m with hidden := some (names.map (fun n => (n, m.binding? n)) ++ hidden) } arguments

/-- Where a line that is read ends: its bytes with the backslashes that guard characters, and what follows it. -/
def readLine : Bool → List Nat → List (Nat × Bool) × Option (List Nat)
  | _, [] => ([], none)
  | _, 10 :: rest => ([], some rest)
  | false, 92 :: 10 :: rest => readLine false rest
  | false, 92 :: b :: rest =>
    let (line, after) := readLine false rest
    ((b, true) :: line, after)
  | raw, b :: rest =>
    let (line, after) := readLine raw rest
    ((b, false) :: line, after)

/-- Share a line among names: a field each, and what is left to the last. -/
def shareFields (separators : List Nat) : List String → List (Nat × Bool) → List (String × List (Nat × Bool))
  | [], _ => []
  | [name], line =>
    let isGap := fun (b : Nat × Bool) => !b.2 && separators.contains b.1
    [(name, ((line.dropWhile isGap).reverse.dropWhile isGap).reverse)]
  | name :: names, line =>
    let isGap := fun (b : Nat × Bool) => !b.2 && separators.contains b.1
    let line := line.dropWhile isGap
    let field := line.takeWhile (!isGap ·)
    (name, field) :: shareFields separators names (line.drop (field.length + 1))

/-- Read a line into variables. At the end of the input the outcome is a failure. -/
def runRead (m : Machine) (arguments : List String) : Machine :=
  let raw : Bool := arguments.head? = some "-r"
  let names := if raw then arguments.drop 1 else arguments
  match names with
  | [] => m.fail "read: arg count" 2
  | names =>
    match names.find? fun n => !isVariableName n.toList with
    | some n => m.fail ("read: " ++ n ++ ": bad variable name") 2
    | none =>
      let (line, after) := readLine raw m.input
      let shared := shareFields (m.separators.map Char.toNat) names line
      let set := shared.foldl (fun (m : Machine) (name, bytes) =>
        m.assign name (String.ofList (decodeLossy (bytes.map Prod.fst)))) m
      { set with input := after.getD [], status := if after.isSome then 0 else 1 }

/-! ### Directories -/

/-- A path without its dots. -/
def plainPath (path : String) : String :=
  let names := (pieces '/' path).foldl (fun (ns : List String) n =>
    if n = "" || n = "." then ns else if n = ".." then ns.dropLast else ns ++ [n]) []
  "/" ++ join "/" names

/-- Enter a directory. -/
def enter (m : Machine) (path : String) : Machine :=
  let old := m.cwd
  let m := { m with cwd := path, status := 0 }
  ((m.assign "OLDPWD" old).exportName "OLDPWD").assign "PWD" path |>.exportName "PWD"

/-- Change the directory. A dash leads back to the one before. -/
def changeDir (m : Machine) (arguments : List String) : Machine :=
  let path := arguments.headD ((m.value? "HOME").getD "")
  if path = "" then m.leave 0
  else if path = "-" then
    let back := (m.value? "OLDPWD").getD ""
    let n := enter m back
    n.say (back ++ "\n")
  else
    let target := plainPath (m.pathOf path)
    if m.disk.isDir (m.pathOf path) then enter m target else m.fail ("cd: can't cd to " ++ path) 2

/-! ### Options -/

/-- Switch an option by its letter; none if there is no such option. -/
def switch? (m : Machine) (on : Bool) (letter : Char) : Option Machine :=
  match letter with
  | 'e' => some { m with stopsOnFailure := on }
  | 'u' => some { m with needsValues := on }
  | 'x' => some { m with showsCommands := on }
  | c => if ['a', 'b', 'f', 'h', 'i', 'm', 'n', 's', 'v', 'C', 'E', 'I', 'V'].contains c then some m else none

/-- The letter of an option's name. -/
def optionLetter? (name : String) : Option Char :=
  [("errexit", 'e'), ("nounset", 'u'), ("xtrace", 'x'), ("allexport", 'a'), ("noglob", 'f'), ("verbose", 'v'),
   ("noclobber", 'C'), ("noexec", 'n')].lookup name

/-- Set options and arguments. -/
def runSet (m : Machine) : List String → Machine
  | [] => m.leave 0
  | "--" :: rest => { m with arguments := rest, status := 0 }
  | a :: rest =>
    match a.toList, rest with
    | sign :: 'o' :: [], name :: rest =>
      if sign = '-' || sign = '+' then
        match (optionLetter? name).bind (switch? m (sign = '-')) with
        | some m => runSet m rest
        | none => m.giveUp ("set: Illegal option -o " ++ name)
      else { m with arguments := a :: name :: rest, status := 0 }
    | sign :: letters, rest =>
      if (sign = '-' || sign = '+') && !letters.isEmpty then
        match letters.find? fun c => (switch? m true c).isNone with
        | some c => m.giveUp ("set: Illegal option " ++ String.ofList [sign, c])
        | none => runSet (letters.foldl (fun m c => (switch? m (sign = '-') c).getD m) m) rest
      else { m with arguments := a :: rest, status := 0 }
    | [], rest => { m with arguments := "" :: rest, status := 0 }

/-! ### Signals -/

/-- Say which commands run on which signals, or set them. -/
def runTrap (m : Machine) (arguments : List String) : Machine :=
  let arguments := if arguments.head? = some "--" then arguments.drop 1 else arguments
  let set (action : Option String) (names : List String) : Machine :=
    names.foldl (fun (m : Machine) text =>
      match Signal.ofText? text with
      | none => (m.complain ("trap: " ++ text ++ ": bad trap\n")).leave 1
      | some s =>
        let others := m.traps.filter fun t => t.1 ≠ s.name
        { m with traps := others ++ (action.map fun a => (s.name, a)).toList }) (m.leave 0)
  match arguments with
  | [] =>
    let order := "EXIT" :: allSignals.map Signal.name
    (order.foldl (fun (m : Machine) name =>
      match m.traps.lookup name with
      | some action => m.say ("trap -- " ++ singleQuoted action ++ " " ++ name ++ "\n")
      | none => m) m).leave 0
  | [text] => set none [text]
  | "-" :: names => set none names
  | action :: names => set (some action) names

/-- Let the shell itself have a signal. -/
def receive (m : Machine) (s : Signal) : Machine :=
  match if s.number = 9 then none else m.traps.lookup s.name with
  | some "" => m
  | some action => { m with pending := m.pending ++ [action] }
  | none => if s.harmless then m else { m with ending := some (.killed s.number) }

/-- Send a signal to processes; only the shell itself is there. -/
def sendSignal (m : Machine) (s : Signal) (targets : List String) : Machine :=
  targets.foldl (fun (m : Machine) t =>
    if t = Machine.processNumber then receive m s
    else if hasStem t "%" then m.fail ("kill: No such job: " ++ t) 2
    else if (signedNumber? false t).isNone then m.fail (notANumber "kill" t) 2
    else m.fail "kill: No such process\n" 1) (m.leave 0)

/-- How `kill` is used. -/
def killUsage : String := "kill: Usage: kill [-s sigspec | -signum | -sigspec] [pid | job]... or\nkill -l [exitstatus]"

/-- Send signals, or name them. -/
def runKill (m : Machine) (arguments : List String) : Machine :=
  let send (s : Signal) (targets : List String) : Machine :=
    if targets.isEmpty then m.fail killUsage 2 else sendSignal m s targets
  match arguments with
  | [] => m.fail killUsage 2
  | ["-l"] =>
    ("0" :: allSignals.map Signal.name).foldl (fun (m : Machine) name => m.say (name ++ "\n")) (m.leave 0)
  | "-l" :: code :: _ =>
    match (count? code).bind fun n => Signal.ofNumber? (if 128 < n then n - 128 else n) with
    | some s => (m.say (s.name ++ "\n")).leave 0
    | none => m.fail ("kill: invalid signal number or name: " ++ code) 2
  | ["-s"] => m.fail "kill: No arg for -s option" 2
  | "-s" :: name :: targets =>
    match Signal.ofText? name with
    | some s => send s targets
    | none => m.fail ("kill: invalid signal number or name: " ++ name) 2
  | a :: targets =>
    match a.toList with
    | '-' :: c :: rest =>
      match Signal.ofText? (String.ofList (c :: rest)) with
      | some s => send s targets
      | none => m.fail ("kill: Illegal option -" ++ String.ofList [c]) 2
    | _ => sendSignal m ⟨15, "TERM", none, false⟩ arguments

/-! ### Printing and tests -/

/-- Fill arguments into a format. -/
def runPrintf (m : Machine) (arguments : List String) : Machine :=
  let isOption : Bool := match arguments with
    | a :: _ => hasStem a "-" && a ≠ "-" && a ≠ "--"
    | [] => false
  if isOption then
    m.fail ("printf: Illegal option " ++ String.ofList ((arguments.headD "").toList.take 2)) 2
  else
    match if arguments.head? = some "--" then arguments.drop 1 else arguments with
    | [] => m.fail "printf: usage: printf format [arg ...]" 2
    | format :: arguments =>
      let p := printFormat format (arguments.length + 1) arguments
      ((p.complaints.foldl (fun (m : Machine) c => m.report ("printf: " ++ c)) m).write 1 p.bytes).leave p.status

/-- Test a condition. -/
def runTest (m : Machine) (name : String) (words : List String) : Machine :=
  match holds m words with
  | .ok b => m.leave (if b then 0 else 1)
  | .error f => m.fail (name ++ ": " ++ f.text) 2

/-- Wait for commands that were left running. -/
def runWait (m : Machine) : List String → Machine
  | [] => m.leave 0
  | a :: _ =>
    if hasStem a "-" then m.fail ("wait: Illegal option " ++ String.ofList (a.toList.take 2)) 2
    else if (count? a).isNone then m.fail (notANumber "wait" a) 2
    else m.leave (if a = Machine.backgroundNumber then m.background.getD 127 else 127)

/-- Run a command of the shell itself that runs no other; none if it is not one. -/
def runBuiltin? (m : Machine) (name : String) (arguments : List String) : Option Machine :=
  match name with
  | "true" | ":" | "hash" | "jobs" | "times" => some (m.leave 0)
  | "false" => some (m.leave 1)
  | "exit" | "return" => some (exitWith m name arguments)
  | "break" | "continue" => some (jumpOut m name arguments)
  | "shift" => some (dropArguments m arguments)
  | "echo" => some ((m.write 1 (echoBytes (!m.isRich) arguments)).leave 0)
  | "printf" => some (runPrintf m arguments)
  | "pwd" => some ((m.say (m.cwd ++ "\n")).leave 0)
  | "cd" => some (changeDir m arguments)
  | "export" => some (runExport m arguments)
  | "readonly" => some (runReadonly m arguments)
  | "unset" => some (runUnset m arguments)
  | "local" => some (runLocal m arguments)
  | "read" => some (runRead m arguments)
  | "set" => some (runSet m arguments)
  | "trap" => some (runTrap m arguments)
  | "kill" => some (runKill m arguments)
  | "test" => some (runTest m name arguments)
  | "[" =>
    if arguments.getLast? = some "]" then some (runTest m name arguments.dropLast)
    else some (m.fail "[: missing ]" 2)
  | "type" =>
    some (arguments.foldl (fun (m : Machine) a =>
      let n := describe true m a
      n.leave (max m.status n.status)) (m.leave 0))
  | "umask" => some ((if arguments.isEmpty then m.say "0022\n" else m).leave 0)
  | "wait" => some (runWait m arguments)
  | "bg" | "fg" => some (m.fail (name ++ ": No current job") 2)
  | _ => none

end PlaybookServer.Simulation.Shell
