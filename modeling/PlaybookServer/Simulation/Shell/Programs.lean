/-
Module: PlaybookServer.Simulation.Shell.Programs
Purpose: Programs that every host has, as far as command lines use them: printing, counting, sorting and searching
  lines, and making and removing files.
Main exports: stockPrograms, runProgram?, startDisk
-/
import PlaybookServer.Simulation.Shell.Builtin

namespace PlaybookServer.Simulation.Shell

open Text Files

/-! ### Input -/

/-- The reason in a fault's text. -/
def reasonOf (e : IoFault) : String := ((cutAt? " (os error" e.text).map Prod.fst).getD e.text

/-- Complain as a program does. -/
def protest (m : Machine) (program text : String) (status : Nat) : Machine :=
  (m.complain (program ++ ": " ++ text ++ "\n")).leave status

/-- Complain of how a program is used. -/
def misused (m : Machine) (program text : String) : Machine :=
  (m.complain (program ++ ": " ++ text ++ "\nTry '" ++ program ++ " --help' for more information.\n")).leave 1

/-- How a program complains of a file that cannot be read. -/
def unreadable (program path : String) (e : IoFault) : String :=
  match program with
  | "head" | "tail" => "cannot open '" ++ path ++ "' for reading: " ++ reasonOf e
  | "sort" => "cannot read: " ++ path ++ ": " ++ reasonOf e
  | _ => path ++ ": " ++ reasonOf e

/-- The bytes of files in order, or the input if none is given; what cannot be read is complained of. -/
def gather (m : Machine) (program : String) (most : Nat) (paths : List String) : List Nat × Machine :=
  (if paths.isEmpty then ["-"] else paths).foldl (fun (acc : List Nat × Machine) p =>
    let (bytes, m) := acc
    if p = "-" then (bytes ++ m.input, { m with input := [] })
    else
      match m.readFile p most with
      | .ok more => (bytes ++ more, m)
      | .error e =>
        (bytes, protest m program (unreadable program p e) (if program = "sort" || program = "grep" then 2 else 1)))
    ([], m.leave 0)

/-- Lines of bytes, each with the line feed that ends it. -/
def byteLines : List Nat → List (List Nat)
  | [] => []
  | b :: rest =>
    if b = 10 then [10] :: byteLines rest
    else
      match byteLines rest with
      | [] => [[b]]
      | line :: lines => (b :: line) :: lines

/-- A line's text without the line feed. -/
def lineText (line : List Nat) : List Char := decodeLossy (line.filter (· ≠ 10))

/-- Print lines. -/
def sayLines (m : Machine) (lines : List (List Char)) : Machine :=
  m.write 1 (lines.flatMap fun l => encodeUtf8 l ++ [10])

/-- Split arguments into the letters of options and what follows them. -/
def options (arguments : List String) : List Char × List String :=
  let front := arguments.takeWhile fun a => hasStem a "-" && a ≠ "-" && a ≠ "--"
  let rest := arguments.drop front.length
  (front.flatMap fun a => a.toList.drop 1, if rest.head? = some "--" then rest.drop 1 else rest)

/-- The value of an option given by a letter, in the same word or the next, and the other arguments. -/
def optionValue? (letter : Char) : List String → Option (String × List String)
  | a :: rest =>
    if a = String.ofList ['-', letter] then
      match rest with
      | v :: rest => some (v, rest)
      | [] => none
    else if hasStem a (String.ofList ['-', letter]) then some (String.ofList (a.toList.drop 2), rest)
    else (optionValue? letter rest).map fun (v, rest) => (v, a :: rest)
  | [] => none

/-! ### Lines -/

/-- Print the lines in which a pattern is found. -/
def runGrep (m : Machine) (arguments : List String) : Machine :=
  let (letters, rest) := options arguments
  match rest with
  | [] =>
    (m.complain
      "Usage: grep [OPTION]... PATTERNS [FILE]...\nTry 'grep --help' for more information.\n").leave 2
  | pattern :: paths =>
    let (bytes, m) := gather m "grep" 0 paths
    let fold := fun (cs : List Char) => if letters.contains 'i' then cs.map Char.toLower else cs
    let patterns := if letters.contains 'E' then pieces '|' pattern else [pattern]
    let ps := patterns.map fun p => Pattern.ofLine (fold p.toList)
    let lines := (byteLines bytes).map lineText
    let found := lines.zipIdx.filter fun (l, _) => (ps.any fun p => p.occursIn (fold l)) != letters.contains 'v'
    let status := if m.status ≠ 0 then 2 else if found.isEmpty then 1 else 0
    let shown :=
      if letters.contains 'q' then m
      else if letters.contains 'c' then m.say (toString found.length ++ "\n")
      else if letters.contains 'n' then sayLines m (found.map fun (l, i) => (toString (i + 1) ++ ":").toList ++ l)
      else sayLines m (found.map Prod.fst)
    shown.leave status

/-- The number of lines that are asked for, and the files. -/
def lineCount (arguments : List String) : Nat × List String :=
  match optionValue? 'n' arguments with
  | some (n, paths) => ((count? n).getD 10, paths)
  | none =>
    match arguments with
    | a :: rest => if hasStem a "-" && a ≠ "-" then ((count? (a.drop 1).toString).getD 10, rest) else (10, a :: rest)
    | [] => (10, [])

/-- Print the first lines, or the first bytes. -/
def runHead (m : Machine) (arguments : List String) : Machine :=
  match optionValue? 'c' arguments with
  | some (n, paths) =>
    let n := (count? n).getD 0
    let (bytes, m) := gather m "head" n paths
    m.write 1 (bytes.take n)
  | none =>
    let (n, paths) := lineCount arguments
    let (bytes, m) := gather m "head" 0 paths
    m.write 1 ((byteLines bytes).take n).flatten

/-- Print the last lines, or the last bytes. -/
def runTail (m : Machine) (arguments : List String) : Machine :=
  match optionValue? 'c' arguments with
  | some (n, paths) =>
    let (bytes, m) := gather m "tail" 0 paths
    m.write 1 (bytes.drop (bytes.length - (count? n).getD 0))
  | none =>
    let (n, paths) := lineCount arguments
    let (bytes, m) := gather m "tail" 0 paths
    let lines := byteLines bytes
    m.write 1 (lines.drop (lines.length - n)).flatten

/-- A number with blanks before it. -/
def padded (width : Nat) (n : Nat) : String :=
  let digits := toString n
  String.ofList (List.replicate (width - digits.length) ' ') ++ digits

/-- Count lines, words and bytes. -/
def runCount (m : Machine) (arguments : List String) : Machine :=
  let (letters, paths) := options arguments
  let (bytes, m) := gather m "wc" 0 paths
  if m.status ≠ 0 then m
  else
    let lineFeeds := (bytes.filter (· = 10)).length
    let counts := [('l', lineFeeds), ('w', (words (decodeLossy bytes)).length), ('c', bytes.length)]
    let asked := if letters.isEmpty then counts else counts.filter fun c => letters.contains c.1
    let width := if asked.length = 1 then 0 else if paths.isEmpty then 7 else (toString bytes.length).length
    m.say (join " " (asked.map (fun c => padded width c.2) ++ paths) ++ "\n")

/-- Drop lines that repeat the one before. -/
def withoutRepeats : List (List Char) → List (List Char)
  | a :: b :: rest => if a = b then withoutRepeats (b :: rest) else a :: withoutRepeats (b :: rest)
  | lines => lines

/-- Sort lines. -/
def runSort (m : Machine) (arguments : List String) : Machine :=
  let (letters, paths) := options arguments
  let (bytes, m) := gather m "sort" 0 paths
  if m.status ≠ 0 then m
  else
    let number := fun (l : List Char) => digitsValue 10 (l.takeWhile Char.isDigit)
    let before (a b : List Char) : Bool :=
      if letters.contains 'n' && number a ≠ number b then number a < number b else String.ofList a ≤ String.ofList b
    let lines := ((byteLines bytes).map lineText).mergeSort before
    let lines := if letters.contains 'r' then lines.reverse else lines
    sayLines m (if letters.contains 'u' then withoutRepeats lines else lines)

/-- Print fields or characters of lines. -/
def runCut (m : Machine) (arguments : List String) : Machine :=
  let (divider, rest) := (optionValue? 'd' arguments).getD ("\t", arguments)
  let chosen (list : String) (n : Nat) : Bool := (pieces ',' list).any fun range =>
    match pieces '-' range with
    | [a] => count? a = some n
    | [a, b] => (count? a).getD 1 ≤ n && n ≤ (count? b).getD n
    | _ => false
  match optionValue? 'f' rest, optionValue? 'c' rest with
  | some (list, paths), _ =>
    let (bytes, m) := gather m "cut" 0 paths
    let d := divider.toList.headD '\t'
    sayLines m ((byteLines bytes).map fun line =>
      let fields := splitOn d (lineText line)
      if fields.length = 1 then lineText line
      else joinWith [d] ((fields.zipIdx.filter fun (_, i) => chosen list (i + 1)).map Prod.fst))
  | none, some (list, paths) =>
    let (bytes, m) := gather m "cut" 0 paths
    sayLines m ((byteLines bytes).map fun line =>
      ((lineText line).zipIdx.filter fun (_, i) => chosen list (i + 1)).map Prod.fst)
  | none, none => misused m "cut" "you must specify a list of bytes, characters, or fields"

/-! ### Characters -/

/-- The bytes of a set: classes, ranges and escapes. -/
def setBytes : Nat → List Char → List Nat
  | 0, _ => []
  | fuel + 1, cs =>
    let one : List Char → Option (Nat × List Char)
      | '\\' :: rest => match readEscape? false rest with
        | some (b, rest) => some (b, rest)
        | none => some (92, rest)
      | c :: rest => some ((encodeChar c).headD 0, rest)
      | [] => none
    if startsWith cs "[:upper:]".toList then (List.range 26).map (65 + ·) ++ setBytes fuel (cs.drop 9)
    else if startsWith cs "[:lower:]".toList then (List.range 26).map (97 + ·) ++ setBytes fuel (cs.drop 9)
    else if startsWith cs "[:digit:]".toList then (List.range 10).map (48 + ·) ++ setBytes fuel (cs.drop 9)
    else
      match one cs with
      | none => []
      | some (a, '-' :: c :: rest) =>
        match one (c :: rest) with
        | some (b, rest) => (List.range (b + 1 - a)).map (a + ·) ++ setBytes fuel rest
        | none => [a]
      | some (a, rest) => a :: setBytes fuel rest

/-- Drop bytes of a set that repeat the one before. -/
def squeeze (set : List Nat) : List Nat → List Nat
  | a :: b :: rest => if a = b && set.contains a then squeeze set (b :: rest) else a :: squeeze set (b :: rest)
  | bytes => bytes

/-- Replace, drop or squeeze bytes. -/
def runTranslate (m : Machine) (arguments : List String) : Machine :=
  let (letters, sets) := options arguments
  let sets := sets.map fun s => setBytes (s.length + 1) s.toList
  let bytes := m.input
  let m := { m with input := [] }
  match sets with
  | [] => misused m "tr" "missing operand"
  | first :: rest =>
    if letters.contains 'd' then (m.write 1 (bytes.filter (!first.contains ·))).leave 0
    else if letters.contains 's' && rest.isEmpty then (m.write 1 (squeeze first bytes)).leave 0
    else
      let second := rest.headD []
      let replace := fun b =>
        match first.idxOf? b with
        | some i => second.getD i (second.getLast?.getD b)
        | none => b
      (m.write 1 (bytes.map replace)).leave 0

/-! ### Numbers -/

/-- Print the numbers from one to another by steps. -/
def sayRow (m : Machine) (first step last : Int) : Machine :=
  let count := if step = 0 then 0 else ((last - first) / step + 1).toNat
  sayLines (m.leave 0) ((List.range count).map fun (i : Nat) => (toString (first + (i : Int) * step)).toList)

/-- Print numbers in a row. -/
def runSequence (m : Machine) (arguments : List String) : Machine :=
  match arguments.find? fun a => (signedNumber? false a).isNone with
  | some a => misused m "seq" ("invalid floating point argument: '" ++ a ++ "'")
  | none =>
    match arguments.filterMap (signedNumber? false) with
    | [] => misused m "seq" "missing operand"
    | [last] => sayRow m 1 1 last
    | [first, last] => sayRow m first 1 last
    | first :: step :: last :: _ => sayRow m first step last

/-- Wait; only what cannot be waited for shows. -/
def runSleep (m : Machine) (arguments : List String) : Machine :=
  let isTime := fun (a : String) =>
    let cs := a.toList
    let cs := if cs.getLast?.any ['s', 'm', 'h', 'd'].contains then cs.dropLast else cs
    !cs.isEmpty && cs.all fun c => c.isDigit || c = '.'
  match arguments with
  | [] => misused m "sleep" "missing operand"
  | arguments =>
    match arguments.find? (!isTime ·) with
    | some a =>
      if hasStem a "-" then misused m "sleep" ("invalid option -- '" ++ String.ofList ((a.toList.drop 1).take 1) ++ "'")
      else misused m "sleep" ("invalid time interval '" ++ a ++ "'")
    | none => m.leave 0

/-! ### Files -/

/-- List a path: the names in a directory, or the path itself. -/
def listPath (itself : Bool) (m : Machine) (path : String) : Machine :=
  let lacking (e : IoFault) := protest m "ls" ("cannot access '" ++ path ++ "': " ++ reasonOf e) 2
  match m.disk.follow (m.pathOf path) with
  | .ok (.found l .dir) =>
    if itself then m.say (path ++ "\n")
    else
      let names := ((m.disk.children l).map Prod.fst).filter fun n => !hasStem n "."
      sayLines m ((names.mergeSort fun a b => a ≤ b).map String.toList)
  | .ok (.found _ _) => m.say (path ++ "\n")
  | .ok (.absent _) => lacking .notFound
  | .error e => lacking e

/-- Take a change of the disk, or complain. -/
def change (m : Machine) (program doing path : String) (changed : Except IoFault Disk) : Machine :=
  match changed with
  | .ok disk => { m with disk }
  | .error e => protest m program (doing ++ " '" ++ path ++ "': " ++ reasonOf e) 1

/-- The disk without what is at or below a location. -/
def without (d : Disk) (l : Location) : Disk := ⟨d.entries.filter fun e => !l.isPrefixOf e.1⟩

/-- Remove files, and with an option directories with all they hold. -/
def runRemove (m : Machine) (arguments : List String) : Machine :=
  let (letters, paths) := options arguments
  paths.foldl (fun (m : Machine) p =>
    let refuse (e : IoFault) :=
      if letters.contains 'f' && e = .notFound then m
      else protest m "rm" ("cannot remove '" ++ p ++ "': " ++ reasonOf e) 1
    match m.disk.locate (m.pathOf p) with
    | .ok (.found l .dir) =>
      if letters.contains 'r' || letters.contains 'R' then { m with disk := without m.disk l } else refuse .isADirectory
    | .ok (.found l _) => { m with disk := without m.disk l }
    | .ok (.absent _) => refuse .notFound
    | .error e => refuse e) (m.leave 0)

/-- Make directories. -/
def runMakeDirs (m : Machine) (arguments : List String) : Machine :=
  let (letters, paths) := options arguments
  paths.foldl (fun (m : Machine) p =>
    let path := m.pathOf p
    change m "mkdir" "cannot create directory" p
      (if letters.contains 'p' then m.disk.createDirs path else m.disk.createDir path)) (m.leave 0)

/-- Remove directories that are empty. -/
def runRemoveDirs (m : Machine) (arguments : List String) : Machine :=
  arguments.foldl (fun (m : Machine) p =>
    let refuse (reason : String) := protest m "rmdir" ("failed to remove '" ++ p ++ "': " ++ reason) 1
    match m.disk.locate (m.pathOf p) with
    | .ok (.found l .dir) =>
      if (m.disk.children l).isEmpty then { m with disk := without m.disk l } else refuse "Directory not empty"
    | .ok (.found _ _) => refuse (reasonOf .notADirectory)
    | .ok (.absent _) => refuse (reasonOf .notFound)
    | .error e => refuse (reasonOf e)) (m.leave 0)

/-- Make files that are not there. -/
def runTouch (m : Machine) (arguments : List String) : Machine :=
  arguments.foldl (fun (m : Machine) p =>
    if m.disk.isThere (m.pathOf p) then m
    else change m "touch" "cannot touch" p (m.disk.put (m.pathOf p) [])) (m.leave 0)

/-- Write the input to the output and to files. -/
def runTee (m : Machine) (arguments : List String) : Machine :=
  let bytes := m.input
  let m := { m with input := [] }
  arguments.foldl (fun (m : Machine) p =>
    if p = "/dev/null" then m
    else
      match m.disk.put (m.pathOf p) bytes with
      | .ok disk => { m with disk }
      | .error e => protest m "tee" (p ++ ": " ++ reasonOf e) 1) ((m.write 1 bytes).leave 0)

/-! ### Running -/

/-- What a pipe holds before its reader is gone. -/
def pipeSize : Nat := 65536

/-- Programs that every host has. -/
def stockPrograms : List String :=
  ["[", "basename", "bash", "cat", "cut", "dirname", "echo", "env", "false", "grep", "head", "kill", "ls", "mkdir",
   "printenv", "printf", "pwd", "rm", "rmdir", "seq", "sh", "sleep", "sort", "tail", "tee", "test", "touch", "tr",
   "true", "uname", "uniq", "wc", "whereis", "which", "yes"]

/-- Run a program that every host has; none if it is not one, or if it runs others. -/
def runProgram? (m : Machine) (name : String) (arguments : List String) : Option Machine :=
  let paths := (options arguments).2
  match name with
  | "cat" =>
    let (bytes, m) := gather m "cat" 0 paths
    some (m.write 1 bytes)
  | "ls" =>
    let itself := (options arguments).1.contains 'd'
    some ((if paths.isEmpty then ["."] else paths).foldl (listPath itself) (m.leave 0))
  | "whereis" | "which" =>
    let found := arguments.map fun a => (a, findProgram? m a)
    if name = "which" then
      some ((sayLines m (found.filterMap fun (_, p) => p.map String.toList)).leave
        (if found.all fun f => f.2.isSome then 0 else 1))
    else some ((sayLines m (found.map fun (a, p) => (a ++ ":" ++ (p.map (" " ++ ·)).getD "").toList)).leave 0)
  | "printenv" =>
    let values := paths.map fun p => (m.exported.find? fun b => b.name = p).map Binding.value
    let shown := if paths.isEmpty then m.exported.map fun b => b.name ++ "=" ++ b.value else values.filterMap id
    some ((sayLines m (shown.map String.toList)).leave (if values.all Option.isSome then 0 else 1))
  | "grep" => some (runGrep m arguments)
  | "head" => some (runHead m arguments)
  | "tail" => some (runTail m arguments)
  | "wc" => some (runCount m arguments)
  | "sort" => some (runSort m arguments)
  | "uniq" =>
    let (bytes, m) := gather m "uniq" 0 paths
    some (sayLines m (withoutRepeats ((byteLines bytes).map lineText)))
  | "cut" => some (runCut m arguments)
  | "tr" => some (runTranslate m arguments)
  | "seq" => some (runSequence m arguments)
  | "sleep" => some (runSleep m arguments)
  | "rm" => some (runRemove m arguments)
  | "mkdir" => some (runMakeDirs m arguments)
  | "rmdir" => some (runRemoveDirs m arguments)
  | "touch" => some (runTouch m arguments)
  | "tee" => some (runTee m arguments)
  | "uname" => some ((m.say "Linux\n").leave 0)
  | "basename" =>
    let base := (((pieces '/' (paths.headD "")).filter (· ≠ "")).getLast?).getD "/"
    let base := match paths[1]? with
      | some tail => if base = tail then base else (beforeTail? tail base).getD base
      | none => base
    some ((m.say (base ++ "\n")).leave 0)
  | "dirname" =>
    let path := paths.headD ""
    let parent := (parent? path).getD path
    some ((m.say ((if parent = "" then "." else parent) ++ "\n")).leave 0)
  | "yes" =>
    let line := encodeUtf8 (if arguments.isEmpty then "y" else join " " arguments).toList ++ [10]
    some ((m.write 1 (List.replicate (pipeSize / line.length) line).flatten).leave 141)
  | "true" | "false" | "echo" | "printf" | "pwd" | "kill" | "test" | "[" => runBuiltin? m name arguments
  | _ => none

/-! ### The host -/

/-- The disk of a host: its directories, the programs that every host has, and the list of users. -/
def startDisk : Disk :=
  let made (d : Disk) (r : Except IoFault Disk) : Disk := r.toOption.getD d
  let dirs := ["/boot", "/dev", "/etc", "/home", "/media", "/mnt", "/opt", "/proc", "/root", "/run", "/srv", "/sys",
    "/tmp", "/usr/bin", "/usr/lib", "/usr/local", "/usr/sbin", "/usr/share", "/var/lib", "/var/log", "/var/tmp"]
  let d := dirs.foldl (fun d p => made d (d.createDirs p)) {}
  let d := [("/bin", "usr/bin"), ("/lib", "usr/lib"), ("/sbin", "usr/sbin")].foldl (fun d (p, t) => d.addLink p t) d
  let d := stockPrograms.foldl (fun (d : Disk) p => d.set ["usr", "bin", p] (.file [] true)) d
  made d (d.write "/etc/passwd" (encodeUtf8 "root:x:0:0:root:/root:/bin/bash\n".toList))

end PlaybookServer.Simulation.Shell
