/-
Module: PlaybookServer.Files.Disk
Purpose: A disk with directories, files of bytes and symbolic links, and how paths are followed on it.
Main exports: Entry, Disk, Spot, Disk.follow, Disk.read, Disk.createDirs, Disk.write, Disk.listFiles,
  Disk.listDirs, Disk.view
-/
import PlaybookServer.Files.Path
import PlaybookServer.Files.View
import PlaybookServer.Text.Bytes

namespace PlaybookServer.Files

open Text

/-- What a name on the disk stands for. -/
inductive Entry where
  | file (bytes : List Nat) (executable : Bool)
  | dir
  /-- A symbolic link. -/
  | link (target : String)
deriving DecidableEq, Repr, Inhabited

/-- The names on the way from the root to an entry. -/
abbrev Location := List String

/-- A disk: its entries by location. The root is always there. -/
structure Disk where
  entries : List (Location × Entry) := []
deriving DecidableEq, Repr, Inhabited

/-- Where a path leads. -/
inductive Spot where
  | found (location : Location) (entry : Entry)
  /-- Nothing is there, in a directory that is. -/
  | absent (location : Location)
deriving DecidableEq, Repr, Inhabited

namespace Disk

/-- The entry at a location. -/
def entry? (d : Disk) (l : Location) : Option Entry :=
  match l with
  | [] => some .dir
  | l => d.entries.lookup l

/-- Set the entry at a location. -/
def set (d : Disk) (l : Location) (e : Entry) : Disk :=
  ⟨d.entries.filter (fun x => x.1 ≠ l) ++ [(l, e)]⟩

/-- Names in a directory with their entries. -/
def children (d : Disk) (l : Location) : List (String × Entry) :=
  d.entries.filterMap fun (x, e) =>
    match x.getLast? with
    | some name => if x.dropLast = l then some (name, e) else none
    | none => none

/-- The names of a path. A slash at the end asks for a directory, as a last dot does. -/
def names (path : String) : List String :=
  (pieces '/' path).filter (· ≠ "") ++ (if hasTail path "/" then ["."] else [])

/-- How many links may be followed for a path. -/
def linkLimit : Nat := 40

/-- Follow names from a directory. The last name may be a link that is not followed. -/
def walk (d : Disk) (followLast : Bool) : Nat → Location → List String → Except IoFault Spot
  | _, here, [] => .ok (.found here ((d.entry? here).getD .dir))
  | links, here, name :: rest =>
    if name = "." then walk d followLast links here rest
    else if name = ".." then walk d followLast links here.dropLast rest
    else if 255 < name.utf8ByteSize then .error .nameTooLong
    else
      match d.entry? (here ++ [name]) with
      | none => if rest.all (· = ".") then .ok (.absent (here ++ [name])) else .error .notFound
      | some (.file bytes x) =>
        if rest.isEmpty then .ok (.found (here ++ [name]) (.file bytes x)) else .error .notADirectory
      | some .dir => walk d followLast links (here ++ [name]) rest
      | some (.link target) =>
        if rest.isEmpty && !followLast then .ok (.found (here ++ [name]) (.link target))
        else
          match links with
          | 0 => .error .tooManyLinks
          | links + 1 => walk d followLast links (if isAbsolute target then [] else here) (names target ++ rest)
termination_by links _ ns => (links, ns.length)

/-- Follow a path from the root, if it can be one. -/
def walkPath (d : Disk) (followLast : Bool) (path : String) : Except IoFault Spot :=
  if path.toList.contains '\x00' then .error .nulInPath
  else if path = "" then .error .notFound
  else if 4096 ≤ path.utf8ByteSize then .error .nameTooLong
  else d.walk followLast linkLimit [] (names path)

/-- Where a path leads, links followed. -/
def follow (d : Disk) (path : String) : Except IoFault Spot := d.walkPath true path

/-- Where a path leads, a link at its end not followed. -/
def locate (d : Disk) (path : String) : Except IoFault Spot := d.walkPath false path

/-- The entry of a path. -/
def at? (d : Disk) (path : String) : Option (Location × Entry) :=
  match d.follow path with
  | .ok (.found l e) => some (l, e)
  | _ => none

/-- Whether a path names something. -/
def isThere (d : Disk) (path : String) : Bool := (d.at? path).isSome

/-- Whether a path names a directory. -/
def isDir (d : Disk) (path : String) : Bool :=
  match d.at? path with
  | some (_, .dir) => true
  | _ => false

/-- The bytes of a file. -/
def readBytes (d : Disk) (path : String) : Except IoFault (List Nat) := do
  match ← d.follow path with
  | .found _ (.file bytes _) => return bytes
  | .found _ _ => .error .isADirectory
  | .absent _ => .error .notFound

/-- The text of a file. -/
def read (d : Disk) (path : String) : Except IoFault String := do
  let bytes ← d.readBytes path
  if isUtf8 bytes then return String.ofList (decodeLossy bytes) else .error .invalidText

/-! ### Changes -/

/-- Create a directory. -/
def createDir (d : Disk) (path : String) : Except IoFault Disk := do
  match ← d.locate path with
  | .found _ _ => .error .alreadyExists
  | .absent l => return d.set l .dir

/-- Create a directory and those above it, as far as they are missing. The fuel bounds how many. -/
def createDirsWithin (d : Disk) : Nat → String → Except IoFault Disk
  | 0, _ => .error .notFound
  | fuel + 1, path =>
    if path = "" then .ok d
    else
      match d.createDir path with
      | .ok d => .ok d
      | .error .notFound =>
        match parent? path with
        | none => .error .notFound
        | some p => do
          let d ← createDirsWithin d fuel p
          match d.createDir path with
          | .ok d => return d
          | .error e => if d.isDir path then return d else .error e
      | .error e => if d.isDir path then .ok d else .error e

/-- Create a directory and those above it. -/
def createDirs (d : Disk) (path : String) : Except IoFault Disk := d.createDirsWithin (path.length + 1) path

/-- Replace the bytes of a file, or create it in a directory that is there. -/
def put (d : Disk) (path : String) (bytes : List Nat) : Except IoFault Disk := do
  match ← d.follow path with
  | .found l (.file _ x) => return d.set l (.file bytes x)
  | .found _ _ => .error .isADirectory
  | .absent l => if hasTail path "/" then .error .isADirectory else return d.set l (.file bytes false)

/-- Write a file, with the directories above it. -/
def write (d : Disk) (path : String) (bytes : List Nat) : Except IoFault Disk := do
  let d ← match parent? path with
    | some p => d.createDirs p
    | none => .ok d
  d.put path bytes

/-- Make a file executable. -/
def markExecutable (d : Disk) (path : String) : Disk :=
  match d.at? path with
  | some (l, .file bytes _) => d.set l (.file bytes true)
  | _ => d

/-- Create a symbolic link, with the directories above it. -/
def addLink (d : Disk) (path target : String) : Disk :=
  let made : Except IoFault Disk := do
    let d ← match parent? path with
      | some p => d.createDirs p
      | none => .ok d
    match ← d.locate path with
    | .found _ _ => return d
    | .absent l => return d.set l (.link target)
  match made with
  | .ok d => d
  | .error _ => d

/-! ### Lists -/

/-- Files with an extension in a directory and below it, under the path it is shown by. Files that are links are
    left out; directories that are links are entered, unless one leads back to a directory on the way. -/
def filesBelow (d : Disk) (extension : String) : Nat → List Location → String → Location → List String
  | 0, _, _, _ => []
  | fuel + 1, trail, shown, here =>
    (d.children here).flatMap fun (name, e) =>
      let path := joinPath shown name
      match e with
      | .file _ _ => if extension? path = some extension then [path] else []
      | .dir => filesBelow d extension fuel ((here ++ [name]) :: trail) path (here ++ [name])
      | .link _ =>
        match d.walk true linkLimit here [name] with
        | .ok (.found l .dir) => if trail.contains l then [] else filesBelow d extension fuel (l :: trail) path l
        | _ => []

/-- Paths in order. -/
def sortPaths (ps : List String) : List String := ps.mergeSort fun a b => comparePaths a b ≠ .gt

/-- The files with an extension at or below a path. -/
def listFiles (d : Disk) (root extension : String) : List String :=
  match d.locate root, d.follow root with
  | .ok (.found _ (.link _)), .ok (.found _ (.file _ _)) => []
  | _, .ok (.found _ (.file _ _)) => if extension? root = some extension then [root] else []
  | _, .ok (.found l .dir) => sortPaths (d.filesBelow extension (d.entries.length + 1) [l] root l)
  | _, _ => []

/-- The directories directly in a directory; a link that leads back to it is none. -/
def listDirs (d : Disk) (dir : String) : List String :=
  match d.follow dir with
  | .ok (.found here .dir) =>
    sortPaths ((d.children here).filterMap fun (name, e) =>
      match e with
      | .file _ _ => none
      | .dir => some (joinPath dir name)
      | .link _ =>
        match d.walk true linkLimit here [name] with
        | .ok (.found l .dir) => if l = here then none else some (joinPath dir name)
        | _ => none)
  | _ => []

/-- What can be seen of the disk. -/
def view (d : Disk) : FileView :=
  { read := d.read
    isThere := d.isThere
    listFiles := d.listFiles
    listDirs := d.listDirs }

end Disk

end PlaybookServer.Files
