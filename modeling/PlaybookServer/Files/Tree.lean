/-
Module: PlaybookServer.Files.Tree
Purpose: A file system held as a value: files with their texts, directories, and places where nothing may
  be written. Paths are compared by their components, and the directories of a file exist with it.
Main exports: Tree, Tree.ofFiles, Tree.view, Tree.createDirs, Tree.write, Tree.remove, Tree.paths
-/
import PlaybookServer.Files.Path
import PlaybookServer.Files.View

namespace PlaybookServer.Files

/-- A file system. -/
structure Tree where
  /-- Files by their components, in the order of their paths. -/
  files : List (String × String) := []
  /-- Directories. -/
  dirs : List String := []
  /-- Nothing can be created at or below these. -/
  denied : List String := []
deriving DecidableEq, Repr, Inhabited

namespace Tree

/-- Insert into a list in the order of paths, replacing what names the same path. -/
def insertPath {α : Type} (path : String) (value : α) : List (String × α) → List (String × α)
  | [] => [(path, value)]
  | (p, v) :: rest =>
    match comparePaths path p with
    | .eq => (p, value) :: rest
    | .lt => (path, value) :: (p, v) :: rest
    | .gt => (p, v) :: insertPath path value rest

/-- The text of a file. -/
def file? (t : Tree) (path : String) : Option String :=
  (t.files.find? fun f => samePath f.1 path).map Prod.snd

/-- Whether a path names a directory. -/
def isDir (t : Tree) (path : String) : Bool := t.dirs.any fun d => samePath d path

/-- Add a directory and those above it. -/
def addDirs (t : Tree) (path : String) : Tree :=
  { t with dirs := (ancestors path).foldl (fun dirs d =>
      if d = "" || dirs.any (samePath d) then dirs else dirs ++ [d]) t.dirs }

/-- Add a file and the directories above it. -/
def addFile (t : Tree) (path text : String) : Tree :=
  let t := match parent? path with
    | some p => t.addDirs p
    | none => t
  { t with files := insertPath path text t.files }

/-- Whether nothing can be created at a path. -/
def isDenied (t : Tree) (path : String) : Bool := t.denied.any (isUnder path)

/-- Create a directory and those above it. -/
def createDirs (t : Tree) (path : String) : Except IoFault Tree :=
  if t.isDenied path then .error .permissionDenied else .ok (t.addDirs path)

/-- Write a file, with the directories above it. -/
def write (t : Tree) (path text : String) : Except IoFault Tree :=
  if t.isDenied path then .error .permissionDenied else .ok (t.addFile path text)

/-- Remove a file. -/
def remove (t : Tree) (path : String) : Tree :=
  { t with files := t.files.filter fun f => !samePath f.1 path }

/-- All files in the order of their paths. -/
def paths (t : Tree) : List String := t.files.map Prod.fst

/-- The text of a file, or why there is none. -/
def read (t : Tree) (path : String) : Except IoFault String :=
  match t.file? path with
  | some text => .ok text
  | none => .error (if t.isDir path then .isADirectory else .notFound)

/-- The files with an extension at or below a directory. -/
def listFiles (t : Tree) (root extension : String) : List String :=
  t.paths.filter fun p => isUnder p root && extension? p = some extension

/-- The directories directly in a directory. -/
def listDirs (t : Tree) (dir : String) : List String :=
  let found := t.dirs.filter fun d => (parent? d).any (samePath dir)
  found.mergeSort fun a b => comparePaths a b ≠ .gt

/-- What can be seen of the file system. -/
def view (t : Tree) : FileView :=
  { read := t.read
    isThere := fun p => (t.file? p).isSome || t.isDir p
    listFiles := t.listFiles
    listDirs := t.listDirs }

end Tree

end PlaybookServer.Files
