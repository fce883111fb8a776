/-
Module: PlaybookServer.Files.View
Purpose: What can be seen of a file system at one moment, and what can go wrong with it.
Main exports: IoFault, FileView
-/

namespace PlaybookServer.Files

/-- Faults of the file system. -/
inductive IoFault where
  | notFound
  | permissionDenied
  | notADirectory
  | isADirectory
  | alreadyExists
  | tooManyLinks
  | noPermission
  | invalidText
  | nameTooLong
  /-- The character that ends texts stands in a path. -/
  | nulInPath
  /-- It stands in what a program is started with. -/
  | nulInData
deriving DecidableEq, Repr, Inhabited

/-- The text of a fault. -/
def IoFault.text : IoFault → String
  | .notFound => "No such file or directory (os error 2)"
  | .permissionDenied => "Permission denied (os error 13)"
  | .notADirectory => "Not a directory (os error 20)"
  | .isADirectory => "Is a directory (os error 21)"
  | .alreadyExists => "File exists (os error 17)"
  | .tooManyLinks => "Too many levels of symbolic links (os error 40)"
  | .noPermission => "Operation not permitted (os error 1)"
  | .invalidText => "stream did not contain valid UTF-8"
  | .nameTooLong => "File name too long (os error 36)"
  | .nulInPath => "file name contained an unexpected NUL byte"
  | .nulInData => "nul byte found in provided data"

/-- What can be seen of a file system. -/
structure FileView where
  /-- The text of a file. -/
  read : String → Except IoFault String
  /-- Whether a path names a file or directory. -/
  isThere : String → Bool
  /-- The files with an extension at or below a directory, in the order of their paths. -/
  listFiles : String → String → List String
  /-- The directories directly in a directory, in the order of their paths. -/
  listDirs : String → List String

/-- A file system without files. -/
def FileView.empty : FileView := ⟨fun _ => .error .notFound, fun _ => false, fun _ _ => [], fun _ => []⟩

instance : Inhabited FileView := ⟨.empty⟩

end PlaybookServer.Files
