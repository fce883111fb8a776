/-
Module: PlaybookServer.Workspace.Folder
Purpose: Folders of a workspace: their directories, which documents they hold, and the folder of a document
  that lies in none.
Main exports: Folder, Folder.root, Folder.holds, sortFolders, folderFor?
-/
import PlaybookServer.Files.Path
import PlaybookServer.Url.File

namespace PlaybookServer.Workspace

open Text Files

/-- A folder that the user has open. -/
structure Folder where
  uri : Url
  name : String
deriving DecidableEq, Repr, Inhabited

namespace Folder

/-- The directory of a folder. -/
def root (f : Folder) : String := uriToPath f.uri

/-- Whether a document lies in a folder, by whole segments of its address. -/
def holds (f : Folder) (doc : Url) : Bool :=
  let base := dropEndWhile (· = '/') f.uri.text.toList
  match stripStem? base doc.text.toList with
  | some [] => true
  | some (c :: _) => c = '/'
  | none => false

/-- Length of a folder's address in bytes. -/
def addressSize (f : Folder) : Nat := f.uri.text.utf8ByteSize

end Folder

/-- Folders with inner ones before outer ones, in given order among those of one length. -/
def sortFolders (fs : List Folder) : List Folder := fs.mergeSort fun a b => b.addressSize ≤ a.addressSize

/-- The directory of a document as a folder of its own. -/
def ownFolder? (doc : Url) : Option Folder := do
  let dir ← parent? (uriToPath doc)
  let uri ← pathToUri? dir
  return ⟨uri, (fileName? dir).getD ""⟩

/-- The folder of a document: the first that holds it, else its own directory. -/
def folderFor? (fs : List Folder) (doc : Url) : Option Folder :=
  (fs.find? fun f => f.holds doc).orElse fun _ => ownFolder? doc

/-- Folders after some went and others came. A folder that is there already is not added again. -/
def changeFolders (fs added removed : List Folder) : List Folder :=
  let kept := fs.filter fun f => !removed.any fun r => r.uri = f.uri
  sortFolders (added.foldl (fun (fs : List Folder) f =>
    if fs.any fun g => g.uri = f.uri then fs else fs ++ [f]) kept)

end PlaybookServer.Workspace
