/-
Module: PlaybookServer.Url.File
Purpose: File paths and URLs. A URL with a path of segments and no host names the file whose path has
  these segments decoded; a path becomes a file URL by encoding each of its components.
Main exports: Url.filePath?, Url.ofFilePath?, uriToPath, pathToUri?
-/
import PlaybookServer.Files.Path
import PlaybookServer.Url.Parse

namespace PlaybookServer

open Text Files

namespace Url

/-- The file a URL names. -/
def filePath? (u : Url) : Option String :=
  match u.path.toList with
  | '/' :: _ =>
    if u.host.isNone || u.host = some "localhost" then
      let path := decodeLossy (percentDecode u.path.toList)
      -- A path that ends in a drive names its root.
      match path.reverse with
      | mark :: d :: _ :: _ =>
        let drive : Bool := d.isAlpha && (mark = ':' || mark = '|')
        some (String.ofList (if drive then path ++ ['/'] else path))
      | _ => some (String.ofList path)
    else none
  | _ => none

/-- The URL of an absolute path. -/
def ofFilePath? (path : String) : Option Url :=
  if isAbsolute path then
    let segments := ((components path).drop 1).map fun c =>
      String.ofList ('/' :: encodeWith segmentSet c.text.toList)
    let text := if segments.isEmpty then "/" else segments.foldl (· ++ ·) ""
    some { scheme := "file", authority := some "", path := text }
  else none

end Url

/-- The local path of a document; a URL that names no file stands for its own path. -/
def uriToPath (u : Url) : String := u.filePath?.getD u.path

/-- The URL of a local path. -/
def pathToUri? (path : String) : Option Url := Url.ofFilePath? path

end PlaybookServer
