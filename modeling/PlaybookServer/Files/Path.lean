/-
Module: PlaybookServer.Files.Path
Purpose: File paths as text. What a path names is given by its components: repeated slashes and single
  dots inside do not matter, and `..` is kept as it stands.
Main exports: Component, components, joinPath, parent?, fileName?, extension?, isUnder, samePath
-/
import PlaybookServer.Text.Lines

namespace PlaybookServer.Files

open Text

/-- A component of a path. -/
inductive Component where
  | root
  | current
  | up
  | name (s : String)
deriving DecidableEq, Repr, Inhabited

/-- Text of a component. -/
def Component.text : Component → String
  | .root => "/"
  | .current => "."
  | .up => ".."
  | .name s => s

/-- Whether a path starts at the root. -/
def isAbsolute (path : String) : Bool := hasStem path "/"

/-- Read one piece between slashes. -/
def component? (piece : String) : Option Component :=
  if piece = "" || piece = "." then none
  else if piece = ".." then some .up
  else some (.name piece)

/-- The components of a path. A leading dot counts. -/
def components (path : String) : List Component :=
  let ps := pieces '/' path
  let head := if isAbsolute path then [Component.root]
    else if ps.head? = some "." then [.current] else []
  head ++ ps.filterMap component?

/-- Whether two paths name the same place. -/
def samePath (a b : String) : Bool := components a = components b

/-- Append a path; an absolute one replaces what was there. -/
def joinPath (base path : String) : String :=
  if isAbsolute path then path
  else if base = "" || hasTail base "/" then base ++ path
  else base ++ "/" ++ path

/-- Drop trailing slashes and dot pieces that are no component of their own. -/
def dropTrailing : Nat → List Char → List Char
  | 0, cs => cs
  | fuel + 1, cs =>
    match cs.reverse with
    | '/' :: rest => if rest.isEmpty then cs else dropTrailing fuel rest.reverse
    | '.' :: '/' :: rest =>
      if rest.isEmpty then ['/'] else dropTrailing fuel rest.reverse
    | _ => cs

/-- A path without its last component; the root and the empty path have none. -/
def parent? (path : String) : Option String :=
  match (components path).getLast? with
  | none => none
  | some .root => none
  | some _ =>
    let cs := path.toList
    let cs := dropTrailing (cs.length + 1) cs
    let stem := (cs.reverse.dropWhile (· ≠ '/')).reverse
    some (String.ofList (dropTrailing (stem.length + 1) stem))

/-- The last component if it is a name. -/
def fileName? (path : String) : Option String :=
  match (components path).getLast? with
  | some (.name s) => some s
  | _ => none

/-- The end of a file name after its last dot; a name that only starts with a dot has none. -/
def extensionOfName? (name : String) : Option String :=
  if name = ".." then none
  else
    match cutLast? '.' name with
    | some (stem, extension) => if stem = "" then none else some extension
    | none => none

/-- The extension of a path. -/
def extension? (path : String) : Option String := (fileName? path).bind extensionOfName?

/-- The file name of a path without its extension. -/
def fileStem? (path : String) : Option String :=
  (fileName? path).map fun name =>
    match cutLast? '.' name with
    | some (stem, _) => if stem = "" || name = ".." then name else stem
    | none => name

/-- Whether a list starts with another. -/
def hasFront {α : Type} [BEq α] (front xs : List α) : Bool := front.isPrefixOf xs

/-- Whether a path lies at or below another, by whole components. -/
def isUnder (path base : String) : Bool := hasFront (components base) (components path)

/-- Text of a list of components. -/
def ofComponents (cs : List Component) : String :=
  match cs with
  | .root :: rest => "/" ++ join "/" (rest.map Component.text)
  | cs => join "/" (cs.map Component.text)

/-- A path and its parents, innermost first. -/
def ancestors (path : String) : List String :=
  go (path.length + 1) path
where
  /-- Each step drops a component. -/
  go : Nat → String → List String
    | 0, _ => []
    | fuel + 1, path =>
      path :: match parent? path with
        | some p => go fuel p
        | none => []

/-- Order of components: the root first, then the current directory, the parent, and names. -/
def Component.rank : Component → Nat
  | .root => 1
  | .current => 2
  | .up => 3
  | .name _ => 4

/-- Order of two components. -/
def Component.compare (a b : Component) : Ordering :=
  match a, b with
  | .name s, .name t => Ord.compare s t
  | a, b => Ord.compare a.rank b.rank

/-- Order of paths: component by component. -/
def comparePaths (a b : String) : Ordering :=
  go (components a) (components b)
where
  /-- Lexicographic order. -/
  go : List Component → List Component → Ordering
    | [], [] => .eq
    | [], _ => .lt
    | _, [] => .gt
    | x :: xs, y :: ys =>
      match x.compare y with
      | .eq => go xs ys
      | o => o

end PlaybookServer.Files
