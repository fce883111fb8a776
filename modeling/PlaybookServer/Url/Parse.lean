/-
Module: PlaybookServer.Url.Parse
Purpose: Absolute URLs. A URL is read once into its parts and is written back in one normal form: scheme
  and registered host in lower case, dot segments resolved, reserved characters percent-encoded. File
  URLs have their rules on drive letters and on slashes before the path.
Main exports: Url, Url.parse, Url.text, Url.compare
-/
import PlaybookServer.Url.Address

namespace PlaybookServer

open Text

/-- The parts of a URL. -/
structure Url where
  scheme : String
  /-- User information, host and port as written, when the URL has them. -/
  authority : Option String := none
  /-- The host, unless it is empty. -/
  host : Option String := none
  path : String := ""
  query : Option String := none
  fragment : Option String := none
deriving DecidableEq, Repr, Inhabited, Hashable

namespace Url

/-- The written form. -/
def text (u : Url) : String :=
  u.scheme ++ ":"
  ++ (match u.authority with
      | some a => "//" ++ a
      | none => if hasStem u.path "//" then "/." else "")
  ++ u.path
  ++ (match u.query with
      | some q => "?" ++ q
      | none => "")
  ++ (match u.fragment with
      | some f => "#" ++ f
      | none => "")

/-- Classes of schemes. -/
inductive SchemeType where
  | file
  | special
  | other
deriving DecidableEq, Repr

/-- The class of a scheme. -/
def SchemeType.ofScheme (s : String) : SchemeType :=
  if s = "file" then .file
  else if s = "http" || s = "https" || s = "ws" || s = "wss" || s = "ftp" then .special
  else .other

/-- Whether backslashes count as slashes. -/
def SchemeType.isSpecial (t : SchemeType) : Bool := t ≠ .other

/-- The port a scheme implies. -/
def defaultPort (scheme : String) : Option Nat :=
  if scheme = "http" || scheme = "ws" then some 80
  else if scheme = "https" || scheme = "wss" then some 443
  else if scheme = "ftp" then some 21
  else none

/-! ### Paths -/

/-- Two characters that name a drive, at the start of a text. -/
def startsWithDrive (cs : List Char) : Bool :=
  match cs with
  | c :: d :: rest =>
    c.isAlpha && (d = ':' || d = '|')
    && (match rest with
        | [] => true
        | e :: _ => e = '/' || e = '\\' || e = '?' || e = '#')
  | _ => false

/-- Exactly a drive. -/
def isDrive (cs : List Char) : Bool := cs.length = 2 && startsWithDrive cs

/-- Exactly a drive with its colon. -/
def isNormalDrive (cs : List Char) : Bool := isDrive cs && cs[1]? = some ':'

/-- Spellings of `..`. -/
def isDoubleDot (cs : List Char) : Bool :=
  let s := cs.map Char.toLower
  s = "..".toList || s = "%2e%2e".toList || s = "%2e.".toList || s = ".%2e".toList

/-- Spellings of `.`. -/
def isSingleDot (cs : List Char) : Bool :=
  let s := cs.map Char.toLower
  s = ".".toList || s = "%2e".toList

/-- The text from the last slash on, slash included. -/
def fromLastSlash (path : List Char) : Option (List Char) :=
  let tail := (path.reverse.takeWhile (· ≠ '/')).reverse
  if tail.length < path.length then some ('/' :: tail) else none

/-- Drop a final slash unless it is the root or follows a drive. -/
def dropFinalSlash (path : List Char) : List Char :=
  if path.getLast? = some '/' then
    match fromLastSlash path.dropLast with
    | some segment => if startsWithDrive (segment.drop 1 ++ ['/']) then path else path.dropLast
    | none => path
  else path

/-- Drop the last segment, unless it is the drive of a file URL. -/
def popSegment (t : SchemeType) (path : List Char) : List Char :=
  match fromLastSlash path with
  | some segment =>
    let name := segment.drop 1
    if t = .file && isNormalDrive name then path else path.take (path.length - name.length)
  | none => path

/-- Add a finished segment to a path. `slash` says whether a slash follows it. -/
def addSegment (t : SchemeType) (path segment : List Char) (slash : Bool) : List Char :=
  if isDoubleDot segment then
    let path := popSegment t (dropFinalSlash path)
    if slash && path.getLast? ≠ some '/' then path ++ ['/'] else path
  else if isSingleDot segment then
    if path.getLast? = some '/' then path else path ++ ['/']
  else
    let segment :=
      if t = .file && path = ['/'] && isDrive segment then segment.take 1 ++ [':'] else segment
    path ++ segment ++ (if slash then ['/'] else [])

/-- Read a path up to a query or fragment. `segment` is the current segment as encoded so far. -/
def readPath (t : SchemeType) : List Char → List Char → List Char → List Char × List Char
  | path, segment, [] => (addSegment t path segment false, [])
  | path, segment, c :: rest =>
    if c = '/' || (c = '\\' && t.isSpecial) then
      readPath t (addSegment t path segment true) [] rest
    else if c = '?' || c = '#' then (addSegment t path segment false, c :: rest)
    else readPath t path (segment ++ encodeChar pathSet c) rest

/-- A file path starts with exactly one slash. -/
def singleRoot (t : SchemeType) (path : List Char) : List Char :=
  if t = .file then '/' :: path.dropWhile (· = '/') else path

/-- Read a hierarchical path. -/
def parsePath (t : SchemeType) (path input : List Char) : List Char × List Char :=
  let (path, rest) := readPath t path [] input
  (singleRoot t path, rest)

/-- Read a path after an authority. -/
def parsePathStart (t : SchemeType) (input : List Char) : List Char × List Char :=
  match input with
  | c :: rest =>
    if t.isSpecial then
      if c = '/' || c = '\\' then parsePath t ['/'] rest else parsePath t ['/'] input
    else if c = '?' || c = '#' then ([], input)
    else if c = '/' then parsePath t [] input
    else parsePath t ['/'] input
  | [] => if t.isSpecial then parsePath t ['/'] [] else ([], [])

/-- Read a path without hierarchy. -/
def parseOpaquePath (input : List Char) : List Char × List Char :=
  let stop := fun c => c = '?' || c = '#'
  (encodeWith controlSet (input.takeWhile (!stop ·)), input.dropWhile (!stop ·))

/-- Read query and fragment. -/
def parseTail (t : SchemeType) (u : Url) (input : List Char) : Url :=
  let readFragment := fun (u : Url) (cs : List Char) => match cs with
    | '#' :: rest => { u with fragment := some (String.ofList (encodeWith fragmentSet rest)) }
    | _ => u
  match input with
  | '?' :: rest =>
    let set := if t.isSpecial then specialQuerySet else querySet
    let q := encodeWith set (rest.takeWhile (· ≠ '#'))
    readFragment { u with query := some (String.ofList q) } (rest.dropWhile (· ≠ '#'))
  | _ => readFragment u input

/-! ### Authorities -/

/-- Where an authority ends. -/
def endsAuthority (t : SchemeType) (c : Char) : Bool :=
  c = '/' || c = '?' || c = '#' || (c = '\\' && t.isSpecial)

/-- The written form of user information, with the sign after it. -/
def userText (cs : List Char) : String :=
  let (name, password) := match cut? [':'] cs with
    | some (n, p) => (n, p)
    | none => (cs, [])
  let text := encodeWith userSet name
    ++ (if password.isEmpty then [] else ':' :: encodeWith userSet password)
  if text.isEmpty then "" else String.ofList (text ++ ['@'])

/-- Split an authority into user information, if there is any, and the rest. -/
def splitUser (authority : List Char) : Option (List Char) × List Char :=
  let host := (authority.reverse.takeWhile (· ≠ '@')).reverse
  if host.length < authority.length then
    (some (authority.take (authority.length - host.length - 1)), host)
  else (none, authority)

/-- Split a host from a port at the first colon outside brackets. -/
def splitPort : Bool → List Char → List Char × Option (List Char)
  | _, [] => ([], none)
  | inside, c :: rest =>
    if c = ':' && !inside then ([], some rest)
    else
      let (host, port) := splitPort (c = '[' || (inside && c ≠ ']')) rest
      (c :: host, port)

/-- Read a port, which is at most 65535, and what follows it: nothing, or a backslash and more. -/
def parsePort (scheme : String) (cs : List Char) : Except UrlFault (Option Nat × List Char) :=
  let digits := cs.takeWhile Char.isDigit
  let rest := cs.dropWhile Char.isDigit
  let n := digits.foldl (fun n c => n * 10 + (c.toNat - 48)) 0
  if 65535 < n || rest.head?.any (· ≠ '\\') then .error .port
  else .ok (if digits.isEmpty || defaultPort scheme = some n then none else some n, rest)

/-- Read what follows `//` of a URL that is no file URL. -/
def parseAuthority (scheme : String) (input : List Char) : Except UrlFault Url := do
  let t := SchemeType.ofScheme scheme
  let authority := input.takeWhile (!endsAuthority t ·)
  let rest := input.dropWhile (!endsAuthority t ·)
  let (user, hostPort) := splitUser authority
  if user.isSome && hostPort.isEmpty then throw .emptyHost
  let user := (user.map userText).getD ""
  let (hostText, portText) := splitPort false hostPort
  if hostText.isEmpty && (t = .special || portText.isSome) then throw .emptyHost
  let host ← if t = .special then parseHost hostText else parseOpaqueHost hostText
  if host.isEmpty && user ≠ "" then throw .emptyHost
  let (port, more) ← match portText with
    | some p => parsePort scheme p
    | none => pure (none, [])
  let (path, rest) := parsePathStart t (more ++ rest)
  let portText := match port with
    | some p => ":" ++ toString p
    | none => ""
  return parseTail t
    { scheme, authority := some (user ++ host ++ portText)
      host := if host.isEmpty then none else some host, path := String.ofList path } rest

/-- Read what follows the scheme of a file URL. -/
def parseFile (input : List Char) : Except UrlFault Url := do
  let isSlash := fun c => c = '/' || c = '\\'
  match input with
  | a :: b :: rest =>
    if isSlash a && isSlash b then
      let stop := fun c => c = '/' || c = '\\' || c = '?' || c = '#'
      let hostText := rest.takeWhile (!stop ·)
      let after := rest.dropWhile (!stop ·)
      if isDrive hostText then
        let (path, rest) := parsePath .file ['/'] rest
        return finish none path rest
      else
        let host ← if hostText.isEmpty then pure "" else parseHost hostText
        let host := if host = "localhost" then "" else host
        if host.isEmpty then
          -- The slash of the path comes after that of the root, so a drive keeps its mark.
          let (path, rest) := parsePath .file ['/'] after
          return finish none path rest
        else
          let (path, rest) := readPath .file ['/'] [] (if after.head?.any isSlash then after.drop 1 else after)
          -- A path that starts with a drive has no host.
          return finish (if startsWithDrive (path.drop 1) then none else some host) (singleRoot .file path) rest
    else return hostless input
  | _ => return hostless input
where
  /-- A file URL that is nothing but a path; the slash before it may be missing. -/
  hostless (input : List Char) : Url :=
    let rooted : Bool := input.head?.any fun c => c = '/' || c = '\\'
    let (path, rest) := parsePath .file (if rooted then [] else ['/']) input
    finish none path rest
  /-- A file URL with its path. -/
  finish (host : Option String) (path rest : List Char) : Url :=
    parseTail .file
      { scheme := "file", authority := some (host.getD ""), host, path := String.ofList path } rest

/-- Characters dropped at both ends of the input. -/
def isEdge (c : Char) : Bool := c.toNat ≤ 0x20

/-- Read an absolute URL. -/
def parse (input : String) : Except UrlFault Url :=
  let cs := dropEndWhile isEdge (input.toList.dropWhile isEdge)
  let cs := cs.filter fun c => c ≠ '\t' && c ≠ '\n' && c ≠ '\r'
  let isSchemeChar := fun (c : Char) => c.isAlphanum || c = '+' || c = '-' || c = '.'
  let scheme := cs.takeWhile isSchemeChar
  match cs.head?, cs.dropWhile isSchemeChar with
  | some first, ':' :: rest =>
    if !first.isAlpha then .error .relative
    else
      let scheme := String.ofList (scheme.map Char.toLower)
      match SchemeType.ofScheme scheme with
      | .file => parseFile rest
      | .special => parseAuthority scheme (rest.dropWhile fun c => c = '/' || c = '\\')
      | .other =>
        match rest with
        | '/' :: '/' :: rest => parseAuthority scheme rest
        | '/' :: _ =>
          let (path, rest) := parsePath .other [] rest
          .ok (parseTail .other { scheme, path := String.ofList path } rest)
        | _ =>
          let (path, rest) := parseOpaquePath rest
          .ok (parseTail .other { scheme, path := String.ofList path } rest)
  | _, _ => .error .relative

/-- Order of URLs: that of their written forms. -/
def compare (a b : Url) : Ordering := Ord.compare a.text b.text

end Url

end PlaybookServer
