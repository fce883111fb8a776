/-
Module: PlaybookServer.Source.Concrete
Purpose: The concrete syntax tree: nodes with their kind, byte span and role, in document order, and
  whether a fault lies inside. Pieces without a node of their own pass their parts up to the node
  around them.
Main exports: Concrete, Concrete.withRole, Piece.concrete
-/
import PlaybookServer.Source.Piece

namespace PlaybookServer.Source

/-- Everything about a node but its children. -/
structure ConcreteInfo where
  kind : Kind
  start : Nat
  stop : Nat
  /-- The text lacks this token; the node is empty. -/
  missing : Bool := false
  /-- A fault or a missing token lies at or below the node. -/
  faulty : Bool := false
  /-- The node's role in the pair around it. -/
  role : Option Role := none
  /-- Byte column at which the node two levels up starts, 0 when there is none. -/
  ownerColumn : Nat := 0
deriving DecidableEq, Repr, Inhabited

/-- A node of the concrete tree. -/
inductive Concrete where
  | node (info : ConcreteInfo) (children : List Concrete)
deriving Inhabited

namespace Concrete

/-- What is known of a node. -/
def info : Concrete → ConcreteInfo
  | .node i _ => i

/-- Its children in document order. -/
def children : Concrete → List Concrete
  | .node _ cs => cs

/-- Its kind. -/
def kind (c : Concrete) : Kind := c.info.kind

/-- Whether it is a region that could not be placed. -/
def isError (c : Concrete) : Bool := c.kind = .error

/-- The same node with a role. -/
def withRole (role : Role) : Concrete → Concrete
  | .node i cs => .node { i with role := some role } cs

end Concrete

/-- Position of a piece while the tree is laid out: bytes and rows before it. -/
structure Place where
  byte : Nat := 0
  row : Nat := 0
deriving Inhabited

/-- The place after an extent. -/
def Place.after (p : Place) (e : Extent) : Place := ⟨p.byte + e.bytes, p.row + e.rows⟩

/-- Give the first node of a list a role. -/
def markFirst (role : Option Role) : List Concrete → List Concrete
  | [] => []
  | c :: cs => match role with
    | some r => c.withRole r :: cs
    | none => c :: cs

mutual

/-- The node of a piece shown as `kind`. `parent` is the column of the node around it, `owner` that of
    the node around that one. -/
def Piece.concreteAs (rowStarts : Array Nat) (kind : Kind) (owner parent : Nat) (place : Place) :
    Piece → Concrete
  | .mk i ps =>
    let start := place.after i.padding
    let column := start.byte - rowStarts.getD start.row 0
    .node
      { kind, start := start.byte, stop := start.byte + i.size.bytes, missing := i.missing
        faulty := 0 < (if i.missing then prices.missing else i.cost), ownerColumn := owner }
      (Piece.concreteParts rowStarts i.shape 0 parent column place ps)

/-- The nodes of a list of parts, those of hidden parts included. -/
def Piece.concreteParts (rowStarts : Array Nat) (shape : Shape) (index : Nat) (owner parent : Nat)
    (place : Place) : List Piece → List Concrete
  | [] => []
  | .mk i ps :: rest =>
    let shown := if i.aside then none else shape.shown.getD index none
    let role := if i.aside then none else shape.roles.getD index none
    let here :=
      match shown.or i.symbol.shown? with
      | some kind => [Piece.concreteAs rowStarts kind owner parent place (.mk i ps)]
      | none => Piece.concreteParts rowStarts i.shape 0 owner parent place ps
    markFirst role here
      ++ Piece.concreteParts rowStarts shape (if i.aside then index else index + 1) owner parent
          (place.after (i.padding + i.size)) rest

end

/-- Byte offsets at which the rows of a text start. -/
def SourceText.rowStarts (t : SourceText) : Array Nat :=
  (List.range t.chars.size).foldl (fun acc i =>
    if t.chars.getD i ' ' = '\n' then acc.push (t.offset (i + 1)) else acc) #[0]

/-- The concrete tree of a whole parse. -/
def Piece.concrete (t : SourceText) (p : Piece) : Concrete :=
  Piece.concreteAs t.rowStarts (p.symbol.shown?.getD .error) 0 0 {} p

end PlaybookServer.Source
