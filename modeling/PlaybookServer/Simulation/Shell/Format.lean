/-
Module: PlaybookServer.Simulation.Shell.Format
Purpose: What the two printing commands of a shell print: one joins its arguments, the other fills them into a
  format, as often as there are arguments left.
Main exports: unescape, echoBytes, Directive, Printed, printFormat
-/
import PlaybookServer.Simulation.Shell.Sum
import PlaybookServer.Text.Bytes

namespace PlaybookServer.Simulation.Shell

open Text

/-! ### Escapes -/

/-- Whether a character is an octal digit. -/
def isOctal (c : Char) : Bool := '0' ≤ c && c ≤ '7'

/-- The byte of an escape letter. -/
def escapeByte? (c : Char) : Option Nat :=
  [('a', 7), ('b', 8), ('e', 27), ('f', 12), ('n', 10), ('r', 13), ('t', 9), ('v', 11), ('\\', 92)].lookup c

/-- The byte of an escape after its backslash, and what follows it. In an argument a zero may stand before three
    octal digits. -/
def readEscape? (inArgument : Bool) (cs : List Char) : Option (Nat × List Char) :=
  match cs with
  | [] => none
  | c :: rest =>
    match escapeByte? c with
    | some b => some (b, rest)
    | none =>
      if isOctal c then
        let cs := if inArgument && c = '0' then rest else cs
        let digits := (cs.takeWhile isOctal).take 3
        some (digitsValue 8 digits % 256, cs.drop digits.length)
      else none

/-- The bytes of an argument with escapes, and whether it asked for silence after it. -/
def unescape : Nat → List Char → List Nat × Bool
  | 0, _ => ([], false)
  | fuel + 1, cs =>
    let add (bytes : List Nat) (rest : List Char) : List Nat × Bool :=
      let (more, quiet) := unescape fuel rest
      (bytes ++ more, quiet)
    match cs with
    | [] => ([], false)
    | '\\' :: 'c' :: _ => ([], true)
    | '\\' :: rest =>
      match readEscape? true rest with
      | some (b, rest) => add [b] rest
      | none => add [92] rest
    | c :: rest => add (encodeChar c) rest

/-- What the joining command prints. Escapes count unless the shell keeps them as they are. -/
def echoBytes (escapes : Bool) (arguments : List String) : List Nat :=
  let (quiet, arguments) := match arguments with
    | "-n" :: rest => (true, rest)
    | rest => (false, rest)
  let text := (join " " arguments).toList
  if escapes then
    let (bytes, stopped) := unescape (text.length + 1) text
    if quiet || stopped then bytes else bytes ++ [10]
  else encodeUtf8 text ++ (if quiet then [] else [10])

/-! ### Formats -/

/-- A place of a format that an argument fills. -/
structure Directive where
  flags : List Char := []
  width : Nat := 0
  precision : Option Nat := none
  kind : Char
deriving DecidableEq, Repr, Inhabited

/-- What is printed, what is complained of, and the exit code. -/
structure Printed where
  bytes : List Nat := []
  complaints : List String := []
  status : Nat := 0
  /-- Whether nothing more is printed. -/
  stopped : Bool := false
deriving DecidableEq, Repr, Inhabited

/-- One output after another. -/
def Printed.append (a b : Printed) : Printed :=
  { bytes := a.bytes ++ b.bytes, complaints := a.complaints ++ b.complaints, status := max a.status b.status
    stopped := b.stopped }

/-- The number that an argument stands for. A quote before a character gives the character's number. -/
def argumentNumber (text : String) : Int × Printed :=
  match text.toList with
  | [] => (0, {})
  | '\'' :: rest | '"' :: rest => (((encodeUtf8 rest).headD 0 : Nat), {})
  | cs =>
    let (negative, cs) := readSign (cs.dropWhile isGap)
    let (n, rest) := readNumber cs
    let value : Int := if negative then -(n : Int) else n
    if !cs.head?.any Char.isDigit then (0, { complaints := [text ++ ": expected numeric value"], status := 1 })
    else if !rest.isEmpty then (value, { complaints := [text ++ ": not completely converted"], status := 1 })
    else (value, {})

/-- Fill up to a width, at the end if that is asked for. -/
def fillTo (d : Directive) (bytes : List Nat) : List Nat :=
  let gap := List.replicate (d.width - bytes.length) 32
  if d.flags.contains '-' then bytes ++ gap else gap ++ bytes

/-- Digits with a sign, filled up with zeros where that is asked for. -/
def showDigits (d : Directive) (sign : String) (digits : List Char) : List Nat :=
  let digits := List.replicate (d.precision.getD 1 - digits.length) '0' ++ digits
  let zeros :=
    if d.flags.contains '0' && !d.flags.contains '-' && d.precision.isNone then
      List.replicate (d.width - (sign.length + digits.length)) '0'
    else []
  fillTo d (encodeUtf8 (sign.toList ++ zeros ++ digits))

/-- The digits of a number without a sign. A negative one is counted from the end of the range. -/
def unsignedDigits (base : Nat) (n : Int) : List Char := Nat.toDigits base (n % 18446744073709551616).toNat

/-- Show an argument. -/
def Directive.render (d : Directive) (argument : String) : Printed :=
  let numeric (f : Int → List Nat) : Printed :=
    let (n, p) := argumentNumber argument
    { p with bytes := f n }
  match d.kind with
  | 's' =>
    let bytes := encodeUtf8 argument.toList
    { bytes := fillTo d (bytes.take (d.precision.getD bytes.length)) }
  | 'c' => { bytes := fillTo d ((encodeUtf8 argument.toList).take 1) }
  | 'b' =>
    let (bytes, stopped) := unescape (argument.length + 1) argument.toList
    { bytes := fillTo d bytes, stopped }
  | 'u' => numeric fun n => showDigits d "" (unsignedDigits 10 n)
  | 'o' => numeric fun n => showDigits d (if d.flags.contains '#' then "0" else "") (unsignedDigits 8 n)
  | 'x' => numeric fun n => showDigits d (if d.flags.contains '#' then "0x" else "") (unsignedDigits 16 n)
  | 'X' =>
    numeric fun n =>
      showDigits d (if d.flags.contains '#' then "0X" else "") ((unsignedDigits 16 n).map Char.toUpper)
  | _ =>
    numeric fun n =>
      let sign := if n < 0 then "-" else if d.flags.contains '+' then "+" else if d.flags.contains ' ' then " " else ""
      showDigits d sign (Nat.toDigits 10 n.natAbs)

/-- A number of a directive: digits, or a star that takes an argument. -/
def readMeasure (cs : List Char) (args : List String) : Option Nat × List Char × List String :=
  match cs with
  | '*' :: rest => (some (argumentNumber (args.headD "")).1.toNat, rest, args.drop 1)
  | cs =>
    let digits := cs.takeWhile Char.isDigit
    (if digits.isEmpty then none else some (digitsValue 10 digits), cs.drop digits.length, args)

/-- One pass over a format: what is printed, the arguments left and whether one was asked for. -/
def formatPass : Nat → List Char → List String → Printed × List String × Bool
  | 0, _, args => ({}, args, false)
  | fuel + 1, cs, args =>
    let add (p : Printed) (rest : List Char) (args : List String) (used : Bool) : Printed × List String × Bool :=
      if p.stopped then (p, [], used)
      else
        let (more, args, also) := formatPass fuel rest args
        (p.append more, args, used || also)
    match cs with
    | [] => ({}, args, false)
    | '%' :: '%' :: rest => add { bytes := [37] } rest args false
    | '%' :: rest =>
      let flags := rest.takeWhile ['#', '-', '+', ' ', '0'].contains
      let (width, after, args) := readMeasure (rest.drop flags.length) args
      let (precision, after, args) := match after with
        | '.' :: after =>
          let (p, after, args) := readMeasure after args
          (some (p.getD 0), after, args)
        | after => (none, after, args)
      match after with
      | [] => ({ complaints := ["missing format character"], status := 2, stopped := true }, [], false)
      | kind :: after =>
        if ['d', 'i', 'u', 'o', 'x', 'X', 'c', 's', 'b'].contains kind then
          let d : Directive := { flags, width := width.getD 0, precision, kind }
          add (d.render (args.headD "")) after (args.drop 1) true
        else
          let written := String.ofList ('%' :: rest.take (rest.length - after.length))
          ({ complaints := [written ++ ": invalid directive"], status := 2, stopped := true }, [], false)
    | '\\' :: rest =>
      match readEscape? false rest with
      | some (b, rest) => add { bytes := [b] } rest args false
      | none => add { bytes := [92] } rest args false
    | c :: rest => add { bytes := encodeChar c } rest args false

/-- What a format prints for arguments: it is used again while arguments are left. -/
def printFormat (format : String) : Nat → List String → Printed
  | 0, _ => {}
  | fuel + 1, args =>
    let (p, rest, used) := formatPass (format.length + 1) format.toList args
    if used && !rest.isEmpty && !p.stopped then p.append (printFormat format fuel rest) else p

end PlaybookServer.Simulation.Shell
