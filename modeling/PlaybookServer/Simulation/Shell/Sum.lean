/-
Module: PlaybookServer.Simulation.Shell.Sum
Purpose: The sums of a shell: expressions over numbers of sixty-four bits and variables, with assignments.
Main exports: Expression, SumFault, Expression.ofText, Expression.value, evaluate
-/
import PlaybookServer.Simulation.Shell.Word

namespace PlaybookServer.Simulation.Shell

/-- An expression. Operators are named as they are written. -/
inductive Expression where
  | number (n : Int64)
  | named (x : String)
  | unary (operator : String) (e : Expression)
  | binary (operator : String) (a b : Expression)
  | choice (test yes no : Expression)
  /-- The variable becomes the value, or the value joined to its own by the operator. -/
  | assign (name operator : String) (e : Expression)
deriving DecidableEq, Repr, Inhabited

/-- Why a sum has no value. -/
inductive SumFault where
  | expecting (what : String)
  | divisionByZero
  | notANumber (text : String)
deriving DecidableEq, Repr, Inhabited

/-- The text of a fault in an expression. -/
def SumFault.message (expression : String) : SumFault → String
  | .expecting what => "arithmetic expression: expecting " ++ what ++ ": \"" ++ expression ++ "\""
  | .divisionByZero => "arithmetic expression: division by zero: \"" ++ expression ++ "\""
  | .notANumber text => "Illegal number: " ++ text

/-! ### Numbers -/

/-- The value of a digit in bases up to sixteen. -/
def digitValue? (c : Char) : Option Nat :=
  if c.isDigit then some (c.toNat - 0x30)
  else if 'a' ≤ c && c ≤ 'f' then some (c.toNat - 0x61 + 10)
  else if 'A' ≤ c && c ≤ 'F' then some (c.toNat - 0x41 + 10)
  else none

/-- Whether a character is a digit of a base. -/
def isDigitOf (base : Nat) (c : Char) : Bool := (digitValue? c).any (· < base)

/-- The number that digits of a base stand for. -/
def digitsValue (base : Nat) (cs : List Char) : Nat := cs.foldl (fun n c => base * n + (digitValue? c).getD 0) 0

/-- The number at the start of a text, in the base that its start tells, and what follows it. -/
def readNumber (cs : List Char) : Nat × List Char :=
  let (base, cs) := match cs with
    | '0' :: 'x' :: rest | '0' :: 'X' :: rest => if rest.head?.any (isDigitOf 16) then (16, rest) else (8, cs)
    | '0' :: _ => (8, cs)
    | cs => (10, cs)
  (digitsValue base (cs.takeWhile (isDigitOf base)), cs.dropWhile (isDigitOf base))

/-- The largest number there is. -/
def largestNumber : Int := 9223372036854775807

/-- A number of the range there is. -/
def clampNumber (n : Int) : Int64 := Int64.ofInt (max (-largestNumber - 1) (min largestNumber n))

/-- Whether a character is a blank or the end of a line. -/
def isGap (c : Char) : Bool := c = ' ' || c = '\t' || c = '\n'

/-- The sign at the start of a text, and what follows it. -/
def readSign : List Char → Bool × List Char
  | '-' :: rest => (true, rest)
  | '+' :: rest => (false, rest)
  | cs => (false, cs)

/-- A text that is a number with a sign and nothing else but blanks around it. With `anyBase` its start tells the
    base, else that is ten. -/
def signedNumber? (anyBase : Bool) (text : String) : Option Int :=
  let (negative, cs) := readSign (text.toList.dropWhile isGap)
  let (n, rest) :=
    if anyBase then readNumber cs else (digitsValue 10 (cs.takeWhile Char.isDigit), cs.dropWhile Char.isDigit)
  let value : Int := if negative then -(n : Int) else n
  if cs.head?.any Char.isDigit && rest.all isGap && (clampNumber value).toInt = value then some value else none

/-! ### Reading -/

/-- A token of an expression. -/
inductive SumToken where
  | number (n : Int64)
  | name (s : String)
  | operator (s : String)
deriving DecidableEq, Repr, Inhabited

/-- Operators, longer ones before those they start with. -/
def sumOperators : List String :=
  ["<<=", ">>=", "&&", "||", "<<", ">>", "<=", ">=", "==", "!=", "+=", "-=", "*=", "/=", "%=", "&=", "^=", "|=",
   "=", "<", ">", "&", "|", "^", "~", "!", "(", ")", "?", ":", "+", "-", "*", "/", "%"]

/-- The tokens of an expression. A character that starts none is an operator that fits nowhere. -/
def sumTokens : Nat → List Char → List SumToken
  | 0, _ => []
  | fuel + 1, cs =>
    match cs with
    | [] => []
    | c :: rest =>
      if isGap c then sumTokens fuel rest
      else if c.isDigit then
        let (n, rest) := readNumber cs
        .number (clampNumber n) :: sumTokens fuel rest
      else if isNameChar c then
        .name (String.ofList (cs.takeWhile isNameChar)) :: sumTokens fuel (cs.dropWhile isNameChar)
      else
        match sumOperators.find? fun o => Text.startsWith cs o.toList with
        | some o => .operator o :: sumTokens fuel (cs.drop o.length)
        | none => .operator (String.ofList [c]) :: sumTokens fuel rest

/-- How tightly an operator binds its sides. -/
def operatorLevel? (o : String) : Option Nat :=
  [("||", 0), ("&&", 1), ("|", 2), ("^", 3), ("&", 4), ("==", 5), ("!=", 5), ("<", 6), (">", 6), ("<=", 6), (">=", 6),
   ("<<", 7), (">>", 7), ("+", 8), ("-", 8), ("*", 9), ("/", 9), ("%", 9)].lookup o

/-- The operator that an assignment joins the old value and the new one by; the empty one for none. -/
def assignOperator? (o : String) : Option String :=
  if o = "=" then some ""
  else if ["<<=", ">>=", "+=", "-=", "*=", "/=", "%=", "&=", "^=", "|="].contains o then some (o.dropEnd 1).toString
  else none

mutual

/-- Read an assignment, a choice or what binds tighter. -/
def readAssignment : Nat → List SumToken → Except SumFault (Expression × List SumToken)
  | 0, _ => .error (.expecting "primary")
  | fuel + 1, ts => do
    let assigned : Option (String × String × List SumToken) := match ts with
      | .name x :: .operator o :: rest => (assignOperator? o).map fun o => (x, o, rest)
      | _ => none
    match assigned with
    | some (x, o, rest) =>
      let (e, rest) ← readAssignment fuel rest
      return (.assign x o e, rest)
    | none =>
      let (test, rest) ← readLevel fuel 0 ts
      match rest with
      | .operator "?" :: rest =>
        let (yes, rest) ← readAssignment fuel rest
        match rest with
        | .operator ":" :: rest =>
          let (no, rest) ← readAssignment fuel rest
          return (.choice test yes no, rest)
        | _ => .error (.expecting "':'")
      | rest => return (test, rest)

/-- Read operators that bind at least as tightly as a level. -/
def readLevel : Nat → Nat → List SumToken → Except SumFault (Expression × List SumToken)
  | 0, _, _ => .error (.expecting "primary")
  | fuel + 1, level, ts => do
    let (a, rest) ← readPrimary fuel ts
    readMore fuel level a rest

/-- Read the operators that follow a left side. -/
def readMore : Nat → Nat → Expression → List SumToken → Except SumFault (Expression × List SumToken)
  | 0, _, a, ts => .ok (a, ts)
  | fuel + 1, level, a, ts =>
    match ts with
    | .operator o :: rest =>
      match operatorLevel? o with
      | some l =>
        if l < level then .ok (a, ts)
        else do
          let (b, rest) ← readLevel fuel (l + 1) rest
          readMore fuel level (.binary o a b) rest
      | none => .ok (a, ts)
    | ts => .ok (a, ts)

/-- Read a number, a variable, an expression in parentheses or one with an operator before it. -/
def readPrimary : Nat → List SumToken → Except SumFault (Expression × List SumToken)
  | 0, _ => .error (.expecting "primary")
  | fuel + 1, ts =>
    match ts with
    | .number n :: rest => .ok (.number n, rest)
    | .name x :: rest => .ok (.named x, rest)
    | .operator "(" :: rest => do
      let (e, rest) ← readAssignment fuel rest
      match rest with
      | .operator ")" :: rest => return (e, rest)
      | _ => .error (.expecting "')'")
    | .operator "+" :: rest => readPrimary fuel rest
    | .operator o :: rest =>
      if ["-", "!", "~"].contains o then do
        let (e, rest) ← readPrimary fuel rest
        return (.unary o e, rest)
      else .error (.expecting "primary")
    | [] => .error (.expecting "primary")

end

/-- Read an expression. -/
def Expression.ofText (cs : List Char) : Except SumFault Expression := do
  let ts := sumTokens (cs.length + 1) cs
  let (e, rest) ← readAssignment (4 * ts.length + 4) ts
  if rest.isEmpty then return e else .error (.expecting "EOF")

/-! ### Values -/

/-- One for what holds. -/
def truth (b : Bool) : Int64 := if b then 1 else 0

/-- Join two values. -/
def joinValues (o : String) (a b : Int64) : Except SumFault Int64 :=
  match o with
  | "*" => .ok (a * b)
  | "/" => if b = 0 then .error .divisionByZero else .ok (a / b)
  | "%" => if b = 0 then .error .divisionByZero else .ok (a % b)
  | "+" => .ok (a + b)
  | "-" => .ok (a - b)
  | "<<" => .ok (a <<< b)
  | ">>" => .ok (a >>> b)
  | "<" => .ok (truth (a < b))
  | ">" => .ok (truth (b < a))
  | "<=" => .ok (truth (a ≤ b))
  | ">=" => .ok (truth (b ≤ a))
  | "==" => .ok (truth (a = b))
  | "!=" => .ok (truth (a ≠ b))
  | "&" => .ok (a &&& b)
  | "^" => .ok (a ^^^ b)
  | "|" => .ok (a ||| b)
  | _ => .ok b

/-- Variables that were set, newest first. -/
abbrev Assigned := List (String × Int64)

/-- The value of a variable; one that is not set or empty is zero. -/
def variableValue (value? : String → Option String) (set : Assigned) (x : String) : Except SumFault Int64 :=
  match set.lookup x, value? x with
  | some n, _ => .ok n
  | none, none | none, some "" => .ok 0
  | none, some text =>
    match signedNumber? true text with
    | some n => .ok (clampNumber n)
    | none => .error (.notANumber text)

/-- The value of an expression, and the variables it sets. The right side of `&&` and `||` counts only if the left
    leaves the outcome open. -/
def Expression.value (value? : String → Option String) :
    Expression → Assigned → Except SumFault (Int64 × Assigned)
  | .number n, set => .ok (n, set)
  | .named x, set => (variableValue value? set x).map (·, set)
  | .unary o e, set => do
    let (n, set) ← e.value value? set
    return (if o = "-" then -n else if o = "~" then ~~~n else truth (n = 0), set)
  | .binary "&&" a b, set => do
    let (m, set) ← a.value value? set
    if m = 0 then return (0, set)
    else
      let (n, set) ← b.value value? set
      return (truth (n ≠ 0), set)
  | .binary "||" a b, set => do
    let (m, set) ← a.value value? set
    if m ≠ 0 then return (1, set)
    else
      let (n, set) ← b.value value? set
      return (truth (n ≠ 0), set)
  | .binary o a b, set => do
    let (m, set) ← a.value value? set
    let (n, set) ← b.value value? set
    return (← joinValues o m n, set)
  | .choice test yes no, set => do
    let (n, set) ← test.value value? set
    if n ≠ 0 then yes.value value? set else no.value value? set
  | .assign x o e, set => do
    let (n, set) ← e.value value? set
    let n ← if o = "" then pure n else do joinValues o (← variableValue value? set x) n
    return (n, (x, n) :: set)

/-- The value of a text, and the variables it sets. -/
def evaluate (value? : String → Option String) (cs : List Char) : Except SumFault (Int64 × Assigned) := do
  (← Expression.ofText cs).value value? []

end PlaybookServer.Simulation.Shell
