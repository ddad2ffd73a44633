import GlslFlatten.Standin.Program.Shell.Command
import GlslFlatten.Text.Digit

/-!
Integer expressions in 64 bits, with the variables of a script.
-/

namespace GlslFlatten.Shell

open Text

inductive Operation where
  | mul | div | mod | add | sub | shiftLeft | shiftRight
  | less | lessEqual | greater | greaterEqual | equal | unequal
  | bitAnd | bitXor | bitOr | and | or
  deriving DecidableEq, Repr

inductive Expression where
  | number (n : Int)
  | name (x : Octets)
  | negate (e : Expression)
  | complement (e : Expression)
  | not (e : Expression)
  | binary (op : Operation) (left right : Expression)
  | choose (test yes no : Expression)
  /-- Sets a variable, perhaps to what an operation makes of its value. -/
  | assign (x : Octets) (op : Option Operation) (e : Expression)
  deriving Repr

/-- Brings a number into the range of signed 64-bit numbers. -/
def wrap (n : Int) : Int := n.bmod UInt64.size

/-- Operators by how tightly they bind, the loosest first. -/
def operatorLevels : List (List (String × Operation)) :=
  [[("||", .or)], [("&&", .and)], [("|", .bitOr)], [("^", .bitXor)], [("&", .bitAnd)],
    [("==", .equal), ("!=", .unequal)],
    [("<=", .lessEqual), (">=", .greaterEqual), ("<", .less), (">", .greater)],
    [("<<", .shiftLeft), (">>", .shiftRight)],
    [("+", .add), ("-", .sub)], [("*", .mul), ("/", .div), ("%", .mod)]]

def assignments : List (String × Option Operation) :=
  [("=", none), ("+=", some .add), ("-=", some .sub), ("*=", some .mul), ("/=", some .div),
    ("%=", some .mod), ("<<=", some .shiftLeft), (">>=", some .shiftRight), ("&=", some .bitAnd),
    ("^=", some .bitXor), ("|=", some .bitOr)]

def dropSpace (cs : Octets) : Octets := cs.dropWhile fun c => [' ', '\t', '\n'].contains c

/-- The operator that comes next. The longest one counts, and an assignment is none. -/
def operatorAt? (cs : Octets) (ops : List (String × Operation)) : Option (Operation × Octets) :=
  let all := (operatorLevels.flatten.map (·.1) ++ assignments.map (·.1)).filter
    fun text => text.toList.isPrefixOf cs
  let longest := all.foldl (fun best text => if best.length < text.length then text else best) ""
  (ops.lookup longest).map fun op => (op, cs.drop longest.length)

/-- A number in decimal, octal or hexadecimal digits, if it has no other digits. -/
def readInteger? (digits : Octets) : Option Nat :=
  let value (base : Nat) (cs : Octets) : Option Nat :=
    cs.foldl (fun n c => do
      let d := if isAsciiDigit c then c.toNat - 48
        else if c.toLower.isLower then c.toLower.toNat - 87 else 99
      if d < base then some (base * (← n) + d) else none) (some 0)
  match digits with
  | [] => none
  | '0' :: x :: cs =>
    if (x = 'x' || x = 'X') && !cs.isEmpty then value 16 cs else value 8 (x :: cs)
  | cs => value 10 cs

abbrev Parsed := Except String (Expression × Octets)

mutual

/-- An assignment or a choice. -/
def readExpression : (fuel : Nat) → Octets → Parsed
  | 0, _ => .error "expecting primary"
  | fuel + 1, cs =>
    let cs := dropSpace cs
    let x := if cs.head?.any isNameStart then cs.takeWhile isNamePart else []
    let rest := dropSpace (cs.drop x.length)
    let assigned := assignments.findSome? fun (text, op) =>
      if text.toList.isPrefixOf rest && !(text = "=" && (rest.drop 1).head? = some '=') then
        some (op, rest.drop text.length)
      else none
    match x, assigned with
    | _ :: _, some (op, rest) => do
      let (e, rest) ← readExpression fuel rest
      .ok (.assign x op e, rest)
    | _, _ => do
      let (test, rest) ← readLevel fuel operatorLevels cs
      match dropSpace rest with
      | '?' :: rest =>
        let (yes, rest) ← readExpression fuel rest
        match dropSpace rest with
        | ':' :: rest =>
          let (no, rest) ← readExpression fuel rest
          .ok (.choose test yes no, rest)
        | _ => .error "expecting ':'"
      | _ => .ok (test, rest)

/-- Operands of the first level, joined from the left. -/
def readLevel : (fuel : Nat) → List (List (String × Operation)) → Octets → Parsed
  | 0, _, _ => .error "expecting primary"
  | fuel + 1, [], cs => readPrimary fuel cs
  | fuel + 1, ops :: levels, cs => do
    let (left, rest) ← readLevel fuel levels cs
    readOperands fuel ops levels left rest

def readOperands : (fuel : Nat) → List (String × Operation) → List (List (String × Operation)) →
    Expression → Octets → Parsed
  | 0, _, _, left, rest => .ok (left, rest)
  | fuel + 1, ops, levels, left, rest =>
    match operatorAt? (dropSpace rest) ops with
    | some (op, rest) => do
      let (right, rest) ← readLevel fuel levels rest
      readOperands fuel ops levels (.binary op left right) rest
    | none => .ok (left, rest)

def readPrimary : (fuel : Nat) → Octets → Parsed
  | 0, _ => .error "expecting primary"
  | fuel + 1, cs =>
    match dropSpace cs with
    | '-' :: cs => do
      let (e, rest) ← readPrimary fuel cs
      .ok (.negate e, rest)
    | '+' :: cs => readPrimary fuel cs
    | '~' :: cs => do
      let (e, rest) ← readPrimary fuel cs
      .ok (.complement e, rest)
    | '!' :: cs => do
      let (e, rest) ← readPrimary fuel cs
      .ok (.not e, rest)
    | '(' :: cs => do
      let (e, rest) ← readExpression fuel cs
      match dropSpace rest with
      | ')' :: rest => .ok (e, rest)
      | _ => .error "expecting ')'"
    | c :: cs =>
      if isNameStart c then
        let x := (c :: cs).takeWhile isNamePart
        .ok (.name x, (c :: cs).drop x.length)
      else if isAsciiDigit c then
        let hex := c = '0' && (cs.head? = some 'x' || cs.head? = some 'X')
        let digits := if hex then '0' :: 'x' :: (cs.drop 1).takeWhile fun d =>
            isAsciiDigit d || 'a' ≤ d.toLower && d.toLower ≤ 'f'
          else (c :: cs).takeWhile fun d => if c = '0' then '0' ≤ d && d ≤ '7' else isAsciiDigit d
        match readInteger? digits with
        | some n => .ok (.number (min n (UInt64.size / 2 - 1)), (c :: cs).drop digits.length)
        | none => .error "expecting primary"
      else .error "expecting primary"
    | [] => .error "expecting primary"

end

def parseExpression (text : Octets) : Except String Expression := do
  let (e, rest) ← readExpression (32 * (text.length + 4)) text
  if (dropSpace rest).isEmpty then .ok e else .error "expecting EOF"

def Operation.apply (op : Operation) (a b : Int) : Except String Int :=
  let truth (p : Bool) : Int := if p then 1 else 0
  let bits (f : Nat → Nat → Nat) : Int :=
    wrap (f (a % UInt64.size).toNat (b % UInt64.size).toNat)
  match op with
  | mul => .ok (wrap (a * b))
  | div => if b = 0 then .error "division by zero" else .ok (wrap (a.tdiv b))
  | mod => if b = 0 then .error "division by zero" else .ok (wrap (a.tmod b))
  | add => .ok (wrap (a + b))
  | sub => .ok (wrap (a - b))
  | shiftLeft => .ok (wrap (a * (1 <<< (b % 64).toNat : Nat)))
  | shiftRight => .ok (a >>> (b % 64).toNat)
  | less => .ok (truth (a < b))
  | lessEqual => .ok (truth (a ≤ b))
  | greater => .ok (truth (a > b))
  | greaterEqual => .ok (truth (a ≥ b))
  | equal => .ok (truth (a = b))
  | unequal => .ok (truth (a ≠ b))
  | bitAnd => .ok (bits Nat.land)
  | bitXor => .ok (bits Nat.xor)
  | bitOr => .ok (bits Nat.lor)
  | and => .ok (truth (a ≠ 0 && b ≠ 0))
  | or => .ok (truth (a ≠ 0 || b ≠ 0))

/-- Variables with their values. -/
abbrev Variables := List (Octets × Octets)

def Variables.set (vars : Variables) (x value : Octets) : Variables :=
  (x, value) :: vars.filter (·.1 ≠ x)

def showInt (n : Int) : Octets := (toString n).toList

/-- A number with a sign. -/
def readSigned? (text : Octets) : Option Int :=
  match dropSpace text with
  | '-' :: cs => (readInteger? cs).map fun n => -(n : Int)
  | '+' :: cs => (readInteger? cs).map fun n => (n : Int)
  | cs => (readInteger? cs).map fun n => (n : Int)

/-- Evaluates with variables. Operands that do not matter are not evaluated. -/
def Expression.value : Expression → StateT Variables (Except String) Int
  | number n => return n
  | name x => do
    match (← get).lookup x with
    | none | some [] => return 0
    | some text =>
      match readSigned? text with
      | some n => return wrap n
      | none => throw ("Illegal number: " ++ .ofList text)
  | negate e => return wrap (-(← e.value))
  | complement e => return -1 - (← e.value)
  | not e => return if (← e.value) = 0 then 1 else 0
  | binary op left right => do
    let a ← left.value
    if op = .and ∧ a = 0 then return 0
    else if op = .or ∧ a ≠ 0 then return 1
    else
      let b ← right.value
      match op.apply a b with
      | .ok n => return n
      | .error e => throw e
  | choose test yes no => do if (← test.value) ≠ 0 then yes.value else no.value
  | assign x op e => do
    let b ← e.value
    let n ← match op with
      | none => pure b
      | some op => do
        let a ← (name x).value
        match op.apply a b with
        | .ok n => pure n
        | .error e => throw e
    modify (·.set x (showInt n))
    return n

end GlslFlatten.Shell
