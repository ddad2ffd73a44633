import GlslFlatten.Standin.Program.Shell.Session

/-!
Tests of files, texts and numbers.
-/

namespace GlslFlatten.Shell

open Text

/-- Arguments of a test as a value, where the whole is too short or too long to be one. -/
def unaryTest (t : Tree) (op : Octets) (arg : Octets) : Option Bool :=
  let path := Octets.toPath arg
  match String.ofList op with
  | "-n" => some !arg.isEmpty
  | "-z" => some arg.isEmpty
  | "-e" => some (t.locate path).toOption.isSome
  | "-f" => some (t.isFile path)
  | "-d" => some (t.isDir path)
  | "-r" => some (t.locate path).toOption.isSome
  | "-w" => some (t.locate path).toOption.isSome
  | "-x" => some (t.isDir path)
  | "-s" => some (((t.read path).toOption.map (!·.isEmpty)).getD (t.isDir path))
  | "-t" => some false
  | _ => none

/-- A comparison of two arguments, or the argument that is no number. -/
def binaryTest (a op b : Octets) : Option (Except Octets Bool) :=
  let compare (f : Int → Int → Bool) : Except Octets Bool :=
    match readDecimal? a, readDecimal? b with
    | none, _ => .error a
    | _, none => .error b
    | some m, some n => .ok (f m n)
  match String.ofList op with
  | "=" => some (.ok (a = b))
  | "!=" => some (.ok (a ≠ b))
  | "<" => some (.ok (a < b))
  | ">" => some (.ok (b < a))
  | "-eq" => some (compare (· = ·))
  | "-ne" => some (compare (· ≠ ·))
  | "-lt" => some (compare (· < ·))
  | "-le" => some (compare (· ≤ ·))
  | "-gt" => some (compare (· > ·))
  | "-ge" => some (compare (· ≥ ·))
  | _ => none
where
  readDecimal? (text : Octets) : Option Int :=
    let body := (dropTrailing (fun c => [' ', '\t', '\n'].contains c) (dropSpace text))
    match body with
    | '-' :: digits => (readNumber? digits).map fun n => -(n : Int)
    | '+' :: digits => (readNumber? digits).map fun n => (n : Int)
    | digits => (readNumber? digits).map fun n => (n : Int)

/-- What a test finds, or a remark. -/
abbrev Tested := Except Octets Bool

def illegalNumber (text : Octets) : Octets := "Illegal number: ".toList ++ text

def unexpectedOperator (text : Octets) : Octets := text ++ ": unexpected operator".toList

mutual

/-- Alternatives in a test. -/
def testOr (t : Tree) : (fuel : Nat) → List Octets → Except Octets (Bool × List Octets)
  | 0, args => .ok (false, args)
  | fuel + 1, args => do
    let (a, rest) ← testAnd t fuel args
    match rest with
    | ['-', 'o'] :: rest =>
      let (b, rest) ← testOr t fuel rest
      .ok (a || b, rest)
    | rest => .ok (a, rest)

def testAnd (t : Tree) : (fuel : Nat) → List Octets → Except Octets (Bool × List Octets)
  | 0, args => .ok (false, args)
  | fuel + 1, args => do
    let (a, rest) ← testOne t fuel args
    match rest with
    | ['-', 'a'] :: rest =>
      let (b, rest) ← testAnd t fuel rest
      .ok (a && b, rest)
    | rest => .ok (a, rest)

def testOne (t : Tree) : (fuel : Nat) → List Octets → Except Octets (Bool × List Octets)
  | 0, args => .ok (false, args)
  | fuel + 1, args =>
    match args with
    | [] => .ok (false, [])
    | a :: rest =>
      let binary := match rest with
        | op :: b :: more => (binaryTest a op b).map (·, more)
        | _ => none
      match binary with
      | some (.ok r, more) => .ok (r, more)
      | some (.error number, _) => .error (illegalNumber number)
      | none =>
        if a = ['!'] && !rest.isEmpty then do
          let (r, rest) ← testOne t fuel rest
          .ok (!r, rest)
        else if a = ['('] && !rest.isEmpty then do
          let (r, rest) ← testOr t fuel rest
          match rest with
          | [')'] :: rest => .ok (r, rest)
          | _ => .error "closing paren expected".toList
        else match rest with
          | b :: more =>
            match unaryTest t a b with
            | some r => .ok (r, more)
            | none => .ok (!a.isEmpty, rest)
          | [] => .ok (!a.isEmpty, rest)

end

/-- The truth of a test, all of whose arguments must be used up. -/
def testArguments (t : Tree) (args : List Octets) : Tested := do
  let (r, rest) ← testOr t (2 * args.length + 2) args
  match rest with
  | [] => .ok r
  | a :: _ =>
    .error (unexpectedOperator (if args.length = 2 then args.headD [] else a))

end GlslFlatten.Shell
