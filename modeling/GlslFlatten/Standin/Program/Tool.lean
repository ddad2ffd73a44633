import GlslFlatten.Standin.Program.Shell.Command
import GlslFlatten.Text.Digit
import GlslFlatten.Tree.Walk

/-!
Small programs that read files of the tree and print text.
-/

namespace GlslFlatten

open Text Shell

/-- How the run of a program ends. -/
inductive Ending where
  | exited (status : Nat)
  | killed (signal : Nat)
  deriving DecidableEq, Repr

/-- The run of a program: what it prints, what it says on the stream for errors, and its end. -/
structure ToolRun where
  printed : Octets := []
  complaints : Octets := []
  ending : Ending := .exited 0
  deriving DecidableEq, Repr

namespace Octets

def ofBytes (bytes : List UInt8) : Octets := bytes.map fun b => .ofNat b.toNat

def toBytes (octets : Octets) : List UInt8 := octets.map fun c => .ofNat c.toNat

def ofString (s : String) : Octets := ofBytes (Utf8.bytes s)

def toString (octets : Octets) : String := .ofList (Utf8.decodeLossy (toBytes octets))

def toPath (octets : Octets) : Path := ⟨toString octets⟩

end Octets

/-- The reason of a refusal in the words of the system. -/
def IoError.reason (e : IoError) : String :=
  .ofList (((Text.pieces '(' e.text.toList).headD []).reverse.dropWhile (· = ' ')).reverse

/-- The content of the regular file that a path names. -/
def Tree.read (t : Tree) (p : Path) : Except IoError Octets :=
  match t.locate p with
  | .error e => .error e
  | .ok loc =>
    match t.get? loc with
    | some (.file content) => .ok (Octets.ofBytes content)
    | some (.sealed e) => .error e
    | some .directory => .error .isDirectory
    | _ => .ok []

/-- A program is given the name under which it was called, its arguments, and its input. -/
abbrev Tool := Tree → (name : Octets) → (args : List Octets) → (input : Octets) → ToolRun

namespace Tool

def complain (name : Octets) (text : String) (status : Nat) : ToolRun where
  complaints := name ++ Octets.ofString (": " ++ text ++ "\n")
  ending := .exited status

def misuse (name : Octets) (text : String) : ToolRun :=
  complain name (text ++ "\nTry '" ++ Octets.toString name ++ " --help' for more information.") 1

/-- Letters that are options, and arguments that are none. Two dashes end the options. -/
structure Options where
  letters : Octets := []
  operands : List Octets := []
  deriving DecidableEq, Repr

/-- Sorts arguments, or says which is no option. -/
def Options.read (known : Octets) : List Octets → Options → Except String Options
  | [], o => .ok o
  | ['-', '-'] :: rest, o => .ok { o with operands := o.operands ++ rest }
  | arg :: rest, o =>
    match arg with
    | '-' :: '-' :: _ => .error ("unrecognized option '" ++ Octets.toString arg ++ "'")
    | '-' :: c :: cs =>
      match (c :: cs).find? fun c => !known.contains c with
      | some c => .error ("invalid option -- '" ++ Octets.toString [c] ++ "'")
      | none => read known rest { o with letters := o.letters ++ (c :: cs) }
    | _ => read known rest { o with operands := o.operands ++ [arg] }

def withOptions (known : String) (f : Tree → Octets → Options → Octets → ToolRun) : Tool :=
  fun t name args input =>
    match Options.read known.toList args {} with
    | .ok o => f t name o input
    | .error text => misuse name text

/-- Lets a function print what it makes of each operand in turn. A dash is the input. -/
def perFile (f : Octets → Octets) (missing : Octets → IoError → String) :
    Tree → Octets → Options → Octets → ToolRun :=
  fun t name o input =>
    let operands := if o.operands.isEmpty then [['-']] else o.operands
    operands.foldl (fun run operand =>
      let content := if operand = ['-'] then .ok input else t.read (Octets.toPath operand)
      match content with
      | .ok content => { run with printed := run.printed ++ f content }
      | .error e => { run with
          complaints := run.complaints ++ name ++ Octets.ofString (": " ++ missing operand e ++ "\n")
          ending := .exited 1 }) {}

def plainly (operand : Octets) (e : IoError) : String := Octets.toString operand ++ ": " ++ e.reason

/-- Lines with their ends. -/
def wholeLines (content : Octets) : List Octets :=
  let ls := lines '\n' content
  let ended := (content.filter (· = '\n')).length
  ls.zipIdx.map fun (line, i) => if i < ended then line ++ ['\n'] else line

/-- How `cat` shows lines. -/
structure Display where
  numbers : Bool := false
  /-- Lines that hold nothing get no number. -/
  skipsBlank : Bool := false
  squeezes : Bool := false
  ends : Bool := false
  tabs : Bool := false
  controls : Bool := false
  deriving DecidableEq, Repr

namespace Display

def ofLetters (letters : Octets) : Display :=
  let any (options : String) : Bool := options.toList.any letters.contains
  { numbers := any "nb"
    skipsBlank := any "b"
    squeezes := any "s"
    ends := any "AeE"
    tabs := any "AtT"
    controls := any "Aetv" }

/-- A character below 128 that prints nothing is shown as the one 64 above or below it. -/
def visible (c : Nat) : Octets :=
  if c < 32 then ['^', .ofNat (c + 64)] else if c = 127 then ['^', '?'] else [.ofNat c]

def char (d : Display) (c : Char) : Octets :=
  if c = '\n' then (if d.ends then ['$', c] else [c])
  else if c = '\t' then (if d.tabs then visible c.toNat else [c])
  else if !d.controls then [c]
  else if c.toNat < 128 then visible c.toNat
  else 'M' :: '-' :: visible (c.toNat - 128)

/-- Keeps one of the lines in a row that hold nothing. -/
def squeeze : (blank : Bool) → List Octets → List Octets
  | _, [] => []
  | blank, line :: rest =>
    if line = ['\n'] then (if blank then squeeze true rest else line :: squeeze true rest)
    else line :: squeeze false rest

/-- Lines with numbers from `n` on, where `blank` is a line that holds nothing. -/
def number (d : Display) (blank : Octets) : (n : Nat) → List Octets → List Octets
  | _, [] => []
  | n, line :: rest =>
    if d.skipsBlank && line = blank then line :: d.number blank n rest
    else
      let digits := (toString n).toList
      (List.replicate (6 - digits.length) ' ' ++ digits ++ '\t' :: line) :: d.number blank (n + 1) rest

def render (d : Display) (content : Octets) : Octets :=
  let ls := wholeLines content
  let ls := if d.squeezes then squeeze false ls else ls
  let ls := ls.map (·.flatMap d.char)
  let blank : Octets := if d.ends then ['$', '\n'] else ['\n']
  (if d.numbers then d.number blank 1 ls else ls).flatten

end Display

def cat : Tool := withOptions "AbeEnstTuv" fun t name o input =>
  let run := perFile id plainly t name o input
  if o.letters.isEmpty then run
  else { run with printed := (Display.ofLetters o.letters).render run.printed }

/-- Lines in reverse order. A last line without an end stays without one. -/
def reverseLines (content : Octets) : Octets :=
  let ls := lines '\n' content
  let whole := ls.map (· ++ ['\n'])
  if content.getLast? = some '\n' || content.isEmpty then whole.reverse.flatten
  else ls.getLast?.getD [] ++ (whole.dropLast.reverse).flatten

def tac : Tool := withOptions "brs" <| perFile reverseLines fun operand e =>
  match e with
  | .isDirectory => Octets.toString operand ++ ": read error: " ++ e.reason
  | e => "failed to open '" ++ Octets.toString operand ++ "' for reading: " ++ e.reason

def echo : Tool := fun _ _ args _ =>
  let (bare, args) := match args with
    | ['-', 'n'] :: rest => (true, rest)
    | args => (false, args)
  { printed := [' '].intercalate args ++ if bare then [] else ['\n'] }

/-- The last name of a path, without slashes behind it. -/
def lastName (path : Octets) : Octets :=
  if path.isEmpty then []
  else match dropTrailing (· = '/') path with
    | [] => ['/']
    | p => (pieces '/' p).getLast?.getD []

def basename : Tool := withOptions "asz" fun _ name o _ =>
  match o.operands with
  | [] => misuse name "missing operand"
  | [path] => { printed := lastName path ++ ['\n'] }
  | [path, ending] =>
    let base := lastName path
    { printed := (if ending.isSuffixOf base && ending ≠ base then
        base.take (base.length - ending.length) else base) ++ ['\n'] }
  | _ :: _ :: extra :: _ => misuse name ("extra operand '" ++ Octets.toString extra ++ "'")

def dirname : Tool := withOptions "z" fun _ name o _ =>
  if o.operands.isEmpty then misuse name "missing operand"
  else
    { printed := (o.operands.map fun path =>
        let p := dropTrailing (· = '/') path
        let above := dropTrailing (· ≠ '/') p
        let shown := dropTrailing (· = '/') above
        (if above.isEmpty then (if p.isEmpty && !path.isEmpty then ['/'] else ['.'])
          else if shown.isEmpty then ['/'] else shown) ++ ['\n']).flatten }

def integer? (arg : Octets) : Option Int :=
  match arg with
  | '-' :: digits => (readNumber? digits).map fun n => -(n : Int)
  | digits => (readNumber? digits).map fun n => (n : Int)

/-- Numbers from the first to the last in steps. -/
def seq : Tool := fun _ name args _ =>
  let row (first step last : Int) : ToolRun :=
    let count := if step = 0 then 0 else ((last - first).fdiv step + 1).toNat
    { printed := ((List.range count).map fun (i : Nat) =>
        (toString (first + step * (i : Int))).toList ++ ['\n']).flatten }
  match args.map integer? with
  | [some last] => row 1 1 last
  | [some first, some last] => row first 1 last
  | [some first, some step, some last] => row first step last
  | [] => misuse name "missing operand"
  | _ => misuse name "invalid floating point argument"

/-- The count that `-n 3`, `-n3` or `-3` gives, and the other arguments. -/
def lineCount (args : List Octets) : Nat × List Octets :=
  match args with
  | ['-', 'n'] :: n :: rest => ((readNumber? n).getD 10, rest)
  | ('-' :: 'n' :: n) :: rest => ((readNumber? n).getD 10, rest)
  | ('-' :: d :: n) :: rest =>
    if isAsciiDigit d then ((readNumber? (d :: n)).getD 10, rest) else (10, args)
  | args => (10, args)

def opening (operand : Octets) (e : IoError) : String :=
  match e with
  | .isDirectory => "error reading '" ++ Octets.toString operand ++ "': " ++ e.reason
  | e => "cannot open '" ++ Octets.toString operand ++ "' for reading: " ++ e.reason

def head : Tool := fun t name args input =>
  let (n, operands) := lineCount args
  perFile (fun content => ((wholeLines content).take n).flatten) opening t name { operands } input

def tail : Tool := fun t name args input =>
  let (n, operands) := lineCount args
  perFile (fun content =>
    let ls := wholeLines content
    (ls.drop (ls.length - n)).flatten) opening t name { operands } input

def succeed : Tool := fun _ _ _ _ => {}

def fail : Tool := fun _ _ _ _ => { ending := .exited 1 }

def all : List (String × Tool) :=
  [("cat", cat), ("tac", tac), ("echo", echo), ("basename", basename), ("dirname", dirname),
    ("seq", seq), ("head", head), ("tail", tail), ("sleep", succeed), ("true", succeed), ("false", fail)]

end Tool

end GlslFlatten
