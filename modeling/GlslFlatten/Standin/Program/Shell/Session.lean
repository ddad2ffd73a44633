import GlslFlatten.Standin.Program.Shell.Format
import GlslFlatten.Standin.Program.Shell.Glob
import GlslFlatten.Standin.Program.Shell.Parser
import GlslFlatten.Standin.Program.Tool
import GlslFlatten.Tree.Change

/-!
A script that runs: its variables, its streams, and how it can stop.
-/

namespace GlslFlatten.Shell

open Text

/-- Where a stream leads. -/
inductive Stream where
  | console
  | log
  | nowhere
  | file (loc : Location)
  deriving DecidableEq, Repr

/-- Where the numbered streams lead that a script writes to. -/
structure Streams where
  output : Stream := .console
  errors : Stream := .log
  others : List (Nat × Stream) := []
  deriving DecidableEq, Repr

/-- Printed pieces are kept with the latest first. -/
structure Session where
  tree : Tree
  name : Octets
  args : List Octets := []
  bindings : Variables := []
  functions : List (Octets × Command) := []
  documents : List (Nat × Word) := []
  status : Nat := 0
  line : Nat := 1
  streams : Streams := {}
  input : Octets := []
  printed : List Octets := []
  complaints : List Octets := []
  /-- What is to be run on a signal, or at the end, which has the number zero. -/
  traps : List (Nat × Octets) := []
  stopsOnFailure : Bool := false
  needsValues : Bool := false
  traces : Bool := false
  /-- Whether the status of what runs is looked at. -/
  tested : Bool := false
  /-- Whether the streams of the command that runs stay as they are behind it. -/
  lasting : Bool := false
  /-- How many loops are running. -/
  loops : Nat := 0
  /-- In a function, the variables that are its own, with their values outside. -/
  hidden : Option (List (Octets × Option Octets)) := none
  /-- The status of the last script whose output was taken while a command was expanded. -/
  substituted : Option Nat := none

/-- Why what follows is not run. -/
inductive Stop where
  | exit (status : Nat)
  | killed (signal : Nat)
  | leave (loops : Nat)
  | again (loops : Nat)
  | back
  deriving DecidableEq, Repr

abbrev Run := EStateM Stop Session

def setStatus (status : Nat) : Run Unit := modify fun s => { s with status }

def writeTo (stream : Stream) (text : Octets) : Run Unit := modify fun s =>
  match stream with
  | .console => { s with printed := text :: s.printed }
  | .log => { s with complaints := text :: s.complaints }
  | .nowhere => s
  | .file loc => { s with tree := s.tree.append loc (Octets.toBytes text) }

def print (text : Octets) : Run Unit := do writeTo (← get).streams.output text

/-- Says something with the name of the script and the line. -/
def complain (text : Octets) : Run Unit := do
  let s ← get
  writeTo s.streams.errors (s.name ++ ": ".toList ++ (toString s.line).toList ++ ": ".toList ++ text ++ ['\n'])

def stopWith {α : Type} (status : Nat) (text : Octets) : Run α := do
  complain text
  setStatus status
  throw (.exit status)

/-- Ends the script after a failure if it asks for that. -/
def afterStatus : Run Unit := do
  let s ← get
  if s.stopsOnFailure && !s.tested && s.status ≠ 0 then throw (.exit s.status)

/-- The process number, which scripts cannot rely on. -/
def processNumber : Octets := "1000".toList

def value? (name : Octets) : Run (Option Octets) := do
  let s ← get
  match name with
  | ['?'] => return some (toString s.status).toList
  | ['$'] => return some processNumber
  | ['#'] => return some (toString s.args.length).toList
  | ['0'] => return some s.name
  | ['!'] => return none
  | ['-'] => return some ((if s.stopsOnFailure then ['e'] else []) ++
      (if s.needsValues then ['u'] else []) ++ if s.traces then ['x'] else [])
  | ['@'] => return if s.args.isEmpty then none else some ([' '].intercalate s.args)
  | ['*'] => return if s.args.isEmpty then none else some ([' '].intercalate s.args)
  | c :: _ =>
    if isAsciiDigit c then return s.args[digitsValue name - 1]?
    else return s.bindings.lookup name
  | [] => return none

def setVariable (name value : Octets) : Run Unit :=
  modify fun s => { s with bindings := s.bindings.set name value }

def separators : Run Octets := return ((← get).bindings.lookup "IFS".toList).getD [' ', '\t', '\n']

/-- A piece of a word that has been expanded. -/
inductive Bit where
  | char (c : Char) (quoted splits : Bool)
  /-- A quotation without text, which makes a word of its own. -/
  | quotation
  /-- The end of a word inside a parameter that holds several. -/
  | gap
  deriving DecidableEq, Repr

def bitsOf (quoted : Bool) (text : Octets) : List Bit :=
  if text.isEmpty && quoted then [.quotation] else text.map fun c => .char c quoted !quoted

/-- Cuts bits into words, at gaps and at separators in what splits. -/
def wordsOf (ifs : Octets) : List Bit → Option Marked → List Marked
  | [], word => word.toList
  | .quotation :: rest, word => wordsOf ifs rest (some (word.getD []))
  | .gap :: rest, word => word.toList ++ wordsOf ifs rest none
  | .char c quoted splits :: rest, word =>
    if splits && ifs.contains c then
      if [' ', '\t', '\n'].contains c then word.toList ++ wordsOf ifs rest none
      else word.getD [] :: wordsOf ifs rest none
    else wordsOf ifs rest (some (word.getD [] ++ [(c, quoted)]))

def charsOf (bits : List Bit) : Marked := bits.filterMap fun
  | .char c quoted _ => some (c, quoted)
  | .quotation => none
  | .gap => some (' ', true)

def textOf (bits : List Bit) : Octets := (charsOf bits).map (·.1)

/-- The names in the working directory that a pattern stands for, or the pattern itself. -/
def expandGlob (word : Marked) : Run (List Octets) := do
  let plain := word.map (·.1)
  if !hasGlob word then return [plain]
  let lastLength := (word.reverse.takeWhile fun (c, _) => c ≠ '/').length
  let lead := word.take (word.length - lastLength)
  let pattern := word.drop (word.length - lastLength)
  if hasGlob lead then return [plain]
  let dir : Octets := if lead.isEmpty then ['.'] else lead.map (·.1)
  match (← get).tree.list (Octets.toPath dir) with
  | .error _ => return [plain]
  | .ok children =>
    let octets : FileName → Octets
      | .text s => Octets.ofString s
      | .foreign n => Octets.ofBytes n.bytes
    let names := (children.map fun (name, _) => octets name).filter fun name =>
      matchesGlob pattern name && (name.head? ≠ some '.' || pattern.head?.map (·.1) = some '.')
    if names.isEmpty then return [plain]
    else return (names.mergeSort fun a b => !b.lex a).map (lead.map (·.1) ++ ·)

/-- Runs something in a session of its own, of which only what is printed and written remains. -/
def isolated (x : Run Unit) : Run Unit := fun s =>
  let keep (inner : Session) (status : Nat) : Session :=
    { s with
      tree := inner.tree
      input := inner.input
      printed := inner.printed
      complaints := inner.complaints
      documents := inner.documents
      status }
  match x { s with traps := [] } with
  | .ok () inner => .ok () (keep inner inner.status)
  | .error (.killed signal) inner => .error (.killed signal) (keep inner inner.status)
  | .error (.exit status) inner => .ok () (keep inner status)
  | .error _ inner => .ok () (keep inner inner.status)

/-- Runs something and gives what it prints. -/
def captured (x : Run Unit) : Run Octets := do
  let before ← get
  set { before with printed := [], streams := { before.streams with output := .console } }
  isolated x
  let after ← get
  set { after with printed := before.printed, streams := before.streams }
  return after.printed.reverse.flatten

/-- Runs something with other streams, and brings these back whatever happens, unless they are to
stay. -/
def redirecting (x : Run Unit) (streams : Streams) (input : Option Octets) : Run Unit := fun s =>
  let restore (inner : Session) : Session :=
    if inner.lasting then inner
    else { inner with
      streams := s.streams
      input := if input.isSome then s.input else inner.input }
  match x { s with streams, input := input.getD s.input } with
  | .ok () inner => .ok () (restore inner)
  | .error stop inner => .error stop (restore inner)

/-- A stream by its number, and nothing where it is closed or unknown. -/
def streamOf (text : Octets) (s : Session) : Option Stream :=
  match text with
  | ['1'] => some s.streams.output
  | ['2'] => some s.streams.errors
  | ['-'] => some .nowhere
  | _ => (readNumber? text).bind fun n => s.streams.others.lookup n

end GlslFlatten.Shell
