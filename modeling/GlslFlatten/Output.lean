import GlslFlatten.IoError
import GlslFlatten.Text.Lines
import GlslFlatten.Text.Utf8
import GlslFlatten.Tree.Change

/-!
Where lines go: into memory, perhaps with room for a limited number of them, or into a file of the
tree, through a buffer.
-/

namespace GlslFlatten

open Text

/-- A line of flattened text. A marker gives the line number and the file number of what follows. -/
inductive FlatLine where
  | marker (line index : Nat)
  | copied (text : String)
  deriving DecidableEq, Repr

namespace FlatLine

/-- The parts in which a line is handed to an output, the line feed among them. -/
def parts : FlatLine → List String
  | marker line index => ["#line ", toString line, " ", toString index, "\n"]
  | copied text => [text, "\n"]

def text : FlatLine → String
  | marker line index => "#line " ++ toString line ++ " " ++ toString index
  | copied text => text

end FlatLine

/-- An output, and the tree as it can be read while lines are written. -/
structure Output (σ : Type) where
  tree : σ → Tree
  write : FlatLine → σ → Except IoError Unit × σ

/-- Whole lines in memory. Without a room the number of further lines is not limited. -/
structure Sink where
  lines : List String := []
  room : Option Nat := none
  deriving DecidableEq, Repr

namespace Sink

def text (s : Sink) : String := String.join (s.lines.map (· ++ "\n"))

/-- Line feeds inside the text end lines as well. What does not fit is refused, the rest is kept. -/
def write (s : Sink) (text : String) : Except IoError Unit × Sink :=
  let new := splitAt '\n' text
  match s.room with
  | none => (.ok (), { s with lines := s.lines ++ new })
  | some n =>
    (if new.length ≤ n then .ok () else .error .sinkFull,
      ⟨s.lines ++ new.take n, some (n - new.length)⟩)

/-- The tree does not change while lines go to memory. -/
def output (t : Tree) : Output Sink where
  tree _ := t
  write l s := s.write l.text

end Sink

/-- A file or device that is being written. Pending bytes have not been handed to it yet. -/
structure FileSink where
  tree : Tree
  target : Location
  pending : List UInt8 := []
  deriving DecidableEq, Repr

namespace FileSink

def capacity : Nat := 8192

/-- Why the target takes no bytes, if it is a device that refuses them. -/
def refusal? (f : FileSink) : Option IoError :=
  match f.tree.get? f.target with
  | some (.device refusal) => refusal
  | _ => none

abbrev Writing := EStateM IoError FileSink

/-- Hands bytes to the target. Without any there is nothing to refuse. -/
def send (bytes : List UInt8) : Writing Unit := fun f =>
  match f.refusal? with
  | some e => if bytes = [] then .ok () f else .error e f
  | none => .ok () { f with tree := f.tree.append f.target bytes }

/-- Bytes that are refused stay pending. -/
def flush : Writing Unit := do
  send (← get).pending
  modify fun f => { f with pending := [] }

/-- Bytes that do not fit behind the pending ones drive these out, and a full load is not held back. -/
def put (bytes : List UInt8) : Writing Unit := do
  if capacity < (← get).pending.length + bytes.length then flush
  if bytes.length < capacity then modify fun f => { f with pending := f.pending ++ bytes }
  else send bytes

def writeLine (line : FlatLine) : Writing Unit := line.parts.forM fun part => put (Utf8.bytes part)

def output : Output FileSink where
  tree f := f.tree
  write line f :=
    match writeLine line f with
    | .ok () f => (.ok (), f)
    | .error e f => (.error e, f)

end FileSink

end GlslFlatten
