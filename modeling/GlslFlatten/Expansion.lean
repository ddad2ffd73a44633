import GlslFlatten.Context
import GlslFlatten.Log
import GlslFlatten.Output
import GlslFlatten.Reader

/-!
Expansion of a source: its lines are copied, and every include directive is replaced by the expansion
of the file that it names. Markers tell which line of which file follows.
-/

namespace GlslFlatten

open Text

/-- What an expansion carries along, whether it ends well or not. -/
structure Progress (σ : Type) where
  out : σ
  context : Context
  log : List Log.Record := []
  deriving Repr

abbrev Expand (σ : Type) := EStateM Failure (Progress σ)

namespace Expansion

variable {σ : Type}

/-- A file whose lines are being copied. -/
structure OpenFile where
  loc : Location
  name : String
  index : Nat
  deriving DecidableEq, Repr

def OpenFile.origin (f : OpenFile) (line : Nat) : Origin := ⟨f.index, f.name, line⟩

def note (text : String) : Expand σ Unit :=
  modify fun s => { s with log := s.log ++ [⟨.debug, .expansion, text⟩] }

def emit (o : Output σ) (line : FlatLine) : Expand σ Unit := fun s =>
  match o.write line s.out with
  | (.ok (), out) => .ok () { s with out := out }
  | (.error e, out) => .error (.system e) { s with out := out }

/-- A path in a directive that names no file is the directive's fault. -/
def blame (path : String) : Option Origin → Failure → Failure
  | some asked, .sourceNotFound _ => .includeNotFound path asked.name asked.line
  | _, failure => failure

def locate (o : Output σ) (path : String) (origin : Option Origin) : Expand σ Location := do
  let s ← get
  match Source.resolve (o.tree s.out) s.context.root path with
  | .ok loc => pure loc
  | .error failure => throw (blame path origin failure)

/-- Opens the file at a location. A file that was found may still be refused. -/
def load (o : Output σ) (loc : Location) : Expand σ (List UInt8) := do
  match (o.tree (← get).out).load loc with
  | .ok content => pure content
  | .error e => throw (.unreadable loc.path e)

def enter (p : Path) (origin : Option Origin) : Expand σ Unit := do
  match (← get).context.enter p origin with
  | .ok context => modify fun s => { s with context := context }
  | .error failure => throw failure

def leave : Expand σ Unit := modify fun s => { s with context := s.context.leave }

def register (p : Path) (name : String) (includer : Option Nat) : Expand σ Nat :=
  modifyGet fun s =>
    let (index, context) := s.context.register p name includer
    (index, { s with context := context })

/-- Copies a line, or puts the expansion of its target in its place. -/
def copyLine (o : Output σ) (descend : String → Origin → Expand σ Unit) (file : OpenFile)
    (number : Nat) (line : String) : Expand σ Unit := do
  match Directive.parse line number with
  | .error defect => throw (.invalidDirective file.name number defect)
  | .ok none => emit o (.copied line)
  | .ok (some directive) =>
    note (file.name ++ ":" ++ toString directive.line ++ ":" ++ toString directive.column ++
      ": including " ++ directive.path)
    descend directive.path (file.origin directive.line)
    emit o (.marker (directive.line + 1) file.index)

/-- Copies the lines that a reader has still to come to, the next of which has the given number. No
file has as many lines as the limit says, unless it grows faster than it is read. -/
def copyLines (o : Output σ) (descend : String → Origin → Expand σ Unit) (file : OpenFile) :
    (limit : Nat) → Reader → (number : Nat) → Expand σ Unit
  | 0, _, _ => throw (.unending file.loc.path)
  | limit + 1, reader, number => do
    match reader.next (← load o file.loc) with
    | none => pure ()
    | some (bytes, reader) =>
      match Utf8.decode? bytes with
      | none => throw (.unreadable file.loc.path .notUtf8)
      | some cs =>
        copyLine o descend file number (trimEnd (.ofList cs))
        copyLines o descend file limit reader (number + 1)

/-- Expands one file. The files that it includes are left to `descend`. -/
def expandFile (o : Output σ) (descend : String → Origin → Expand σ Unit) (path : String)
    (origin : Option Origin) : Expand σ Unit := do
  let loc ← locate o path origin
  let name := (← get).context.nameOf loc.path
  enter loc.path origin
  let index ← register loc.path name (origin.map (·.index))
  note (name ++ " has file index " ++ toString index)
  if index ≠ 0 then emit o (.marker 1 index)
  let content ← load o loc
  copyLines o descend ⟨loc, name, index⟩ (Reader.lineLimit content) {} 1
  leave

/-- Expands a file and what it includes. Open files differ, so with more levels than the tree has
files the last level is never reached. -/
def expandWithin (o : Output σ) : (levels : Nat) → String → Option Origin → Expand σ Unit
  | 0, path, _ => throw (.unending ⟨path⟩)
  | levels + 1, path, origin =>
    expandFile o (fun target asked => expandWithin o levels target (some asked)) path origin

end Expansion

/-- Expands the source that a path below the shader root names. -/
def expand {σ : Type} (o : Output σ) (source : String) : Expand σ Unit := do
  let tree := o.tree (← get).out
  Expansion.expandWithin o (tree.entries.length + 1) source none

end GlslFlatten
