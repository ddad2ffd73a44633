import GlslFlatten.Expansion
import GlslFlatten.Proofs.Effects
import GlslFlatten.Proofs.FileLines
import GlslFlatten.Proofs.Numbering

/-!
How the parts of an expansion run from a given state, and what it means that the registry grows: the
files that were registered before keep their numbers and their entries.
-/

namespace GlslFlatten

theorem Context.registry_enter {c c' : Context} {p : Path} {origin : Option Origin}
    (h : c.enter p origin = .ok c') : c'.registry = c.registry := by
  have := congrArg Context.registry (Context.leave_enter h)
  simpa [Context.leave] using this

theorem Context.extends_register (c : Context) (p : Path) (name : String) (includer : Option Nat) :
    c.registry.Extends (c.register p name includer).2.registry :=
  Registry.Extends.register c.registry p name includer

namespace Expansion

variable {σ α β : Type}

theorem note_run (text : String) (s : Progress σ) :
    note text s = .ok () { s with log := s.log ++ [⟨.debug, .expansion, text⟩] } := rfl

theorem leave_run (s : Progress σ) :
    leave s = .ok () { s with context := s.context.leave } := rfl

theorem enter_run (p : Path) (origin : Option Origin) (s : Progress σ) :
    enter p origin s =
      match s.context.enter p origin with
      | .ok context => .ok () { s with context }
      | .error failure => .error failure s := by
  simp only [enter, bind_run, get_run]
  cases s.context.enter p origin <;> rfl

theorem locate_run (o : Output σ) (path : String) (origin : Option Origin) (s : Progress σ) :
    locate o path origin s =
      match Source.resolve (o.tree s.out) s.context.root path with
      | .ok loc => .ok loc s
      | .error failure => .error (blame path origin failure) s := by
  simp only [locate, bind_run, get_run]
  cases Source.resolve (o.tree s.out) s.context.root path <;> rfl

theorem load_run (o : Output σ) (loc : Location) (s : Progress σ) :
    load o loc s =
      match (o.tree s.out).load loc with
      | .ok content => .ok content s
      | .error e => .error (.unreadable loc.path e) s := by
  simp only [load, bind_run, get_run]
  cases (o.tree s.out).load loc <;> rfl

/-- What is done with a line of a file. -/
def process (o : Output σ) (descend : String → Origin → Expand σ Unit) (file : OpenFile)
    (number : Nat) : Line → Expand σ Unit
  | .unreadable reason => throw (.unreadable file.loc.path reason)
  | .malformed defect => throw (.invalidDirective file.name number defect)
  | .copied text => emit o (.copied text)
  | .directive d => do
    note (file.name ++ ":" ++ toString d.line ++ ":" ++ toString d.column ++ ": including " ++ d.path)
    descend d.path (file.origin d.line)
    emit o (.marker (d.line + 1) file.index)

theorem copyLines_run (o : Output σ) (descend : String → Origin → Expand σ Unit) (file : OpenFile)
    (limit : Nat) (reader : Reader) (number : Nat) (s : Progress σ) :
    copyLines o descend file (limit + 1) reader number s =
      match (o.tree s.out).load file.loc with
      | .error e => .error (.unreadable file.loc.path e) s
      | .ok content =>
        match reader.next content with
        | none => .ok () s
        | some (bytes, reader) =>
          (process o descend file number (Line.read number bytes) >>= fun _ =>
            copyLines o descend file limit reader (number + 1)) s := by
  rw [copyLines]
  simp only [bind_run, load_run]
  cases (o.tree s.out).load file.loc with
  | error e => rfl
  | ok content =>
  simp only
  split
  · simp_all [pure_run]
  · rename_i bytes reader' hn
    simp only [hn, Line.read]
    cases hd : Text.Utf8.decode? bytes with
    | none => rfl
    | some cs =>
      simp only [copyLine, bind_run]
      cases hp : Directive.parse (Text.trimEnd (.ofList cs)) number with
      | error defect => rfl
      | ok found => cases found <;> rfl

/-- Marks the beginning of a file that is not the first. -/
def head (o : Output σ) (index : Nat) : Expand σ Unit :=
  if index ≠ 0 then emit o (.marker 1 index) else pure ()

/-- Copies all lines of a file. -/
def copyAll (o : Output σ) (descend : String → Origin → Expand σ Unit) (file : OpenFile) :
    Expand σ Unit := do
  let content ← load o file.loc
  copyLines o descend file (Reader.lineLimit content) {} 1

/-- What is done with a file once it is open and registered. -/
def copyFile (o : Output σ) (descend : String → Origin → Expand σ Unit) (file : OpenFile) :
    Expand σ Unit :=
  note (file.name ++ " has file index " ++ toString file.index) >>= fun _ =>
    head o file.index >>= fun _ => copyAll o descend file >>= fun _ => leave

theorem expandFile_eq (o : Output σ) (descend : String → Origin → Expand σ Unit) (path : String)
    (origin : Option Origin) : expandFile o descend path origin = (do
      let loc ← locate o path origin
      let name := (← get).context.nameOf loc.path
      enter loc.path origin
      let index ← register loc.path name (origin.map (·.index))
      copyFile o descend ⟨loc, name, index⟩) := by
  unfold expandFile copyFile head copyAll
  refine bind_congr fun loc => bind_congr fun s => bind_congr fun _ => bind_congr fun index =>
    bind_congr fun _ => ?_
  split <;> simp only [bind_assoc, pure_bind]

theorem expandFile_run (o : Output σ) (descend : String → Origin → Expand σ Unit) (path : String)
    (origin : Option Origin) (s : Progress σ) :
    expandFile o descend path origin s =
      match Source.resolve (o.tree s.out) s.context.root path with
      | .error failure => .error (blame path origin failure) s
      | .ok loc =>
        match s.context.enter loc.path origin with
        | .error failure => .error failure s
        | .ok c =>
          let name := s.context.nameOf loc.path
          let entered := c.register loc.path name (origin.map (·.index))
          copyFile o descend ⟨loc, name, entered.1⟩ { s with context := entered.2 } := by
  simp only [expandFile_eq, bind_run, locate_run]
  cases hr : Source.resolve (o.tree s.out) s.context.root path with
  | error e => rfl
  | ok loc =>
    simp only [get_run, enter_run]
    cases he : s.context.enter loc.path origin with
    | error e => rfl
    | ok c => rfl

/-- What is left when a computation has ended, well or not. -/
def remains : EStateM.Result Failure (Progress σ) α → Progress σ
  | .ok _ s => s
  | .error _ s => s

theorem endState_eq_remains (r : EStateM.Result Failure (Progress σ) α) :
    endState r = remains r := by cases r <;> rfl

def Grows (x : Expand σ α) : Prop :=
  ∀ s : Progress σ, s.context.registry.Extends (remains (x s)).context.registry

end Expansion

end GlslFlatten
