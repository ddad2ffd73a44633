import GlslFlatten.Path

/-!
The files of an expansion, numbered in the order in which they were first met. An entry keeps what
its first registration said.
-/

namespace GlslFlatten

/-- A file, its name in messages, and the number of the file that first included it. -/
structure RegisteredFile where
  path : Path
  name : String
  includer : Option Nat
  deriving DecidableEq, Repr

structure Registry where
  files : List RegisteredFile := []
  deriving DecidableEq, Repr

namespace Registry

def size (r : Registry) : Nat := r.files.length

def get? (r : Registry) (i : Nat) : Option RegisteredFile := r.files[i]?

def indexOf? (r : Registry) (p : Path) : Option Nat := r.files.findIdx? (·.path.same p)

/-- The number of a file, which is entered at the end if it is new. -/
def register (r : Registry) (p : Path) (name : String) (includer : Option Nat) : Nat × Registry :=
  match r.indexOf? p with
  | some i => (i, r)
  | none => (r.size, ⟨r.files ++ [⟨p, name, includer⟩]⟩)

/-- The first `limit` files on the way from file `i` up through its includers. -/
def includers (r : Registry) : (limit i : Nat) → List RegisteredFile
  | 0, _ => []
  | limit + 1, i =>
    match (r.get? i).bind (·.includer) with
    | none => []
    | some j =>
      match r.get? j with
      | none => []
      | some file => file :: includers r limit j

/-- The files that led to file `i`, nearest first. Links that lead downwards end within the size. -/
def includeChain (r : Registry) (i : Nat) : List RegisteredFile := r.includers r.size i

theorem register_of_indexOf? {r : Registry} {p : Path} {i : Nat} (h : r.indexOf? p = some i)
    (name : String) (includer : Option Nat) : r.register p name includer = (i, r) := by
  simp [register, h]

theorem files_register_of_new {r : Registry} {p : Path} (h : r.indexOf? p = none)
    (name : String) (includer : Option Nat) :
    (r.register p name includer).2.files = r.files ++ [⟨p, name, includer⟩] := by
  simp [register, h]

end Registry

end GlslFlatten
