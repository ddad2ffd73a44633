import GlslFlatten.Registry
import GlslFlatten.Source

/-!
The state of an expansion apart from its output: the registered files, and the stack of files that
are open, from the outermost to the innermost.
-/

namespace GlslFlatten

/-- The directive that asked for a file. -/
structure Origin where
  index : Nat
  name : String
  line : Nat
  deriving DecidableEq, Repr

structure Context where
  root : Path
  maxDepth : Nat
  registry : Registry := {}
  stack : List Path := []
  deriving DecidableEq, Repr

namespace Context

/-- An empty context at the real location of the shader root. -/
def start (t : Tree) (config : Config) : Except Failure Context :=
  match t.realPath config.root with
  | .ok loc => .ok { root := loc.path, maxDepth := config.maxDepth }
  | .error e => .error (.rootUnavailable config.root e)

def depth (c : Context) : Nat := c.stack.length

def nameOf (c : Context) (p : Path) : String := Source.displayName c.root p

def isOpen (c : Context) (p : Path) : Bool := c.stack.any (·.same p)

/-- Opens a file. Only a file that a directive asks for can be refused: if it is open already, or if
as many files are open as may be. -/
def enter (c : Context) (p : Path) (origin : Option Origin) : Except Failure Context :=
  let entered := { c with stack := c.stack ++ [p] }
  match origin with
  | none => .ok entered
  | some o =>
    let name := c.nameOf p
    if c.isOpen p then
      .error (.recursiveInclude name o.name o.line
        (" -> ".intercalate (c.stack.map c.nameOf ++ [name])))
    else if c.maxDepth ≤ c.depth then .error (.depthExceeded name o.name o.line c.maxDepth)
    else .ok entered

/-- Closes the innermost file, if one is open. -/
def leave (c : Context) : Context := { c with stack := c.stack.dropLast }

def register (c : Context) (p : Path) (name : String) (includer : Option Nat) : Nat × Context :=
  let (index, registry) := c.registry.register p name includer
  (index, { c with registry := registry })

theorem leave_enter {c c' : Context} {p : Path} {o : Option Origin} (h : c.enter p o = .ok c') :
    c'.leave = c := by
  have : c' = { c with stack := c.stack ++ [p] } := by
    cases o with
    | none => simpa [enter] using h.symm
    | some o =>
      simp only [enter] at h
      split at h
      · cases h
      · split at h
        · cases h
        · exact (Except.ok.inj h).symm
  simp [this, leave]

end Context

end GlslFlatten
