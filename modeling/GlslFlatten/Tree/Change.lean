import GlslFlatten.Tree.Walk

/-!
Changes to a tree: creating and filling regular files, and making directories.
-/

namespace GlslFlatten.Tree

open Text

/-- Empties the regular file that a path names, or creates it. A device stays what it is. -/
def create (t : Tree) (p : Path) : Except IoError (Location × Tree) := do
  match ← t.find .creating p with
  | .vacant dir name => .ok (dir ++ [name], t.put (dir ++ [name]) (.file []))
  | .entry loc =>
    match t.get? loc with
    | some .directory => .error .isDirectory
    | some (.sealed refusal) => .error refusal
    | some (.device _) => .ok (loc, t)
    | _ => .ok (loc, t.put loc (.file []))

def append (t : Tree) (loc : Location) (bytes : List UInt8) : Tree :=
  match t.content? loc with
  | some content => t.put loc (.file (content ++ bytes))
  | none => t

/-- Makes one directory. A link stands in the way even if it leads nowhere. -/
def makeDir (t : Tree) (p : Path) : Except IoError Tree := do
  checkText p
  let segments := dropTrailing (· = "") p.segments
  match segments.getLast? with
  | none => .error .exists
  | some name =>
    match ← t.walk .opening linkLimit (startOf t.workdir p) segments.dropLast with
    | .vacant _ _ => .error .missing
    | .entry dir =>
      if !t.isDirectory dir then .error .notDirectory
      else if name = "." || name = ".." then .error .exists
      else if tooLong name then .error .nameTooLong
      else if (t.get? (dir ++ [name])).isSome then .error .exists
      else .ok (t.put (dir ++ [name]) .directory)

/-- A path and the paths above it, as far as there are names to take away. -/
def lineage : Nat → Path → List Path
  | 0, p => [p]
  | n + 1, p => p :: (p.parent?.map (lineage n)).getD []

/-- Makes the first directory of a lineage, and those above it where they are missing. Directories
that were made before a refusal stay. -/
def makeLineage (t : Tree) : List Path → Except IoError Unit × Tree
  | [] => (.error (.other "failed to create whole tree"), t)
  | p :: above =>
    if p.lead = .bare ∧ p.names = [] then (.ok (), t)
    else match t.makeDir p with
      | .ok made => (.ok (), made)
      | .error .missing =>
        match makeLineage t above with
        | (.error e, t') => (.error e, t')
        | (.ok (), t') =>
          match t'.makeDir p with
          | .ok made => (.ok (), made)
          | .error e => (if t'.isDir p then .ok () else .error e, t')
      | .error e => (if t.isDir p then .ok () else .error e, t)

def makeDirs (t : Tree) (p : Path) : Except IoError Unit × Tree :=
  t.makeLineage (lineage (p.names.length + 1) p)

end GlslFlatten.Tree
