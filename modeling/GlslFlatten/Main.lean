import GlslFlatten.Standin.Host

/-!
The program: reads the directories that a run can see into a tree, runs the command on it with the
stand-in host, and writes back what has changed.
-/

namespace GlslFlatten.CommandLine

/-- Directories nested deeper than this are not read. -/
def deepest : Nat := 256

def locationOf (path : String) : Location := (Path.mk path).names

/-- A tree with the directories that lead to a location. -/
def withParents (t : Tree) (loc : Location) : Tree :=
  (List.range loc.length).foldl (fun t n => t.put (loc.take (n + 1)) .directory) t

/-- Adds the entry for a child of a directory, and for everything below it. A link that leads nowhere is
read as a link to itself. -/
def readEntry (t : Tree) (dir : Location) (e : IO.FS.DirEntry) : (levels : Nat) → IO Tree
  | 0 => pure t
  | levels + 1 => do
    let loc := dir ++ [e.fileName]
    match (← e.path.symlinkMetadata).type with
    | .file =>
      let content ← try some <$> IO.FS.readBinFile e.path catch _ => pure none
      return t.put loc (content.elim (.sealed .denied) fun bytes => .file bytes.toList)
    | .symlink =>
      let target ← try some <$> IO.FS.realPath e.path catch _ => pure none
      return t.put loc (.link ((target.getD e.path).toString))
    | .dir =>
      (← e.path.readDir).foldlM (fun t child => readEntry t loc child levels) (t.put loc .directory)
    | .other => return t

/-- Adds a directory and everything below it, if there is such a directory. -/
def readPlace (t : Tree) (place : String) : IO Tree := do
  try
    let real ← IO.FS.realPath place
    let loc := locationOf real.toString
    (← real.readDir).foldlM (fun t e => readEntry t loc e deepest) (withParents t loc)
  catch _ => pure t

/-- The directories that a request names. -/
def places : Request → List String
  | .run o => [o.root.text, o.config.buildDir.text]
  | _ => []

def writeBack (before after : Tree) : IO Unit :=
  after.entries.reverse.forM fun (loc, e) => do
    if before.get? loc ≠ some e then
      match e with
      | .directory => IO.FS.createDirAll loc.path.text
      | .file content => IO.FS.writeBinFile loc.path.text (ByteArray.mk content.toArray)
      | .sealed _ | .link _ | .device _ => pure ()

end GlslFlatten.CommandLine

open GlslFlatten GlslFlatten.CommandLine in
def main (args : List String) : IO UInt32 := do
  let workdir := (← IO.currentDir).toString
  let empty : Tree := { entries := [], workdir := locationOf workdir }
  let host := Host.standin
  let tree ← (workdir :: places (host.request args)).foldlM readPlace (Program.install empty)
  let done := command host tree (← IO.getEnv "RUST_LOG") args
  writeBack tree done.tree
  IO.print done.stdout
  IO.eprint done.stderr
  return UInt32.ofNat done.code
