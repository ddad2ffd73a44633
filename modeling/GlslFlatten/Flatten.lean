import GlslFlatten.Expansion

/-!
Flattening of a source into a file. The file is emptied before the source is read, and keeps what was
written before a failure.
-/

namespace GlslFlatten

structure Flattened where
  result : Except Failure Registry
  tree : Tree
  log : List Log.Record := []

/-- Expands a source into the file `output`. The registry tells which file each number means. -/
def flatten (t : Tree) (config : Config) (source : String) (output : Path) : Flattened :=
  match Context.start t config with
  | .error failure => { result := .error failure, tree := t }
  | .ok context =>
    match t.create output with
    | .error e => { result := .error (.outputUncreatable output e), tree := t }
    | .ok (target, created) =>
      match expand FileSink.output source { out := { tree := created, target := target }, context } with
      | .ok () s => close s (.ok s.context.registry)
      | .error failure s => close s (.error failure)
where
  /-- Writes what is still pending. If that fails, nothing else is told. -/
  close (s : Progress FileSink) (result : Except Failure Registry) : Flattened :=
    match FileSink.flush s.out with
    | .ok () out => { result, tree := out.tree, log := s.log }
    | .error e out => { result := .error (.outputUnwritable output e), tree := out.tree, log := s.log }

end GlslFlatten
