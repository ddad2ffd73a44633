import GlslFlatten.Config
import GlslFlatten.Failure
import GlslFlatten.Tree.Walk

/-!
Source files: finding them from the shader root, and naming them relative to it.
-/

namespace GlslFlatten.Source

open Text

/-- Paths in directives are relative to the root even if they start with a slash. -/
def underRoot (root : Path) (path : String) : Path :=
  let p : Path := ⟨path⟩
  if p.isAbsolute then root.join ((p.stripPrefix? ⟨"/"⟩).getD p) else root.join p

/-- The regular file that a path means. A file may be there and still have a place whose path is too
long to be told. -/
def resolve (t : Tree) (root : Path) (path : String) : Except Failure Location :=
  let joined := underRoot root path
  if t.isFile joined then (t.realPath joined).mapError (.unlocatable joined)
  else .error (.sourceNotFound joined)

/-- The path below the root, or the whole path of a file outside it. -/
def displayName (root p : Path) : String :=
  .ofList (((p.stripPrefix? root).getD p).text.toList.map fun c => if c = '\\' then '/' else c)

/-- An extension alone is no source name. -/
def hasExtension (name extension : String) : Bool :=
  extension.utf8ByteSize < name.utf8ByteSize && extension.toList.isSuffixOf name.toList

def isSource (extensions : List String) (name : String) (e : Entry) : Bool :=
  e.isRegular && extensions.any (hasExtension name)

/-- Names in ascending order of their characters, which is also that of their bytes. A name that is
not UTF-8 is listed as the text that stands for it, which may be the name of no file, or of another. -/
def discover (t : Tree) (config : Config) : Except Failure (List String) :=
  match t.list config.root with
  | .error e => .error (.rootUnlistable config.root e)
  | .ok children =>
    let sources := children.filter fun (name, e) => isSource config.extensions name.shown e
    .ok ((sources.map (·.1.shown)).mergeSort (· ≤ ·))

end GlslFlatten.Source
