import GlslFlatten.Diagnostic.Basic
import GlslFlatten.Diagnostic.ValidatorLine
import GlslFlatten.Registry

/-!
Translation of validator output: the file number of an error becomes the name of the file, and the
files that led to it follow, each on a line of its own.
-/

namespace GlslFlatten.Registry

open Text

def includedFrom (f : RegisteredFile) : String := "       (included from " ++ f.name ++ ")"

/-- The lines that stand for a line of validator output. Only errors give any, and an error without a
known file stays as it is. -/
def translate (r : Registry) (line : String) : List String :=
  let line := trim line
  match ValidatorLine.parse? line with
  | none => []
  | some parsed =>
    if parsed.severity ≠ .error then []
    else match parsed.position with
      | none => [line]
      | some position =>
        match r.get? position.index with
        | none => [line]
        | some file =>
          (Diagnostic.errorMark ++ file.name ++ parsed.afterIndex) ::
            (r.includeChain position.index).map includedFrom

end GlslFlatten.Registry
