import GlslFlatten.Text.Blank

/-!
Include directives: `#include "path"` or `#include <path>` on a line of its own, with blanks around
the keyword and at most a line comment behind the target.
-/

namespace GlslFlatten

open Text

inductive Quoting where
  | quotes
  | angles
  deriving DecidableEq, Repr

namespace Quoting

def opening : Quoting → Char
  | quotes => '"'
  | angles => '<'

def closing : Quoting → Char
  | quotes => '"'
  | angles => '>'

def ofOpening? (c : Char) : Option Quoting :=
  if c = '"' then some quotes else if c = '<' then some angles else none

end Quoting

/-- Columns and lines count from one. The column is that of the opening delimiter. -/
structure Directive where
  line : Nat
  column : Nat
  path : String
  quoting : Quoting
  deriving DecidableEq, Repr

/-- What is wrong with a target, in the order in which it is examined. -/
inductive DefectKind where
  | missingDelimiter
  | unterminated (quoting : Quoting)
  | emptyPath
  | trailingTokens
  deriving DecidableEq, Repr

def DefectKind.message : DefectKind → String
  | missingDelimiter => "expected '<' or '\"'"
  | unterminated .quotes => "expected '\"', got EOL"
  | unterminated .angles => "expected '>', got EOL"
  | emptyPath => "empty file name in #include"
  | trailingTokens => "extra tokens at end of #include directive"

structure Defect where
  kind : DefectKind
  column : Nat
  found : String
  deriving DecidableEq, Repr

namespace Directive

def keyword : List Char := ['#', 'i', 'n', 'c', 'l', 'u', 'd', 'e']

/-- The target of a line that is a directive, behind the number of characters before it. -/
def target? (cs : List Char) : Option (Nat × List Char) :=
  let margin := cs.takeWhile isBlank
  let rest := cs.dropWhile isBlank
  if keyword.isPrefixOf rest then
    let tail := rest.drop keyword.length
    let gap := tail.takeWhile isBlank
    if gap = [] then none
    else some (margin.length + keyword.length + gap.length, dropBlanks tail)
  else none

/-- Text that may stand behind the closing delimiter. -/
def isComment (cs : List Char) : Bool := cs.isEmpty || ['/', '/'].isPrefixOf cs

/-- Reads a target that begins in column `column`. -/
def readTarget (column : Nat) (target : List Char) : Except Defect (Quoting × String) :=
  match target with
  | [] => .error ⟨.missingDelimiter, column, ""⟩
  | c :: inner =>
    match Quoting.ofOpening? c with
    | none => .error ⟨.missingDelimiter, column, .ofList [c]⟩
    | some quoting =>
      let path := inner.takeWhile (· ≠ quoting.closing)
      match inner.dropWhile (· ≠ quoting.closing) with
      | [] => .error ⟨.unterminated quoting, column + target.length, ""⟩
      | _ :: rest =>
        let trailing := dropBlanks rest
        if allBlank path then .error ⟨.emptyPath, column + 1, ""⟩
        else if isComment trailing then .ok (quoting, .ofList path)
        else .error ⟨.trailingTokens, column + (target.length - trailing.length), .ofList trailing⟩

/-- Reads one line of shader source. A line that is no directive gives nothing. -/
def parse (line : String) (number : Nat) : Except Defect (Option Directive) :=
  match target? (dropTrailingBlanks line.toList) with
  | none => .ok none
  | some (before, target) =>
    match readTarget (before + 1) target with
    | .error defect => .error defect
    | .ok (quoting, path) => .ok (some ⟨number, before + 1, path, quoting⟩)

example : parse "  #include\t<a b> // c" 3 = .ok (some ⟨3, 12, "a b", .angles⟩) := by rfl

example : parse "#include \"a.glsl\" b" 7 = .error ⟨.trailingTokens, 19, "b"⟩ := by rfl

example : parse "#include   " 1 = .ok none := by rfl

end Directive

end GlslFlatten
