import GlslFlatten.Diagnostic.Basic
import GlslFlatten.Directive
import GlslFlatten.IoError
import GlslFlatten.Path

/-!
Why a run, or the processing of one source, stops. A failure reads as a chain of texts, the outermost
first; a failure on a directive line also reads as diagnostics.
-/

namespace GlslFlatten

inductive Failure where
  | sourceNotFound (path : Path)
  | includeNotFound (path origin : String) (line : Nat)
  | io (error : IoError)
  | invalidDirective (file : String) (line : Nat) (defect : Defect)
  | recursiveInclude (path origin : String) (line : Nat) (stack : String)
  | depthExceeded (path origin : String) (line : Nat) (limit : Nat)
  | validatorLaunch (program : String) (error : IoError)
  | rootUnavailable (root : Path) (error : IoError)
  | rootUnlistable (root : Path) (error : IoError)
  | rootNotDirectory (root : Path)
  | outputUncreatable (output : Path) (error : IoError)
  | outputUnwritable (output : Path) (error : IoError)
  /-- A file was found, but the place without links that it lies at was not. -/
  | unlocatable (path : Path) (error : IoError)
  | unreadable (file : Path) (error : IoError)
  | buildUncreatable (dir : Path) (error : IoError)
  | buildIsRoot (dir : Path)
  /-- An I/O error by itself. -/
  | system (error : IoError)
  /-- A validator's own account of its failure, outermost text first. -/
  | validator (summary : String) (causes : List String)
  /-- A file is opened or read further than any finite tree lets a run get. -/
  | unending (path : Path)
  deriving DecidableEq, Repr

namespace Failure

/-- The failure's own text, and those of its causes. -/
def account : Failure → String × List String
  | sourceNotFound path => ("File not found: " ++ path.text, [])
  | includeNotFound path origin line =>
    ("Include file not found: " ++ path ++ " (included from " ++ origin ++ ":" ++ toString line ++ ")",
      [])
  | io error => ("IO error: " ++ error.text, [error.text])
  | invalidDirective file line defect =>
    ("Invalid include directive at " ++ file ++ ":" ++ toString line ++ ":" ++
      toString defect.column ++ ": " ++ defect.kind.message, [])
  | recursiveInclude path origin line stack =>
    ("Recursive inclusion of " ++ path ++ " at " ++ origin ++ ":" ++ toString line ++
      " (include stack: " ++ stack ++ ")", [])
  | depthExceeded path origin line limit =>
    ("Maximum include depth (" ++ toString limit ++ ") exceeded at " ++ origin ++ ":" ++
      toString line ++ " including " ++ path, [])
  | validatorLaunch program error =>
    ("Failed to launch validator `" ++ program ++ "`", [error.text])
  | rootUnavailable root error => ("Failed to open shader root: " ++ root.text, [error.text])
  | rootUnlistable root error => ("Failed to read shader root: " ++ root.text, [error.text])
  | rootNotDirectory root => ("Shader root is not a directory: " ++ root.text, [])
  | outputUncreatable output error =>
    ("Failed to create output file: " ++ output.text, [error.text])
  | outputUnwritable output error =>
    ("Failed to write output file: " ++ output.text, [error.text])
  | unlocatable path error => ("Failed to canonicalize path: " ++ path.text, [error.text])
  | unreadable file error => ("Failed to read file: " ++ file.text, [error.text])
  | buildUncreatable dir error => ("Failed to create build directory: " ++ dir.text, [error.text])
  | buildIsRoot dir => ("Build directory must differ from the shader root: " ++ dir.text, [])
  | system error => (error.text, [])
  | validator summary causes => (summary, causes)
  | unending path => ("Expansion does not end: " ++ path.text, [])

def summary (f : Failure) : String := f.account.1

def causes (f : Failure) : List String := f.account.2

/-- The whole chain on one line. -/
def message (f : Failure) : String := ": ".intercalate (f.summary :: f.causes)

/-- Diagnostics of a failure that a directive line is to blame for. -/
def diagnostics? : Failure → Option (List Diagnostic)
  | includeNotFound path origin line =>
    some (Diagnostic.terminating origin line path "could not open include file")
  | invalidDirective file line defect =>
    some (Diagnostic.terminating file line defect.found defect.kind.message)
  | recursiveInclude path origin line _ =>
    some (Diagnostic.terminating origin line path "recursive inclusion")
  | depthExceeded path origin line limit =>
    some (Diagnostic.terminating origin line path
      ("maximum include depth (" ++ toString limit ++ ") exceeded"))
  | _ => none

end Failure

end GlslFlatten
