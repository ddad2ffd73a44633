import GlslFlatten.Batch

/-!
The command: a batch run over a tree, with its report on standard output, and the log and a failure
on standard error. How arguments are taken apart, how the log is written and how programs are started
is not decided here, so the command runs on a host that does all three.
-/

namespace GlslFlatten.CommandLine

structure Options where
  root : Path := ⟨"glshaders"⟩
  buildDir : Option Path := none
  validator : String := Validator.defaultProgram
  maxDepth : Nat := 100
  verbose : Bool := false
  deriving DecidableEq, Repr

/-- What arguments come to: options for a run, or an end without one, as when help is asked for or an
argument is wrong. -/
inductive Request where
  | run (options : Options)
  | ended (code : Nat) (stdout : String)
  deriving DecidableEq, Repr

/-- `rendered` writes a log under a filter, which is the given one unless the environment has another. -/
structure Host where
  request : List String → Request
  launch : Launcher
  rendered : (filter : String) → (setting : Option String) → List Log.Entry → String

/-- The end of a run. -/
structure Finished where
  code : Nat
  stdout : String := ""
  stderr : String := ""
  tree : Tree
  deriving DecidableEq, Repr

def Options.config (o : Options) : Config :=
  let config := (({} : Config).withRoot o.root).withMaxDepth o.maxDepth
  match o.buildDir with
  | some dir => config.withBuildDir dir
  | none => config

def Options.filter (o : Options) : String := if o.verbose then "debug" else "warn"

def errorText (failure : Failure) : String :=
  "Error: " ++ failure.summary ++ "\n" ++
    String.join (failure.causes.map fun cause => "  Caused by: " ++ cause ++ "\n")

/-- Runs the batch and says in the log how it went. -/
def batch (launch : Launcher) (o : Options) : Batch.Run Summary := do
  if !(← get).tree.isDir o.root then throw (.rootNotDirectory o.root)
  let summary ← Batch.run o.config (Validator.ofProgram launch o.validator)
  Batch.logAll [⟨.info, .program,
    toString summary.length ++ " sources processed, " ++ toString summary.failures.length ++
      " failed"⟩]
  pure summary

def runOptions (host : Host) (t : Tree) (setting : Option String) (o : Options) : Finished :=
  let finish (code : Nat) (s : Batch.State) (error : String) : Finished :=
    { code
      stdout := s.report.text
      stderr := host.rendered o.filter setting s.log ++ error
      tree := s.tree }
  match batch host.launch o { tree := t } with
  | .ok summary s => finish (if summary.isSuccess then 0 else 1) s ""
  | .error failure s => finish 1 s (errorText failure)

/-- Runs the command in the working directory of a tree, with the log filter of the environment. -/
def command (host : Host) (t : Tree) (setting : Option String) (args : List String) : Finished :=
  match host.request args with
  | .run options => runOptions host t setting options
  | .ended code stdout => { code, stdout, tree := t }

end GlslFlatten.CommandLine
