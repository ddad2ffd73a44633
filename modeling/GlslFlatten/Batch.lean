import GlslFlatten.Diagnostic.Translation
import GlslFlatten.Flatten
import GlslFlatten.Validator

/-!
Batch runs: every source under the shader root is flattened into the build directory and validated.
Errors go to a report, and whatever befalls one source becomes its outcome.
-/

namespace GlslFlatten

inductive Status where
  | clean
  | expansionFailed (diagnostics : List Diagnostic)
  | validationFailed (errors : Nat)
  /-- The source failed without a line to blame. -/
  | fault (message : String)
  deriving DecidableEq, Repr

structure Outcome where
  source : String
  status : Status
  deriving DecidableEq, Repr

def Outcome.isSuccess (o : Outcome) : Bool := o.status = .clean

/-- Outcomes in the order of processing. -/
abbrev Summary := List Outcome

def Summary.isSuccess (s : Summary) : Bool := s.all Outcome.isSuccess

def Summary.failures (s : Summary) : List Outcome := s.filter (!·.isSuccess)

namespace Batch

/-- `validated` holds the paths that the validator was given, in order. -/
structure State where
  tree : Tree
  report : Sink := {}
  log : List Log.Entry := []
  validated : List Path := []
  deriving Repr

abbrev Run := EStateM Failure State

def logAll (records : List Log.Record) : Run Unit :=
  modify fun s => { s with log := s.log ++ records.map .record }

def report (line : String) : Run Unit := fun s =>
  match s.report.write line with
  | (.ok (), report) => .ok () { s with report := report }
  | (.error e, report) => .error (.system e) { s with report := report }

/-- The report line for a source that failed without diagnostics. -/
def faultLine (source : String) (failure : Failure) : String :=
  Diagnostic.errorMark ++ source ++ ": " ++ failure.message

/-- Says in the log and in the report what befell a source. -/
def fault (what source : String) (failure : Failure) : Run Status := do
  logAll [⟨.warn, .batch, what ++ " of " ++ source ++ " failed: " ++ failure.message⟩]
  report (faultLine source failure)
  pure (.fault failure.message)

def summaryLine (count : Nat) : String :=
  Diagnostic.errorMark ++ toString count ++ " compilation errors.  No code generated."

def reportExpansion (source : String) (failure : Failure) : Run Status :=
  match failure.diagnostics? with
  | some diagnostics => do
    diagnostics.forM fun d => report (Diagnostic.errorMark ++ d.text)
    report (summaryLine diagnostics.length)
    pure (.expansionFailed diagnostics)
  | none => fault "Expansion" source failure

/-- The report while a validator is heard, and the number of its lines that were errors. -/
structure Hearing where
  errors : Nat := 0
  report : Sink
  deriving DecidableEq, Repr

/-- Writes the translation of a line of validator output. A line that has one counts as an error. -/
def hear (registry : Registry) : LineSink Failure Hearing := fun line h =>
  let translated := registry.translate line
  let write : LineSink Failure Hearing := fun text h =>
    match h.report.write text with
    | (.ok (), report) => .ok () { h with report := report }
    | (.error e, report) => .error (.system e) { h with report := report }
  (translated.forM write) { h with errors := if translated = [] then h.errors else h.errors + 1 }

def validate (validator : Validator) (source : String) (output : Path) (registry : Registry) :
    Run Status := do
  let s ← get
  let reply := validator s.tree output
  set { s with validated := s.validated ++ [output], log := s.log ++ reply.log output }
  match reply.deliver (hear registry) { report := s.report } with
  | .ok () heard => do
    modify fun s => { s with report := heard.report }
    pure (if heard.errors = 0 then .clean else .validationFailed heard.errors)
  | .error failure heard => do
    modify fun s => { s with report := heard.report }
    fault "Validation" source failure

/-- Flattens one source, and validates it if that succeeds. -/
def processSource (config : Config) (validator : Validator) (source : String) : Run Outcome := do
  logAll [⟨.info, .batch, "Processing " ++ source⟩]
  let output := config.outputPath source
  let flattened := flatten (← get).tree config source output
  modify fun s => { s with tree := flattened.tree, log := s.log ++ flattened.log.map .record }
  let status ← match flattened.result with
    | .error failure => reportExpansion source failure
    | .ok registry => validate validator source output registry
  pure ⟨source, status⟩

/-- Makes the build directory, which may not be the shader root. -/
def prepare (config : Config) : Run Unit := fun s =>
  let (made, tree) := s.tree.makeDirs config.buildDir
  let s := { s with tree := tree }
  match made with
  | .error e => .error (.buildUncreatable config.buildDir e) s
  | .ok () =>
    match tree.realPath config.buildDir, tree.realPath config.root with
    | .error e, _ => .error (.system e) s
    | _, .error e => .error (.system e) s
    | .ok build, .ok root => if build = root then .error (.buildIsRoot config.buildDir) s else .ok () s

/-- Processes every source under the root. It fails only if the sources cannot be listed, the build
directory cannot be used, or the report cannot be written. -/
def run (config : Config) (validator : Validator) : Run Summary := do
  match Source.discover (← get).tree config with
  | .error failure => throw failure
  | .ok sources =>
    prepare config
    sources.mapM (processSource config validator)

end Batch

end GlslFlatten
