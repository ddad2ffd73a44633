import GlslFlatten.Failure
import GlslFlatten.Log
import GlslFlatten.Text.Lines
import GlslFlatten.Text.Utf8
import GlslFlatten.Tree.Basic

/-!
Validators, which answer with lines about a flattened source, and the handing of these lines to a
sink. After the first line that a sink refuses it is given no more.
-/

namespace GlslFlatten

open Text

/-- The run of a program: what it prints, what it says on the stream for errors, and how the system
words its end. -/
structure Execution where
  printed : List UInt8 := []
  complaints : List UInt8 := []
  ending : String
  deriving DecidableEq, Repr

/-- How the system starts a program, by its name and with the path of the flattened source as its only
argument. -/
abbrev Launcher := Tree → String → Path → Except IoError Execution

/-- The answer of a validator: lines and perhaps a failure behind them, or the run of a program. -/
inductive Reply where
  | lines (lines : List String) (failure : Option Failure)
  | unlaunched (program : String) (error : IoError)
  | ran (program : String) (run : Execution)
  deriving DecidableEq, Repr

/-- A validator sees the tree and the path of the flattened source. -/
abbrev Validator := Tree → Path → Reply

abbrev LineSink (ε σ : Type) := String → EStateM ε σ Unit

variable {ε σ : Type}

/-- A line of a byte stream as text, without the carriage returns at its end. -/
def streamLine (bytes : List UInt8) : String :=
  .ofList (dropTrailing (· = '\r') (Utf8.decodeLossy bytes))

/-- How a stream was taken: the first refusal, the state of the sink, and what was left unread. -/
structure Drained (ε σ : Type) where
  refusal : Option ε
  state : σ
  unread : List UInt8

/-- Reads a stream line by line. After a refusal the lines are still read, but go nowhere. -/
def drain (sink : LineSink ε σ) (refusal : Option ε) (state : σ) (stream : List UInt8) :
    Drained ε σ :=
  if _h : stream = [] then ⟨refusal, state, stream⟩
  else
    let rest := (firstLine Utf8.lineFeed stream).2
    match refusal with
    | some e => drain sink (some e) state rest
    | none =>
      match sink (streamLine (firstLine Utf8.lineFeed stream).1) state with
      | .ok () state => drain sink none state rest
      | .error e state => drain sink (some e) state rest
termination_by stream.length
decreasing_by all_goals exact firstLine_length_lt _ (by assumption)

namespace Reply

/-- Hands the lines to a sink. -/
def deliver (reply : Reply) (sink : LineSink Failure σ) : EStateM Failure σ Unit := fun s =>
  match reply with
  | lines ls failure =>
    match (ls.forM sink : EStateM Failure σ Unit) s, failure with
    | .ok () s, some f => .error f s
    | result, _ => result
  | unlaunched program error => .error (.validatorLaunch program error) s
  | ran _ run =>
    match drain sink none s run.printed with
    | ⟨none, s, _⟩ => .ok () s
    | ⟨some e, s, _⟩ => .error e s

/-- What a program's run leaves in the log. -/
def log (reply : Reply) (flattened : Path) : List Log.Entry :=
  match reply with
  | lines _ _ => []
  | unlaunched program _ => [running program]
  | ran program run =>
    [running program, .foreign (.ofList (Utf8.decodeLossy run.complaints)),
      .record ⟨.debug, .validator, program ++ " exited with " ++ run.ending⟩]
where
  running (program : String) : Log.Entry :=
    .record ⟨.debug, .validator, "Running " ++ program ++ " " ++ flattened.text⟩

end Reply

namespace Validator

/-- Runs a program with the flattened source as its only argument. -/
def ofProgram (launch : Launcher) (name : String) : Validator := fun t flattened =>
  match launch t name flattened with
  | .error e => .unlaunched name e
  | .ok run => .ran name run

def defaultProgram : String := "glslang"

/-- Answers by the file name of the flattened source. Without an entry it answers nothing. -/
def canned (answers : List (String × List String)) (failures : List (String × Failure)) :
    Validator := fun _ flattened =>
  let name := flattened.fileName?.getD ""
  .lines ((answers.lookup name).getD []) (failures.lookup name)

end Validator

end GlslFlatten
