import GlslFlatten.Standin.Program.Shell.Session
import GlslFlatten.Standin.Program.Signal

/-!
What a script asks for when it sends a signal.
-/

namespace GlslFlatten.Shell

open Text

def killUsage : String :=
  "Usage: kill [-s sigspec | -signum | -sigspec] [pid | job]... or\nkill -l [exitstatus]"

/-- The signal that a number or a name without case stands for. -/
def signalOf? (text : Octets) : Option Nat :=
  match readNumber? text with
  | some n => if n < signalLimit then some n else none
  | none =>
    let name := String.ofList (text.map Char.toUpper)
    if name = "STKFLT" then none else signalNamed? name

/-- A signal and those that are to get it, or numbers whose names are to be shown. -/
structure KillRequest where
  shows : Bool := false
  signal : Option Nat := none
  targets : List Octets := []
  deriving DecidableEq, Repr

namespace KillRequest

def signalNotKnown (text : Octets) : Octets := "invalid signal number or name: ".toList ++ text

/-- Reads options one after the other. -/
def readOptions : List Octets → KillRequest → Except Octets KillRequest
  | [], k => .ok k
  | arg :: rest, k =>
    match arg with
    | ['-', '-'] => .ok { k with targets := rest }
    | ['-', 'l'] => readOptions rest { k with shows := true }
    | ['-', 's'] =>
      match rest with
      | [] => .error "No arg for -s option".toList
      | name :: rest =>
        match signalOf? name with
        | some signal => readOptions rest { k with signal := some signal }
        | none => .error (signalNotKnown name)
    | '-' :: 's' :: name =>
      match signalOf? name with
      | some signal => readOptions rest { k with signal := some signal }
      | none => .error (signalNotKnown name)
    | '-' :: c :: _ => .error ("Illegal option -".toList ++ [c])
    | _ => .ok { k with targets := arg :: rest }

/-- The first argument can be a signal behind a dash. Where no signal is given, programs are asked to
end. -/
def read (args : List Octets) : Except Octets KillRequest := do
  let k ← match args with
    | ('-' :: text) :: rest =>
      match signalOf? text with
      | some signal => .ok { signal := some signal, targets := rest }
      | none => readOptions args {}
    | args => .ok { targets := args }
  if !k.shows && k.targets.isEmpty || k.shows && k.signal.isSome then .error killUsage.toList
  else .ok k

end KillRequest

/-- The name of a signal, also of one that is told by an exit status. -/
def signalShown (text : Octets) : Except Octets String :=
  match readNumber? text with
  | none => .error ("Illegal number: ".toList ++ text)
  | some n =>
    let signal := if n > 128 then n - 128 else n
    if signal = 0 || signalLimit ≤ signal then
      .error ("invalid signal number or exit status: ".toList ++ text)
    else .ok (signalName? signal |>.getD (toString signal))

end GlslFlatten.Shell
