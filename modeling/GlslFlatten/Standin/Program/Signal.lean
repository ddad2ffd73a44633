/-!
Signals that end programs.
-/

namespace GlslFlatten

/-- The names of the signals from one on, without what they all begin with. -/
def signalNames : List String :=
  ["HUP", "INT", "QUIT", "ILL", "TRAP", "ABRT", "BUS", "FPE", "KILL", "USR1", "SEGV", "USR2", "PIPE",
    "ALRM", "TERM", "STKFLT", "CHLD", "CONT", "STOP", "TSTP", "TTIN", "TTOU", "URG", "XCPU", "XFSZ",
    "VTALRM", "PROF", "WINCH", "IO", "PWR", "SYS"]

/-- All signals are below this number. -/
def signalLimit : Nat := 65

/-- Signals that a program does not notice unless it asks for them. -/
def quietSignals : List Nat := [17, 18, 23, 28]

/-- The first and the last signal that are left to programs have names too. -/
def signalNamed? (name : String) : Option Nat :=
  if name = "RTMIN" then some 34
  else if name = "RTMAX" then some 64
  else (signalNames.findIdx? (· = name)).map (· + 1)

def signalName? (signal : Nat) : Option String :=
  if signal = 0 then none else signalNames[signal - 1]?

end GlslFlatten
