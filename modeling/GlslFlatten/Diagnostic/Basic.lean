/-!
Diagnostics: messages about a line of a source file, with the token that they blame.
-/

namespace GlslFlatten

structure Diagnostic where
  file : String
  line : Nat
  token : String
  message : String
  deriving DecidableEq, Repr

namespace Diagnostic

def text (d : Diagnostic) : String :=
  d.file ++ ":" ++ toString d.line ++ ": '" ++ d.token ++ "' : " ++ d.message

/-- Starts every error line of a report and of a validator. -/
def errorMark : String := "ERROR: "

/-- A failure on a line stops the expansion, which a second diagnostic says of the line after it. -/
def terminating (file : String) (line : Nat) (token message : String) : List Diagnostic :=
  [⟨file, line, token, message⟩, ⟨file, line + 1, "", "compilation terminated"⟩]

end Diagnostic

end GlslFlatten
