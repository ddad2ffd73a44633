import GlslFlatten.Standin.Pattern.Match
import GlslFlatten.Standin.Pattern.Meaning
import GlslFlatten.Standin.Pattern.Size

/-!
From the text of a pattern to its matcher.
-/

namespace GlslFlatten.Pattern

/-- Why a text gives no matcher. -/
inductive Rejection where
  | malformed (e : SyntaxError)
  | tooLarge
  deriving DecidableEq, Repr

def compile (text : String) : Except Rejection Matcher :=
  match parse text with
  | .error e => .error (.malformed e)
  | .ok node =>
    match node.meaning {} with
    | .error e _ => .error (.malformed e)
    | .ok m _ => if m.fits then .ok m else .error .tooLarge

def Rejection.message (text : String) : Rejection → String
  | malformed e => e.message text
  | tooLarge =>
    "Compiled regex exceeds size limit of " ++ toString Matcher.automatonLimit ++ " bytes."

example : ((compile "^ab?c+$").toOption.map fun m => ["xabc", "acc", "ab"].map m.occursIn) =
    some [false, true, false] := by
  decide +kernel

end GlslFlatten.Pattern
