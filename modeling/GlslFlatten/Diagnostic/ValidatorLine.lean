import GlslFlatten.Text.Digit

/-!
Lines of validator output: a severity, then perhaps a position, which is a file number and a line
number with a colon between them.
-/

namespace GlslFlatten

open Text

inductive Severity where
  | error
  | warning
  deriving DecidableEq, Repr

def Severity.word : Severity → List Char
  | error => ['E', 'R', 'R', 'O', 'R']
  | warning => ['W', 'A', 'R', 'N', 'I', 'N', 'G']

def Severity.mark (s : Severity) : List Char := s.word ++ [':', ' ']

/-- Numbers as the `#line` markers of the flattened text give them. -/
structure Position where
  index : Nat
  line : Nat
  deriving DecidableEq, Repr

/-- `afterIndex` is the text behind the file number, and empty without a position. -/
structure ValidatorLine where
  severity : Severity
  position : Option Position
  message : String
  afterIndex : String
  deriving DecidableEq, Repr

namespace ValidatorLine

def stripMark? (s : Severity) (cs : List Char) : Option (List Char) :=
  if s.mark.isPrefixOf cs then some (cs.drop s.mark.length) else none

/-- The severity that starts a line, and the text behind it. -/
def severity? (cs : List Char) : Option (Severity × List Char) :=
  match stripMark? .error cs with
  | some rest => some (.error, rest)
  | none => (stripMark? .warning cs).map (.warning, ·)

/-- The position that starts a text, the text behind the file number and the text behind the line
number. Both runs of digits are as long as possible, and both must be numbers. -/
def position? (cs : List Char) : Option (Position × List Char × List Char) :=
  let index := cs.takeWhile isDigit
  let afterIndex := cs.dropWhile isDigit
  match afterIndex with
  | ':' :: tail =>
    let line := tail.takeWhile isDigit
    match readNumber? index, readNumber? line with
    | some i, some l => some (⟨i, l⟩, afterIndex, tail.dropWhile isDigit)
    | _, _ => none
  | _ => none

/-- Reads a single line. A text with a line feed in it is no line. -/
def parse? (line : String) : Option ValidatorLine :=
  match severity? line.toList with
  | none => none
  | some (severity, rest) =>
    if rest.contains '\n' then none
    else match position? rest with
      | some (position, afterIndex, message) =>
        some ⟨severity, some position, .ofList message, .ofList afterIndex⟩
      | none => some ⟨severity, none, .ofList rest, ""⟩

example : parse? "ERROR: 1:05: 'x' : bad" =
    some ⟨.error, some ⟨1, 5⟩, ": 'x' : bad", ":05: 'x' : bad"⟩ := by decide +kernel

example : parse? "WARNING: 1: 5" = some ⟨.warning, none, "1: 5", ""⟩ := by decide +kernel

end ValidatorLine

end GlslFlatten
