import GlslFlatten.Standin.Pattern.SyntaxError
import GlslFlatten.Text.Blank

/-!
Reading the text of a pattern character by character. In verbose patterns blanks and comments do not
count.
-/

namespace GlslFlatten.Pattern

open Text

/-- What is left of the text, where it stands, and the names of groups so far. -/
structure Scanner where
  rest : List Char
  position : Position := {}
  verbose : Bool := false
  names : List (List Char × Span) := []
  deriving DecidableEq, Repr

abbrev Scan := EStateM SyntaxError Scanner

namespace Scanner

def ofText (text : String) : Scanner := { rest := text.toList }

/-- Passes a character. -/
def pass (s : Scanner) : Scanner :=
  match s.rest with
  | [] => s
  | c :: cs => { s with rest := cs, position := s.position.after c }

/-- What is left behind blanks and comments. A comment reaches to the end of its line. -/
def skipBlanks : (inComment : Bool) → List Char → Position → List Char × Position
  | _, [], p => ([], p)
  | true, c :: cs, p => skipBlanks (c ≠ '\n') cs (p.after c)
  | false, c :: cs, p =>
    if isBlank c then skipBlanks false cs (p.after c)
    else if c = '#' then skipBlanks true cs (p.after c)
    else (c :: cs, p)

def passBlanks (s : Scanner) : Scanner :=
  if s.verbose then
    let (rest, position) := skipBlanks false s.rest s.position
    { s with rest, position }
  else s

/-- The span of the next character, or of none at the end. -/
def nextSpan (s : Scanner) : Span := ⟨s.position, s.pass.position⟩

/-- The character behind the next one. A verbose pattern is searched for it past blanks, and past the
number signs that begin comments, but for what stands in these. -/
def second? (s : Scanner) : Option Char :=
  match s.rest with
  | [] => none
  | _ :: cs =>
    if s.verbose then secondPast false cs <|> cs.head? else cs.head?
where
  secondPast : (inComment : Bool) → List Char → Option Char
    | _, [] => none
    | inComment, c :: cs =>
      if isBlank c then secondPast inComment cs
      else if !inComment && c = '#' then secondPast true cs
      else some c

end Scanner

def next? : Scan (Option Char) := return (← get).rest.head?

def atEnd : Scan Bool := return (← get).rest = []

def position : Scan Position := return (← get).position

def nextSpan : Scan Span := return (← get).nextSpan

/-- Passes a character and tells whether another follows. -/
def pass : Scan Bool := do
  modify Scanner.pass
  return !(← atEnd)

def passBlanks : Scan Unit := modify Scanner.passBlanks

/-- Passes a character and the blanks behind it, and tells whether another character follows. -/
def passOn : Scan Bool := do
  if ← pass then
    passBlanks
    return !(← atEnd)
  else return false

/-- Passes the given characters if they come next. -/
def passText (text : String) : Scan Bool := do
  if text.toList.isPrefixOf (← get).rest then
    text.toList.forM fun _ => modify Scanner.pass
    return true
  else return false

def failAt {α : Type} (span : Span) (fault : Fault) : Scan α := throw ⟨fault, span⟩

/-- Fails from a position up to the one that has been reached. -/
def failFrom {α : Type} (start : Position) (fault : Fault) : Scan α := do
  failAt ⟨start, ← position⟩ fault

def failHere {α : Type} (fault : Fault) : Scan α := do failAt (.point (← position)) fault

def failNext {α : Type} (fault : Fault) : Scan α := do failAt (← nextSpan) fault

/-- Takes characters as long as they are wanted, passing each with `move`. -/
def takeFor (wanted : Char → Bool) (move : Scan Bool) : (fuel : Nat) → Scan (List Char)
  | 0 => return []
  | fuel + 1 => do
    match ← next? with
    | none => return []
    | some c =>
      if wanted c then
        let _ ← move
        return c :: (← takeFor wanted move fuel)
      else return []

/-- Every move passes a character, so what is left bounds their number. -/
def takeAll (wanted : Char → Bool) (move : Scan Bool) : Scan (List Char) := do
  takeFor wanted move (← get).rest.length

end GlslFlatten.Pattern
