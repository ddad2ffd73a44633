import GlslFlatten.Standin.Pattern.Escape
import GlslFlatten.Standin.Unicode.Property

/-!
Reading of what opens a group: its name, or the flags that it changes.
-/

namespace GlslFlatten.Pattern

open Text

def flag? : Char → Option Flag
  | 'i' => some .caseInsensitive
  | 'm' => some .multiLine
  | 's' => some .dotMatchesNewLine
  | 'U' => some .swapGreed
  | 'u' => some .unicode
  | 'R' => some .carriageReturn
  | 'x' => some .verbose
  | _ => none

/-- Flags that have been read, with their places. -/
structure FlagReading where
  change : FlagChange := {}
  places : List (Flag × Span) := []
  /-- The minus sign. -/
  minus : Option Span := none
  /-- Whether no flag follows the minus sign yet. -/
  dangling : Bool := false
  deriving DecidableEq, Repr

/-- Takes in the flag or the minus sign that comes next. -/
def FlagReading.take (r : FlagReading) (c : Char) (span : Span) : Except SyntaxError FlagReading :=
  if c = '-' then
    match r.minus with
    | some first => .error ⟨.flagNegatedTwice first, span⟩
    | none => .ok { r with minus := some span, dangling := true }
  else match flag? c with
    | none => .error ⟨.flagUnknown, span⟩
    | some flag =>
      match r.places.lookup flag with
      | some first => .error ⟨.flagDuplicate first, span⟩
      | none =>
        let change : FlagChange :=
          if r.minus.isNone then { r.change with on := flag :: r.change.on }
          else { r.change with off := flag :: r.change.off }
        .ok { r with change, places := (flag, span) :: r.places, dangling := false }

/-- Flags up to a colon or a closing parenthesis. -/
def readFlags : (fuel : Nat) → FlagReading → Scan FlagChange
  | 0, r => return r.change
  | fuel + 1, r => do
    match ← next? with
    | none => failHere .flagAtEnd
    | some c =>
      if c = ':' || c = ')' then
        match r.minus, r.dangling with
        | some span, true => failAt span .flagDangling
        | _, _ => return r.change
      else match r.take c (← nextSpan) with
        | .error e => throw e
        | .ok r =>
          if !(← pass) then failHere .flagAtEnd
          readFlags fuel r

/-- Characters of names, by their categories where they are not ASCII. -/
def isNamePart (first : Bool) (c : Char) : Bool :=
  let alphabetic := ((Unicode.Property.named? "alphabetic").map (·.chars)).getD .empty
  if c.toNat < 128 then
    c = '_' || c.isAlpha || !first && (isAsciiDigit c || ['.', '[', ']'].contains c)
  else alphabetic.contains c.toNat ||
    !first && (Unicode.ofCategories ["Nd", "Nl", "No"]).contains c.toNat

/-- The name of a group up to its closing angle bracket. No other group may have the same. -/
def readGroupName : Scan Unit := do
  let start ← position
  match ← next? with
  | none => failHere .groupNameUnclosed
  | some c => if c ≠ '>' && !isNamePart true c then failNext .groupNameInvalid
  let name ← takeAll (fun c => c ≠ '>' && isNamePart false c) pass
  let span : Span := ⟨start, ← position⟩
  match ← next? with
  | none => failHere .groupNameUnclosed
  | some c => if c ≠ '>' then failNext .groupNameInvalid
  let _ ← pass
  if name = [] then failAt (.point start) .groupNameEmpty
  match (← get).names.lookup name with
  | some first => failAt span (.groupNameDuplicate first)
  | none => modify fun s => { s with names := (name, span) :: s.names }

/-- What an opening parenthesis begins: a group, or a change of flags that is complete. -/
inductive Opening where
  | group (span : Span) (kind : GroupKind)
  | flags (span : Span) (change : FlagChange)
  deriving DecidableEq, Repr

def looksAround (rest : List Char) : Option String :=
  ["?=", "?!", "?<=", "?<!"].find? fun mark => mark.toList.isPrefixOf rest

def readGroupOpening : Scan Opening := do
  let span ← nextSpan
  let _ ← pass
  passBlanks
  match looksAround (← get).rest with
  | some mark =>
    let _ ← passText mark
    failFrom span.start .lookAround
  | none => pure ()
  let inner ← position
  if (← passText "?P<") || (← passText "?<") then
    readGroupName
    return .group span .capture
  else if ← passText "?" then
    if ← atEnd then failAt span .groupUnclosed
    let change ← readFlags (← get).rest.length {}
    let complete := (← next?) = some ')'
    let _ ← pass
    if !complete then return .group span (.flags change)
    else if change = {} then failAt (.point inner) .repetitionOfNothing
    else return .flags ⟨span.start, ← position⟩ change
  else return .group span .capture

end GlslFlatten.Pattern
