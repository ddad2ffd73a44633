import GlslFlatten.Standin.Pattern.Scanner
import GlslFlatten.Standin.Pattern.Syntax
import GlslFlatten.Text.Digit

/-!
Reading of what a backslash begins, and of decimal numbers.
-/

namespace GlslFlatten.Pattern

open Text

/-- Characters that mean something in a pattern. -/
def metaCharacters : List Char := "\\.+*?()|[]\x7b\x7d^$#&-~".toList

/-- A backslash before any ASCII character but a letter, a digit or an angle bracket takes away its
meaning. -/
def isEscapable (c : Char) : Bool :=
  metaCharacters.contains c ||
    c.toNat < 128 && !c.isAlphanum && c ≠ '<' && c ≠ '>'

def isHex (c : Char) : Bool :=
  isAsciiDigit c || 'a' ≤ c && c ≤ 'f' || 'A' ≤ c && c ≤ 'F'

def hexValue (digits : List Char) : Nat :=
  digits.foldl (fun n c =>
    16 * n + (if isAsciiDigit c then c.toNat - 48 else c.toLower.toNat - 87)) 0

/-- The character with a code point, if there is one. -/
def charOf? (n : Nat) : Option Char :=
  if n < 0xd800 ∨ 0xdfff < n ∧ n < 0x110000 then some (Char.ofNat n) else none

/-- Characters that stand for a control character behind a backslash. -/
def control? : Char → Option Char
  | 'a' => some '\x07'
  | 'f' => some '\x0c'
  | 't' => some '\t'
  | 'n' => some '\n'
  | 'r' => some '\r'
  | 'v' => some '\x0b'
  | _ => none

def anchor? : Char → Option Anchor
  | 'A' => some .textStart
  | 'z' => some .textEnd
  | 'b' => some .boundary
  | 'B' => some .noBoundary
  | '<' => some .wordStart
  | '>' => some .wordEnd
  | _ => none

def letter? : Char → Option (Letter × Bool)
  | 'd' => some (.digit, false)
  | 'D' => some (.digit, true)
  | 's' => some (.space, false)
  | 'S' => some (.space, true)
  | 'w' => some (.word, false)
  | 'W' => some (.word, true)
  | _ => none

/-- A number of at most 32 bits, with blanks around it. `empty` is the fault of a missing one. -/
def readDecimal (empty : Fault) : Scan Nat := do
  let _ ← takeAll isBlank pass
  let start ← position
  let digits ← takeAll isAsciiDigit passOn
  let stop ← position
  let _ ← takeAll isBlank passOn
  if digits = [] then failAt ⟨start, stop⟩ empty
  else if digitsValue digits < UInt32.size then return digitsValue digits
  else failAt ⟨start, stop⟩ .decimalInvalid

/-- The given number of hexadecimal digits. -/
def readHexDigits (first : Bool) : Nat → Scan (List Char)
  | 0 => return []
  | n + 1 => do
    if !first then
      if !(← passOn) then failHere .escapeAtEnd
    match ← next? with
    | some c => if isHex c then return c :: (← readHexDigits false n) else failNext .hexDigit
    | none => failHere .escapeAtEnd

/-- The digits behind an opening brace. -/
def readHexBrace (start : Position) : Scan Literal := do
  let brace ← position
  let opened ← nextSpan
  let _ ← passOn
  let digits ← takeAll isHex passOn
  match ← next? with
  | none => failFrom brace .escapeAtEnd
  | some c =>
    if c ≠ '\x7d' then failNext .hexDigit
    let stop ← position
    let _ ← passOn
    if digits = [] then failFrom brace .hexEmpty
    match charOf? (hexValue digits) with
    | some char => return { span := ⟨start, ← position⟩, char }
    | none => failAt ⟨opened.stop, stop⟩ .hexInvalid

/-- A character by its code point, behind the letter that says how many digits there are. -/
def readHex (start : Position) (count : Nat) : Scan Literal := do
  if !(← passOn) then failHere .escapeAtEnd
  if (← next?) = some '\x7b' then readHexBrace start
  else
    let first ← position
    let digits ← readHexDigits true count
    let _ ← passOn
    match charOf? (hexValue digits) with
    | some char => return { span := ⟨start, ← position⟩, char, byte := count = 2 }
    | none => failFrom first .hexInvalid

/-- Splits a text at the first occurrence of a separator. -/
def splitOnce (separator : List Char) : List Char → Option (List Char × List Char)
  | [] => none
  | c :: cs =>
    if separator.isPrefixOf (c :: cs) then some ([], (c :: cs).drop separator.length)
    else (splitOnce separator cs).map fun (before, after) => (c :: before, after)

/-- The first kind of separator that occurs at all cuts a name from a value. -/
def propertyName (text : List Char) : PropertyName :=
  match splitOnce ['!', '='] text <|> splitOnce [':'] text <|> splitOnce ['='] text with
  | some (property, value) => .valued property value
  | none => .alone text

def readProperty (start : Position) (negated : Bool) : Scan EscapeClass := do
  if !(← passOn) then failHere .escapeAtEnd
  match ← next? with
  | some '\x7b' =>
    let _ ← passOn
    let text ← takeAll (· ≠ '\x7d') passOn
    if ← atEnd then failHere .escapeAtEnd
    let _ ← pass
    return .property ⟨start, ← position⟩ (propertyName text) negated
  | some '\\' => failNext .propertyInvalid
  | some c =>
    let _ ← passOn
    return .property ⟨start, ← position⟩ (.alone [c]) negated
  | none => failHere .escapeAtEnd

/-- The kinds of word boundaries in braces. What cannot be one is left for a repetition. -/
def readBoundary (start : Position) : Scan Anchor := do
  let before ← get
  let isPart (c : Char) : Bool := c.isAlpha || c = '-'
  if before.rest.head? ≠ some '\x7b' then return .boundary
  if !(← passOn) then failFrom start .boundaryAtEnd
  let first ← position
  if !((← next?).any isPart) then
    set before
    return .boundary
  let name ← takeAll isPart passOn
  if (← next?) ≠ some '\x7d' then failFrom before.position .boundaryUnclosed
  let stop ← position
  let _ ← pass
  match String.ofList name with
  | "start" => return .wordStart
  | "end" => return .wordEnd
  | "start-half" => return .wordStartHalf
  | "end-half" => return .wordEndHalf
  | _ => failAt ⟨first, stop⟩ .boundaryUnknown

/-- What a backslash begins. -/
def readEscape : Scan Node := do
  let start ← position
  if !(← pass) then failFrom start .escapeAtEnd
  let next ← nextSpan
  match ← next? with
  | none => failFrom start .escapeAtEnd
  | some c =>
    if isAsciiDigit c then failAt ⟨start, next.stop⟩ .backreference
    else if c = 'x' then return .literal (← readHex start 2)
    else if c = 'u' then return .literal (← readHex start 4)
    else if c = 'U' then return .literal (← readHex start 8)
    else if c = 'p' || c = 'P' then return .escape (← readProperty start (c = 'P'))
    else
      let _ ← pass
      let span : Span := ⟨start, ← position⟩
      match letter? c, control? c, anchor? c with
      | some (letter, negated), _, _ => return .escape (.letter span letter negated)
      | _, some char, _ => return .literal { span, char }
      | _, _, some .boundary =>
        let anchor ← readBoundary start
        return .anchor ⟨start, ← position⟩ anchor
      | _, _, some anchor => return .anchor span anchor
      | none, none, none =>
        if isEscapable c then return .literal { span, char := c } else failAt span .escapeUnknown

end GlslFlatten.Pattern
