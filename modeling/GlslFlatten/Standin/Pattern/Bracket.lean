import GlslFlatten.Standin.Pattern.Escape

/-!
Reading of classes in brackets, which may be nested and combined.
-/

namespace GlslFlatten.Pattern

/-- Items side by side, and the span that they take. -/
structure Items where
  span : Span
  items : List ClassSet := []
  deriving Repr

namespace Items

def behind (p : Position) : Items := { span := .point p }

def push (u : Items) (item : ClassSet) : Items :=
  { span := ⟨if u.items.isEmpty then item.span.start else u.span.start, item.span.stop⟩
    items := u.items ++ [item] }

def toSet (u : Items) : ClassSet :=
  match u.items with
  | [] => .empty u.span
  | [item] => item
  | items => .union u.span items

end Items

/-- A bracket that is still open, with the items before it, or an operation that lacks its right
side. -/
inductive BracketFrame where
  | opened (outer : Items) (span : Span) (negated : Bool)
  | operation (op : SetOperation) (left : ClassSet)
  deriving Repr

/-- The opened bracket that encloses what is being read. -/
def openedSpan? : List BracketFrame → Option Span
  | [] => none
  | .opened _ span _ :: _ => some span
  | .operation _ _ :: frames => openedSpan? frames

def failUnclosed {α : Type} (frames : List BracketFrame) : Scan α := do
  failAt ((openedSpan? frames).getD (← nextSpan)) .classUnclosed

/-- Gives a pending operation its right side. -/
def completeOperation (frames : List BracketFrame) (right : ClassSet) :
    ClassSet × List BracketFrame :=
  match frames with
  | .operation op left :: frames =>
    (.operation ⟨left.span.start, right.span.stop⟩ op left right, frames)
  | frames => (right, frames)

def readClassItem : Scan Node := do
  match ← next? with
  | some c =>
    if c = '\\' then readEscape
    else
      let span ← nextSpan
      let _ ← pass
      return .literal { span, char := c }
  | none => failHere .classUnclosed

def classItem : Node → Scan ClassSet
  | .literal l => return .literal l
  | .escape e => return .escape e
  | node => failAt node.span .classEscape

def rangeEnd : Node → Scan Literal
  | .literal l => return l
  | node => failAt node.span .classRangeLiteral

/-- An item or a range. A dash before a bracket or another dash makes no range. -/
def readClassRange (frames : List BracketFrame) : Scan ClassSet := do
  let low ← readClassItem
  passBlanks
  if ← atEnd then failUnclosed frames
  let second := (← get).second?
  if (← next?) ≠ some '-' || second = some ']' || second = some '-' then classItem low
  else
    if !(← passOn) then failUnclosed frames
    let high ← readClassItem
    let span : Span := ⟨low.span.start, high.span.stop⟩
    let low ← rangeEnd low
    let high ← rangeEnd high
    if low.char ≤ high.char then return .range span low high else failAt span .classRangeOrder

/-- A name between colons and brackets. Anything else is left unread. -/
def readAsciiClass? : Scan (Option ClassSet) := do
  let before ← get
  let refuse : Scan (Option ClassSet) := do
    set before
    return none
  if !(← passText "[:") then refuse
  else
    let negated ← passText "^"
    let name ← takeAll (· ≠ ':') pass
    if ← passText ":]" then
      match AsciiClass.named? (.ofList name) with
      | some kind => return some (.ascii ⟨before.position, ← position⟩ kind negated)
      | none => refuse
    else refuse

/-- Dashes that come first in a bracket stand for themselves. -/
def readLeadingDashes (start : Position) : (fuel : Nat) → Items → Scan Items
  | 0, u => return u
  | fuel + 1, u => do
    if (← next?) = some '-' then
      let u := u.push (.literal { span := ← nextSpan, char := '-' })
      if !(← passOn) then failAt (.point start) .classUnclosed
      readLeadingDashes start fuel u
    else return u

/-- An opening bracket, with the dashes or the closing bracket that stand for themselves. -/
def readOpening (outer : Items) : Scan (BracketFrame × Items) := do
  let start ← position
  if !(← passOn) then failFrom start .classUnclosed
  let negated := (← next?) = some '^'
  if negated then
    if !(← passOn) then failFrom start .classUnclosed
  let u ← readLeadingDashes start (← get).rest.length (.behind (← position))
  if u.items.isEmpty && (← next?) = some ']' then
    let u := u.push (.literal { span := ← nextSpan, char := ']' })
    if !(← passOn) then failFrom start .classUnclosed
    return (.opened outer ⟨start, ← position⟩ negated, u)
  else return (.opened outer ⟨start, ← position⟩ negated, u)

def operation? : Scanner → Option (SetOperation × String)
  | { rest := '&' :: '&' :: _, .. } => some (.intersection, "&&")
  | { rest := '-' :: '-' :: _, .. } => some (.difference, "--")
  | { rest := '~' :: '~' :: _, .. } => some (.symmetricDifference, "~~")
  | _ => none

/-- Reads on until the outermost bracket is closed. Every round passes a character. -/
def readItems : (fuel : Nat) → List BracketFrame → Items → Scan Node
  | 0, frames, _ => failUnclosed frames
  | fuel + 1, frames, u => do
    passBlanks
    if (← next?) = none then failUnclosed frames
    else if (← next?) = some '[' then
      match ← readAsciiClass? with
      | some item => readItems fuel frames (u.push item)
      | none =>
        let (frame, inner) ← readOpening u
        readItems fuel (frame :: frames) inner
    else if (← next?) = some ']' then
      let (set, frames) := completeOperation frames u.toSet
      let _ ← pass
      match frames with
      | .opened outer span negated :: frames =>
        let span : Span := ⟨span.start, ← position⟩
        if frames.isEmpty then return .bracketed span negated set
        else readItems fuel frames (outer.push (.bracketed span negated set))
      | _ => return .bracketed set.span false set
    else match operation? (← get) with
      | some (op, mark) =>
        let _ ← passText mark
        let (left, frames) := completeOperation frames u.toSet
        readItems fuel (.operation op left :: frames) (.behind (← position))
      | none => readItems fuel frames (u.push (← readClassRange frames))

/-- A class in brackets. -/
def readBracket : Scan Node := do
  let (frame, u) ← readOpening (.behind (← position))
  readItems ((← get).rest.length + 1) [frame] u

end GlslFlatten.Pattern
