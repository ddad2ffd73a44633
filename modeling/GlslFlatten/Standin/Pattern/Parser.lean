import GlslFlatten.Standin.Pattern.Bracket
import GlslFlatten.Standin.Pattern.Group

/-!
Reading of a whole pattern: groups, alternatives and repetitions.
-/

namespace GlslFlatten.Pattern

open Text

/-- Parts one after the other, and where they begin. -/
structure Sequence where
  start : Position
  nodes : List Node := []
  deriving Repr

namespace Sequence

def push (s : Sequence) (node : Node) : Sequence := { s with nodes := s.nodes ++ [node] }

/-- One part stands for itself. -/
def toNode (s : Sequence) (stop : Position) : Node :=
  match s.nodes with
  | [] => .empty ⟨s.start, stop⟩
  | [node] => node
  | nodes => .concat ⟨s.start, stop⟩ nodes

end Sequence

/-- A group that is still open, with the parts before it, or alternatives that have been read. -/
inductive GroupFrame where
  | group (outer : Sequence) (span : Span) (kind : GroupKind) (verbose : Bool)
  | alternatives (start : Position) (nodes : List Node)
  deriving Repr

/-- The part that a repetition repeats, which is the last one, and the parts before it. -/
def repeated (s : Sequence) : Scan (Node × Sequence) := do
  match s.nodes.getLast? with
  | none | some (.empty _) | some (.setFlags _ _) => failHere .repetitionOfNothing
  | some node => return (node, { s with nodes := s.nodes.dropLast })

/-- A question mark, a star or a plus sign, and perhaps a question mark behind it. -/
def readRepetition (s : Sequence) (least : Nat) (most : Option Nat) : Scan Sequence := do
  let (node, s) ← repeated s
  if ← pass then
    let _ ← passText "?"
  return s.push (.repetition ⟨node.span.start, ← position⟩ least most node)

/-- The numbers in braces. A missing first number is a fault only once it is needed. -/
def readCounts (start : Position) : Scan (Nat × Option Nat) := do
  let first : Except SyntaxError Nat ← fun s =>
    match readDecimal .countEmpty s with
    | .ok n s => .ok (.ok n) s
    | .error e s => .ok (.error e) s
  let need (n : Except SyntaxError Nat) : Scan Nat :=
    match n with
    | .ok n => return n
    | .error e => throw e
  match ← next? with
  | none => failFrom start .countUnclosed
  | some ',' =>
    if !(← passOn) then failFrom start .countUnclosed
    if (← next?) = some '\x7d' then return (← need first, none)
    else
      let least ← need first
      let most ← readDecimal .countEmpty
      return (least, some most)
  | some _ =>
    let n ← need first
    return (n, some n)

def readCountedRepetition (s : Sequence) : Scan Sequence := do
  let start ← position
  let (node, s) ← repeated s
  if !(← passOn) then failFrom start .countUnclosed
  let (least, most) ← readCounts start
  if (← next?) ≠ some '\x7d' then failFrom start .countUnclosed
  if ← passOn then
    let _ ← passText "?"
  if most.any (· < least) then failFrom start .countOrder
  return s.push (.repetition ⟨node.span.start, ← position⟩ least most node)

/-- Adds the parts before a bar to the alternatives. -/
def addAlternative (frames : List GroupFrame) (s : Sequence) (stop : Position) : List GroupFrame :=
  match frames with
  | .alternatives start nodes :: frames =>
    .alternatives start (nodes ++ [s.toNode stop]) :: frames
  | frames => .alternatives s.start [s.toNode stop] :: frames

/-- What the parts and the alternatives before them amount to. -/
def closeAlternatives (frames : List GroupFrame) (s : Sequence) (stop : Position) :
    Node × List GroupFrame :=
  match frames with
  | .alternatives start nodes :: frames =>
    (.alternation ⟨start, stop⟩ (nodes ++ [s.toNode stop]), frames)
  | frames => (s.toNode stop, frames)

def closeGroup (frames : List GroupFrame) (s : Sequence) : Scan (Sequence × List GroupFrame) := do
  let (node, frames) := closeAlternatives frames s (← position)
  match frames with
  | .group outer span kind verbose :: frames =>
    modify fun r => { r with verbose }
    let _ ← pass
    return (outer.push (.group ⟨span.start, ← position⟩ kind node), frames)
  | _ => failNext .groupUnopened

def readAtom : Scan Node := do
  match ← next? with
  | some '\\' => readEscape
  | some c =>
    let span ← nextSpan
    let _ ← pass
    if c = '.' then return .dot span
    else if c = '^' then return .anchor span .lineStart
    else if c = '$' then return .anchor span .lineEnd
    else return .literal { span, char := c }
  | none => return .empty (← nextSpan)

/-- Reads to the end of the text. Every round passes a character. -/
def readNodes : (fuel : Nat) → List GroupFrame → Sequence → Scan Node
  | 0, _, s => return s.toNode s.start
  | fuel + 1, frames, s => do
    passBlanks
    match ← next? with
    | none =>
      let (node, frames) := closeAlternatives frames s (← position)
      match frames with
      | .group _ span _ _ :: _ => failAt span .groupUnclosed
      | _ => return node
    | some '(' =>
      match ← readGroupOpening with
      | .flags span change =>
        modify fun r => { r with verbose := (change.of? .verbose).getD r.verbose }
        readNodes fuel frames (s.push (.setFlags span change))
      | .group span kind =>
        let verbose := (← get).verbose
        match kind with
        | .flags change =>
          modify fun r => { r with verbose := (change.of? .verbose).getD verbose }
        | .capture => pure ()
        readNodes fuel (.group s span kind verbose :: frames) { start := ← position }
    | some ')' =>
      let (s, frames) ← closeGroup frames s
      readNodes fuel frames s
    | some '|' =>
      let frames := addAlternative frames s (← position)
      let _ ← pass
      readNodes fuel frames { start := ← position }
    | some '[' => readNodes fuel frames (s.push (← readBracket))
    | some '?' => readNodes fuel frames (← readRepetition s 0 (some 1))
    | some '*' => readNodes fuel frames (← readRepetition s 0 none)
    | some '+' => readNodes fuel frames (← readRepetition s 1 none)
    | some '\x7b' => readNodes fuel frames (← readCountedRepetition s)
    | some _ => readNodes fuel frames (s.push (← readAtom))

/-- Groups, brackets, repetitions and rows of parts may be nested so deep. -/
def nestLimit : Nat := 250

mutual

/-- Refuses a class that is nested deeper than a limit. The first argument is the depth that remains. -/
def ClassSet.checkDepth : Nat → ClassSet → Except SyntaxError Unit
  | depth, .bracketed span _ set =>
    match depth with
    | 0 => .error ⟨.nestedTooDeep nestLimit, span⟩
    | depth + 1 => set.checkDepth depth
  | depth, .union span items =>
    match depth with
    | 0 => .error ⟨.nestedTooDeep nestLimit, span⟩
    | depth + 1 => ClassSet.checkDepths depth items
  | depth, .operation span _ left right =>
    match depth with
    | 0 => .error ⟨.nestedTooDeep nestLimit, span⟩
    | depth + 1 =>
      match left.checkDepth depth with
      | .error e => .error e
      | .ok () => right.checkDepth depth
  | _, _ => .ok ()

def ClassSet.checkDepths : Nat → List ClassSet → Except SyntaxError Unit
  | _, [] => .ok ()
  | depth, item :: items =>
    match item.checkDepth depth with
    | .error e => .error e
    | .ok () => ClassSet.checkDepths depth items

end

mutual

def Node.checkDepth : Nat → Node → Except SyntaxError Unit
  | depth, .bracketed span _ set =>
    match depth with
    | 0 => .error ⟨.nestedTooDeep nestLimit, span⟩
    | depth + 1 => set.checkDepth depth
  | depth, .repetition span _ _ node =>
    match depth with
    | 0 => .error ⟨.nestedTooDeep nestLimit, span⟩
    | depth + 1 => node.checkDepth depth
  | depth, .group span _ node =>
    match depth with
    | 0 => .error ⟨.nestedTooDeep nestLimit, span⟩
    | depth + 1 => node.checkDepth depth
  | depth, .alternation span nodes =>
    match depth with
    | 0 => .error ⟨.nestedTooDeep nestLimit, span⟩
    | depth + 1 => Node.checkDepths depth nodes
  | depth, .concat span nodes =>
    match depth with
    | 0 => .error ⟨.nestedTooDeep nestLimit, span⟩
    | depth + 1 => Node.checkDepths depth nodes
  | _, _ => .ok ()

def Node.checkDepths : Nat → List Node → Except SyntaxError Unit
  | _, [] => .ok ()
  | depth, node :: nodes =>
    match node.checkDepth depth with
    | .error e => .error e
    | .ok () => Node.checkDepths depth nodes

end

/-- The parts of a pattern. -/
def parse (text : String) : Except SyntaxError Node :=
  match readNodes (text.length + 1) [] { start := {} } (.ofText text) with
  | .error e _ => .error e
  | .ok node _ =>
    match node.checkDepth nestLimit with
    | .error e => .error e
    | .ok () => .ok node

end GlslFlatten.Pattern
