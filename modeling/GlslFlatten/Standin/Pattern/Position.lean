/-!
Positions in the text of a pattern, and spans between two of them.
-/

namespace GlslFlatten.Pattern

/-- A place before a character: how many characters precede it, and its line and column from one on. -/
structure Position where
  offset : Nat := 0
  line : Nat := 1
  column : Nat := 1
  deriving DecidableEq, Repr

/-- The position behind a character. -/
def Position.after (p : Position) (c : Char) : Position :=
  if c = '\n' then ⟨p.offset + 1, p.line + 1, 1⟩ else ⟨p.offset + 1, p.line, p.column + 1⟩

structure Span where
  start : Position
  stop : Position
  deriving DecidableEq, Repr

namespace Span

def point (p : Position) : Span := ⟨p, p⟩

def isOneLine (s : Span) : Bool := s.start.line = s.stop.line

/-- Earlier spans first, and of two with the same start the shorter one. -/
def precedes (s t : Span) : Bool :=
  s.start.offset < t.start.offset ||
    s.start.offset = t.start.offset && s.stop.offset ≤ t.stop.offset

end Span

end GlslFlatten.Pattern
