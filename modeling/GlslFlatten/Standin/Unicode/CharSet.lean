/-!
Sets of characters, given by ranges of code points.
-/

namespace GlslFlatten.Unicode

/-- Ranges in ascending order, with a gap between neighbours. -/
structure CharSet where
  ranges : List (Nat × Nat)
  deriving DecidableEq, Repr

/-- The largest code point. -/
def lastCodePoint : Nat := 0x10ffff

namespace CharSet

def empty : CharSet := ⟨[]⟩

def range (low high : Nat) : CharSet := ⟨if low ≤ high then [(low, high)] else []⟩

def single (c : Nat) : CharSet := range c c

def contains (s : CharSet) (c : Nat) : Bool := s.ranges.any fun r => r.1 ≤ c && c ≤ r.2

/-- Joins ranges that meet or overlap, where the ranges ascend by their first characters. -/
def joinRanges (first : Nat × Nat) : List (Nat × Nat) → List (Nat × Nat)
  | [] => [first]
  | r :: rest =>
    if r.1 ≤ first.2 + 1 then joinRanges (first.1, max first.2 r.2) rest
    else first :: joinRanges r rest

def ofRanges (ranges : List (Nat × Nat)) : CharSet :=
  match ranges.mergeSort fun a b => a.1 ≤ b.1 with
  | [] => empty
  | r :: rest => ⟨joinRanges r rest⟩

def union (s t : CharSet) : CharSet := ofRanges (s.ranges ++ t.ranges)

/-- The gaps between ranges, from `start` up to `last`. -/
def gaps (last : Nat) : Nat → List (Nat × Nat) → List (Nat × Nat)
  | start, [] => if start ≤ last then [(start, last)] else []
  | start, (low, high) :: rest =>
    if start < low then (start, low - 1) :: gaps last (high + 1) rest else gaps last (high + 1) rest

/-- What is missing up to a last code point. -/
def complement (s : CharSet) (last : Nat) : CharSet := ⟨gaps last 0 s.ranges⟩

def intersection (s t : CharSet) : CharSet :=
  ((s.complement lastCodePoint).union (t.complement lastCodePoint)).complement lastCodePoint

def difference (s t : CharSet) : CharSet := s.intersection (t.complement lastCodePoint)

def symmetricDifference (s t : CharSet) : CharSet := (s.difference t).union (t.difference s)

/-- Whether all members are at most `last`. -/
def within (s : CharSet) (last : Nat) : Bool := s.ranges.all fun r => r.2 ≤ last

end CharSet

end GlslFlatten.Unicode
