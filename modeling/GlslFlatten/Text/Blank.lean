/-!
Blank characters, which are those with the Unicode property White_Space, and trimming by them.
-/

namespace GlslFlatten.Text

/-- The code points with the property White_Space, as inclusive ranges. -/
def blankRanges : List (Nat × Nat) :=
  [(0x09, 0x0d), (0x20, 0x20), (0x85, 0x85), (0xa0, 0xa0), (0x1680, 0x1680),
    (0x2000, 0x200a), (0x2028, 0x2029), (0x202f, 0x202f), (0x205f, 0x205f), (0x3000, 0x3000)]

def inRanges (ranges : List (Nat × Nat)) (c : Char) : Bool :=
  ranges.any fun r => r.1 ≤ c.toNat && c.toNat ≤ r.2

def isBlank (c : Char) : Bool := inRanges blankRanges c

def dropBlanks (cs : List Char) : List Char := cs.dropWhile isBlank

def dropTrailingBlanks (cs : List Char) : List Char := (cs.reverse.dropWhile isBlank).reverse

def trimEnd (s : String) : String := .ofList (dropTrailingBlanks s.toList)

def trim (s : String) : String := .ofList (dropBlanks (dropTrailingBlanks s.toList))

def allBlank (cs : List Char) : Bool := cs.all isBlank

/-- Ten ranges hold the twenty-five blank characters of the standard. -/
example : blankRanges.length = 10 ∧ (blankRanges.map fun r => r.2 + 1 - r.1).sum = 25 := by decide

theorem dropTrailingBlanks_subset (cs : List Char) : dropTrailingBlanks cs ⊆ cs := by
  intro c hc
  have := (List.dropWhile_sublist isBlank).subset (List.mem_reverse.mp hc)
  exact List.mem_reverse.mp this

end GlslFlatten.Text
