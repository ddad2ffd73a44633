import GlslFlatten.Text.Lines
import GlslFlatten.Text.Utf8

/-!
Reading a file line by line. Bytes are fetched in blocks and only when those at hand hold no complete
line, so what is appended to the file in the meantime is read as well.
-/

namespace GlslFlatten

open Text Text.Utf8

/-- Fetched bytes, and the position in the file behind them. -/
structure Reader where
  ahead : List UInt8 := []
  position : Nat := 0
  deriving DecidableEq, Repr

namespace Reader

def block : Nat := 8192

/-- The number of bytes that whole blocks bring in so that `n` bytes are there. -/
def fetched (n : Nat) : Nat := (n + (block - 1)) / block * block

/-- The next line of a file with the given content, without its line feed. -/
def next (content : List UInt8) (r : Reader) : Option (List UInt8 × Reader) :=
  if r.ahead.contains lineFeed then
    let (line, rest) := firstLine lineFeed r.ahead
    some (line, { r with ahead := rest })
  else
    let unread := content.drop r.position
    if unread.contains lineFeed then
      let (line, _) := firstLine lineFeed unread
      let taken := unread.take (fetched (line.length + 1))
      some (r.ahead ++ line, ⟨taken.drop (line.length + 1), r.position + taken.length⟩)
    else if r.ahead = [] ∧ unread = [] then none
    else some (r.ahead ++ unread, ⟨[], r.position + unread.length⟩)

/-- A bound on the lines of a file: no file grows larger than the largest size that can be addressed,
unless it already is. -/
def lineLimit (content : List UInt8) : Nat := max content.length (UInt64.size / 2 - 1) + 1

/-- The lines of a file that nobody writes to. -/
def lines (content : List UInt8) : List (List UInt8) := Text.lines lineFeed content

end Reader

end GlslFlatten
