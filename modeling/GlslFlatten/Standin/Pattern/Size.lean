import GlslFlatten.Standin.Pattern.Basic
import GlslFlatten.Text.Utf8

/-!
The memory that automata for a pattern take, which is limited. There is one automaton that reads the
bytes of a text forwards and keeps the ends of groups, and one that reads backwards.
-/

namespace GlslFlatten.Pattern

open Text Unicode

/-- Ranges of bytes, one for each byte of a character. -/
abbrev ByteRanges := List (UInt8 × UInt8)

def encoded (c : Nat) : List UInt8 := Utf8.encode [Char.ofNat c]

/-- The first place at which a range of characters has to be cut, so that in each piece every byte runs
through a range of its own. -/
def cut? (low high : Nat) : Option (Nat × Nat) :=
  let byLength := [0x7f, 0x7ff, 0xffff].find? fun last => low ≤ last && last < high
  let bySuffix := [6, 12, 18].findSome? fun bits =>
    let block := 1 <<< bits
    if low / block = high / block then none
    else if low % block ≠ 0 then some ((low / block + 1) * block - 1, (low / block + 1) * block)
    else if high % block ≠ block - 1 then some (high / block * block - 1, high / block * block)
    else none
  if low < 0xe000 && 0xd7ff < high then some (0xd7ff, 0xe000)
  else match byLength with
    | some last => some (last, last + 1)
    | none => if high < 0x80 then none else bySuffix

/-- The encodings of a range of characters as byte ranges. Every cut yields smaller ranges, and a dozen
cuts inside one another are enough. -/
def byteRanges : (fuel : Nat) → (low high : Nat) → List ByteRanges
  | 0, _, _ => []
  | fuel + 1, low, high =>
    if high < low then []
    else match cut? low high with
      | some (last, next) => byteRanges fuel low last ++ byteRanges fuel next high
      | none => [(encoded low).zip (encoded high)]

def CharSet.byteRanges (s : CharSet) : List ByteRanges :=
  s.ranges.flatMap fun (low, high) => Pattern.byteRanges 64 low high

/-- A state of an automaton: the byte ranges that it accepts, and where each leads. -/
abbrev Row := List ((UInt8 × UInt8) × Nat)

/-- The number of a row among those that exist, to which it is added if it is new. Rows are numbered from
one on, and zero is the end. -/
def numberOf (row : Row) (rows : List Row) : Nat × List Row :=
  match rows.findIdx? (· = row) with
  | some i => (i + 1, rows)
  | none => (rows.length + 1, rows ++ [row])

/-- Sequences that begin with the same range, in their order. -/
def byFirst : List ByteRanges → List ((UInt8 × UInt8) × List ByteRanges)
  | [] => []
  | [] :: rest => byFirst rest
  | (r :: rs) :: rest =>
    match byFirst rest with
    | (first, tails) :: more =>
      if first = r then (r, rs :: tails) :: more else (r, [rs]) :: (first, tails) :: more
    | [] => [(r, [rs])]

/-- The rows of the smallest automaton for sequences of at most `depth` ranges. -/
def rowsFor : (depth : Nat) → List ByteRanges → List Row → Nat × List Row
  | 0, _, rows => (0, rows)
  | depth + 1, sequences, rows =>
    if sequences.all (· = []) then (0, rows)
    else
      let (row, rows) := (byFirst sequences).foldl (fun (acc : Row × List Row) (first, tails) =>
        let (target, rows) := rowsFor depth tails acc.2
        (acc.1 ++ [(first, target)], rows)) ([], rows)
      numberOf row rows

/-- The number of beginnings of sequences that differ. -/
def countBeginnings : (depth : Nat) → List ByteRanges → Nat
  | 0, _ => 0
  | depth + 1, sequences =>
    ((byFirst sequences).map fun (_, tails) => 1 + countBeginnings depth tails).sum

inductive Direction where
  | forwards
  | backwards
  deriving DecidableEq, Repr

def stateBytes : Nat := 32

def transitionBytes : Nat := 8

def branchBytes : Nat := 4

def CharSet.automatonBytes (s : CharSet) (d : Direction) : Nat :=
  let length (c : Nat) := (encoded c).length
  match s.ranges with
  | [(low, high)] =>
    if low = high then length low * stateBytes
    else general
  | _ => general
where
  general : Nat :=
    if s.within 127 then 2 * stateBytes + transitionBytes * s.ranges.length
    else
      let sequences := CharSet.byteRanges s
      match d with
      | .forwards =>
        let rows := (rowsFor 5 sequences []).2
        stateBytes * (rows.length + 1) + transitionBytes * rows.flatten.length
      | .backwards =>
        stateBytes * (2 + countBeginnings 5 sequences) + branchBytes * sequences.length

namespace Matcher

def automatonBytes (d : Direction) : Matcher → Nat
  | empty | look _ => stateBytes
  | chars s => CharSet.automatonBytes s d
  | seq p q => p.automatonBytes d + q.automatonBytes d
  | alt p q => p.automatonBytes d + q.automatonBytes d + 2 * (stateBytes + branchBytes)
  | capture p =>
    p.automatonBytes d + match d with
      | .forwards => 2 * stateBytes
      | .backwards => 0
  | repeated least most p =>
    let size := p.automatonBytes d
    let branch := stateBytes + 2 * branchBytes
    match most with
    | none =>
      if 0 < least then least * size + branch
      else if 0 < p.leastWidth then size + branch
      else size + 2 * branch + stateBytes
    | some most =>
      if least = most then (if least = 0 then stateBytes else least * size)
      else least * size + (most - least) * (size + branch) + (if least = 0 then 2 else 1) * stateBytes

/-- What the automata may take. -/
def automatonLimit : Nat := 10 * 1024 * 1024

def fits (m : Matcher) : Bool :=
  (capture m).automatonBytes .forwards ≤ automatonLimit &&
    m.automatonBytes .backwards ≤ automatonLimit

end Matcher

end GlslFlatten.Pattern
