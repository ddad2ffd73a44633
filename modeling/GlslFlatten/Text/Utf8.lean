/-!
UTF-8 read one byte at a time. A malformed sequence ends at the first byte that cannot continue it,
and counts as one symbol that stands for no character.
-/

namespace GlslFlatten.Text.Utf8

/-- A character whose first bytes have been read. The next byte must lie from `low` to `high`. -/
structure Pending where
  bits : Nat
  owed : Nat
  low : UInt8
  high : UInt8
  deriving DecidableEq, Repr

/-- The symbols that a byte completes, and the character that it leaves open. -/
abbrev Outcome := List (Option Char) × Option Pending

/-- A byte where a character may begin. -/
def start (b : UInt8) : Outcome :=
  if b < 0x80 then ([some (Char.ofNat b.toNat)], none)
  else if b < 0xc2 then ([none], none)
  else if b < 0xe0 then ([], some ⟨b.toNat - 0xc0, 1, 0x80, 0xbf⟩)
  else if b < 0xf0 then
    ([], some ⟨b.toNat - 0xe0, 2, if b = 0xe0 then 0xa0 else 0x80, if b = 0xed then 0x9f else 0xbf⟩)
  else if b < 0xf5 then
    ([], some ⟨b.toNat - 0xf0, 3, if b = 0xf0 then 0x90 else 0x80, if b = 0xf4 then 0x8f else 0xbf⟩)
  else ([none], none)

/-- A byte that continues the open character. -/
def Pending.push (p : Pending) (b : UInt8) : Outcome :=
  let bits := 64 * p.bits + (b.toNat - 0x80)
  if p.owed ≤ 1 then ([some (Char.ofNat bits)], none)
  else ([], some ⟨bits, p.owed - 1, 0x80, 0xbf⟩)

/-- A byte that cannot continue the open character breaks it off and begins anew. -/
def step : Option Pending → UInt8 → Outcome
  | none, b => start b
  | some p, b =>
    if p.low ≤ b ∧ b ≤ p.high then p.push b
    else (none :: (start b).1, (start b).2)

/-- The symbols of a byte string read from a given state; `none` is a malformed sequence. -/
def symbols : Option Pending → List UInt8 → List (Option Char)
  | none, [] => []
  | some _, [] => [none]
  | p, b :: bs => (step p b).1 ++ symbols (step p b).2 bs

def lineFeed : UInt8 := 10

def replacement : Char := '\uFFFD'

/-- Decoding in which each malformed sequence becomes one replacement character. -/
def decodeLossy (bs : List UInt8) : List Char :=
  (symbols none bs).map (·.getD replacement)

/-- Decoding that refuses malformed bytes. -/
def decode? (bs : List UInt8) : Option (List Char) :=
  let read := symbols none bs
  if read.all (·.isSome) then some (read.filterMap id) else none

def encode (cs : List Char) : List UInt8 := cs.flatMap String.utf8EncodeChar

def bytes (s : String) : List UInt8 := encode s.toList

example : decodeLossy [0x61, 0xff, 0x0a, 0xe2, 0x82, 0x0a] = ['a', '\uFFFD', '\n', '\uFFFD', '\n'] := by
  decide +kernel

example : decode? (encode ['a', 'é', '影', '😀']) = some ['a', 'é', '影', '😀'] := by decide +kernel

theorem symbols_cons (p : Option Pending) (b : UInt8) (bs : List UInt8) :
    symbols p (b :: bs) = (step p b).1 ++ symbols (step p b).2 bs := by
  cases p <;> rfl

/-- A byte below 0x80 is a character by itself wherever it stands. -/
theorem step_of_lt {b : UInt8} (h : b < 0x80) (p : Option Pending)
    (low : ∀ q, p = some q → 0x80 ≤ q.low) :
    step p b = ((if p.isSome then [none] else []) ++ [some (Char.ofNat b.toNat)], none) := by
  cases p with
  | none => simp [step, start, h]
  | some q =>
    have hb : ¬ q.low ≤ b := fun hq => by
      have := UInt8.le_trans (low q rfl) hq
      exact absurd h (UInt8.not_lt.mpr this)
    simp [step, start, h, hb]

end GlslFlatten.Text.Utf8
