import GlslFlatten.Text.Blank

/-!
Decimal digits: the Unicode class Nd, and the numbers that are read from its ASCII members.
-/

namespace GlslFlatten.Text

/-- The first digits of the runs of ten, zero to nine, of which Nd consists. -/
def digitZeros : List Nat :=
  [0x30, 0x660, 0x6f0, 0x7c0, 0x966, 0x9e6, 0xa66, 0xae6, 0xb66, 0xbe6, 0xc66, 0xce6, 0xd66,
    0xde6, 0xe50, 0xed0, 0xf20, 0x1040, 0x1090, 0x17e0, 0x1810, 0x1946, 0x19d0, 0x1a80, 0x1a90,
    0x1b50, 0x1bb0, 0x1c40, 0x1c50, 0xa620, 0xa8d0, 0xa900, 0xa9d0, 0xa9f0, 0xaa50, 0xabf0,
    0xff10, 0x104a0, 0x10d30, 0x10d40, 0x11066, 0x110f0, 0x11136, 0x111d0, 0x112f0, 0x11450,
    0x114d0, 0x11650, 0x116c0, 0x116d0, 0x116da, 0x11730, 0x118e0, 0x11950, 0x11bf0, 0x11c50,
    0x11d50, 0x11da0, 0x11f50, 0x16130, 0x16a60, 0x16ac0, 0x16b50, 0x16d70, 0x1ccf0, 0x1d7ce,
    0x1d7d8, 0x1d7e2, 0x1d7ec, 0x1d7f6, 0x1e140, 0x1e2f0, 0x1e4f0, 0x1e5f1, 0x1e950, 0x1fbf0]

def digitRanges : List (Nat × Nat) := digitZeros.map fun z => (z, z + 9)

def isDigit (c : Char) : Bool := inRanges digitRanges c

def isAsciiDigit (c : Char) : Bool := '0' ≤ c && c ≤ '9'

def digitsValue (cs : List Char) : Nat := cs.foldl (fun n c => 10 * n + (c.toNat - 48)) 0

/-- Numbers are stored in 64 bits: a text for more than that stands for no number. -/
def numberLimit : Nat := UInt64.size

/-- The number that a run of digits stands for. Digits of other scripts than ASCII stand for none. -/
def readNumber? (cs : List Char) : Option Nat :=
  if cs ≠ [] ∧ cs.all isAsciiDigit = true ∧ digitsValue cs < numberLimit then
    some (digitsValue cs)
  else none

example : digitZeros.length = 76 := by decide

theorem isDigit_of_isAsciiDigit {c : Char} (h : isAsciiDigit c = true) : isDigit c = true := by
  simp only [isAsciiDigit, Bool.and_eq_true, decide_eq_true_eq] at h
  have low : 48 ≤ c.toNat := h.1
  have high : c.toNat ≤ 57 := h.2
  simp [isDigit, inRanges, digitRanges, digitZeros, low, high]

theorem isAsciiDigit_of_mem_toDigits {c : Char} {n : Nat} (h : c ∈ Nat.toDigits 10 n) :
    isAsciiDigit c = true := by
  have hc := Nat.isDigit_of_mem_toDigits (by decide) (by decide) h
  simp only [Char.isDigit, Bool.and_eq_true, decide_eq_true_eq] at hc
  simp only [isAsciiDigit, Bool.and_eq_true, decide_eq_true_eq]
  exact hc

/-- What is written in digits holds nothing else. -/
theorem not_mem_toDigits {c : Char} (h : isAsciiDigit c = false) (n : Nat) :
    c ∉ Nat.toDigits 10 n := by
  intro hc
  rw [isAsciiDigit_of_mem_toDigits hc] at h
  cases h

theorem digitsValue_toDigits (n : Nat) : digitsValue (Nat.toDigits 10 n) = n :=
  Nat.ofDigitChars_ten_toDigits

end GlslFlatten.Text
