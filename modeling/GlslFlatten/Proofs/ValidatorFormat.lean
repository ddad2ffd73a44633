import GlslFlatten.Proofs.IndexRewriting
import Mathlib.Data.List.Induction

/-!
Reading a line of validator output against writing it. What is read gives back the line when it is put
together again, and a line that is written as the severity, two numbers and a message is read as these.
Digits that are no number leave the line without a position.
-/

namespace GlslFlatten

namespace Text

/-- A number in decimal digits behind some zeros. -/
def padded (zeros n : Nat) : List Char := List.replicate zeros '0' ++ Nat.toDigits 10 n

theorem digitsValue_concat (digits : List Char) (c : Char) :
    digitsValue (digits ++ [c]) = 10 * digitsValue digits + (c.toNat - 48) := by
  simp [digitsValue]

theorem digitsValue_padded (zeros n : Nat) : digitsValue (padded zeros n) = n := by
  have hzeros : digitsValue (List.replicate zeros '0') = 0 := by
    induction zeros with
    | zero => rfl
    | succ zeros ih => simp [List.replicate_succ', digitsValue_concat, ih]
  have happend : digitsValue (padded zeros n) =
      (Nat.toDigits 10 n).foldl (fun n c => 10 * n + (c.toNat - 48))
        (digitsValue (List.replicate zeros '0')) := by
    simp [padded, digitsValue]
  rw [happend, hzeros]
  exact digitsValue_toDigits n

theorem isAsciiDigit_of_mem_padded {zeros n : Nat} {c : Char} (h : c ∈ padded zeros n) :
    isAsciiDigit c = true := by
  rcases List.mem_append.mp h with hc | hc
  · rw [List.eq_of_mem_replicate hc]
    rfl
  · exact isAsciiDigit_of_mem_toDigits hc

theorem exists_digitChar {c : Char} (h : isAsciiDigit c = true) :
    ∃ d, d < 10 ∧ c = Nat.digitChar d ∧ c.toNat - 48 = d := by
  simp only [isAsciiDigit, Bool.and_eq_true, decide_eq_true_eq] at h
  have low : 48 ≤ c.toNat := h.1
  have high : c.toNat ≤ 57 := h.2
  have hd : c.toNat - 48 < 10 := by omega
  refine ⟨c.toNat - 48, hd, ?_, rfl⟩
  apply Char.toNat_inj.mp
  rw [Nat.toNat_digitChar_of_lt_ten hd]
  omega

/-- One more digit on the right. A number of zeros only is zero with one of them as its digit. -/
theorem exists_padded_concat (zeros n : Nat) {d : Nat} (hd : d < 10) :
    ∃ zeros', padded zeros n ++ [Nat.digitChar d] = padded zeros' (10 * n + d) := by
  rcases Nat.eq_zero_or_pos n with rfl | hn
  · refine ⟨zeros + 1, ?_⟩
    have hzero : Nat.toDigits 10 0 = ['0'] := rfl
    simp [padded, hzero, Nat.toDigits_of_lt_base hd, List.replicate_succ']
  · refine ⟨zeros, ?_⟩
    have htens := Nat.toDigits_append_toDigits (b := 10) (by decide) hn hd
    rw [Nat.toDigits_of_lt_base hd] at htens
    rw [padded, padded, List.append_assoc, htens]

/-- Digits are the decimal digits of their value, behind zeros. -/
theorem exists_eq_padded {digits : List Char} (hne : digits ≠ [])
    (hascii : ∀ c ∈ digits, isAsciiDigit c = true) :
    ∃ zeros, digits = padded zeros (digitsValue digits) := by
  induction digits using List.reverseRecOn with
  | nil => exact absurd rfl hne
  | append_singleton digits c ih =>
    obtain ⟨d, hd, rfl, hvalue⟩ := exists_digitChar (hascii c (by simp))
    rw [digitsValue_concat, hvalue]
    by_cases hempty : digits = []
    · subst hempty
      exact ⟨0, by simp [padded, digitsValue, Nat.toDigits_of_lt_base hd]⟩
    · obtain ⟨zeros, hzeros⟩ := ih hempty fun c hc => hascii c (by simp [hc])
      obtain ⟨zeros', hmore⟩ := exists_padded_concat zeros (digitsValue digits) hd
      exact ⟨zeros', by rw [← hmore, ← hzeros]⟩

/-- What digits denote is the number that they are written for. -/
theorem denotes_iff_padded {digits : List Char} {n : Nat} :
    Denotes digits n ↔ n < numberLimit ∧ ∃ zeros, digits = padded zeros n := by
  constructor
  · intro h
    obtain ⟨zeros, hdigits⟩ := exists_eq_padded h.nonempty h.ascii
    rw [h.value] at hdigits
    exact ⟨h.limit, zeros, hdigits⟩
  · rintro ⟨hlimit, zeros, rfl⟩
    refine ⟨?_, fun c hc => isAsciiDigit_of_mem_padded hc, digitsValue_padded zeros n, hlimit⟩
    simp [padded, Nat.toDigits_ne_nil]

/-- Digits that are no number: there is another one than the ASCII digits among them, or they are for
more than is stored. -/
inductive Numberless (digits : List Char) : Prop
  | foreign (c : Char) : c ∈ digits → isAsciiDigit c = false → Numberless digits
  | large (zeros n : Nat) : digits = padded zeros n → numberLimit ≤ n → Numberless digits

theorem Numberless.readNumber? {digits : List Char} (h : Numberless digits) :
    readNumber? digits = none := by
  rw [Option.eq_none_iff_forall_ne_some]
  intro n hn
  have hdenotes := readNumber?_eq_some_iff.mp hn
  cases h with
  | foreign c hc hforeign =>
    rw [hdenotes.ascii c hc] at hforeign
    cases hforeign
  | large zeros m hdigits hlarge =>
    have hvalue := hdenotes.value
    have hlimit := hdenotes.limit
    rw [hdigits, digitsValue_padded] at hvalue
    omega

end Text

namespace ValidatorLine

open Text

/-- How a validator writes a line about a position. -/
def written (severity : Severity) (index line message : List Char) : String :=
  .ofList (severity.mark ++ (index ++ ':' :: (line ++ message)))

/-- Put together, the parts of what has been read are the line. -/
def Splits (line : String) (parsed : ValidatorLine) : Prop :=
  match parsed.position with
  | none => parsed.afterIndex = "" ∧ line.toList = parsed.severity.mark ++ parsed.message.toList
  | some p => p.index < numberLimit ∧ p.line < numberLimit ∧
    (∃ zeros, line.toList =
      parsed.severity.mark ++ (padded zeros p.index ++ parsed.afterIndex.toList)) ∧
    (∃ zeros, parsed.afterIndex.toList = ':' :: (padded zeros p.line ++ parsed.message.toList)) ∧
    ∀ c ∈ parsed.message.toList.head?, isDigit c = false

theorem splits_of_parse? {line : String} {parsed : ValidatorLine} (h : parse? line = some parsed) :
    Splits line parsed := by
  unfold parse? at h
  split at h
  · cases h
  rename_i severity rest hseverity
  have hmark := of_severity? hseverity
  split at h
  · cases h
  split at h
  · rename_i p afterIndex message hposition
    cases h
    obtain ⟨index, number, hindex, hnumber, rfl, rfl, hmessage⟩ := position?_eq_some_iff.mp hposition
    obtain ⟨hi, zeros, rfl⟩ := denotes_iff_padded.mp hindex
    obtain ⟨hl, zeros', rfl⟩ := denotes_iff_padded.mp hnumber
    refine ⟨hi, hl, ⟨zeros, ?_⟩, ⟨zeros', ?_⟩, ?_⟩
    · simp [hmark]
    · simp
    · simpa using hmessage
  · cases h
    exact ⟨rfl, by simp [hmark]⟩

/-- The text of a written line, which is read after the severity. -/
theorem parse?_written {severity : Severity} {index line message : List Char}
    (hindex : ∀ c ∈ index, isDigit c = true) (hline : ∀ c ∈ line, isDigit c = true)
    (hnewline : '\n' ∉ message) :
    parse? (written severity index line message) =
      some (match position? (index ++ ':' :: (line ++ message)) with
        | some (position, afterIndex, message) =>
          ⟨severity, some position, .ofList message, .ofList afterIndex⟩
        | none => ⟨severity, none, .ofList (index ++ ':' :: (line ++ message)), ""⟩) := by
  have hdigits : ∀ digits : List Char, (∀ c ∈ digits, isDigit c = true) → '\n' ∉ digits := by
    intro digits hdigits hm
    have hdigit := hdigits _ hm
    rw [show isDigit '\n' = false by decide] at hdigit
    cases hdigit
  have htext : '\n' ∉ index ++ ':' :: (line ++ message) := by
    simp [hdigits index hindex, hdigits line hline, hnewline]
  exact parse?_mark (by simp [written]) htext

/-- Without two numbers there is no position. -/
theorem position?_eq_none {index line message : List Char}
    (hindex : ∀ c ∈ index, isDigit c = true) (hline : ∀ c ∈ line, isDigit c = true)
    (hmessage : ∀ c ∈ message.head?, isDigit c = false)
    (h : Numberless index ∨ Numberless line) :
    position? (index ++ ':' :: (line ++ message)) = none := by
  have hcolon : ∀ c ∈ (':' :: (line ++ message)).head?, isDigit c = false := by
    rintro c hc
    cases hc
    decide
  obtain ⟨hi, hafter⟩ := span_run hindex hcolon
  obtain ⟨hl, _⟩ := span_run hline hmessage
  rw [position?]
  simp only [hi, hafter, hl]
  rcases h with h | h
  · rw [h.readNumber?]
  · rw [h.readNumber?]
    cases readNumber? index <;> rfl

/-- Reading takes a line apart without a loss and undoes the writing of it. Of two numbers that are
not both less than the limit and in ASCII digits, nothing is read, and they stay in the message. -/
theorem parse?_inverts_written :
    (∀ line parsed, parse? line = some parsed → Splits line parsed) ∧
    ∀ (severity : Severity) (message : List Char), '\n' ∉ message →
      (∀ c ∈ message.head?, isDigit c = false) →
      (∀ zeros i zeros' l, i < numberLimit → l < numberLimit →
        parse? (written severity (padded zeros i) (padded zeros' l) message) =
          some ⟨severity, some ⟨i, l⟩, .ofList message,
            .ofList (':' :: (padded zeros' l ++ message))⟩) ∧
      ∀ index line, (∀ c ∈ index, isDigit c = true) → (∀ c ∈ line, isDigit c = true) →
        Numberless index ∨ Numberless line →
        parse? (written severity index line message) =
          some ⟨severity, none, .ofList (index ++ ':' :: (line ++ message)), ""⟩ := by
  refine ⟨fun line parsed h => splits_of_parse? h, ?_⟩
  intro severity message hnewline hmessage
  refine ⟨?_, ?_⟩
  · intro zeros i zeros' l hi hl
    have hindex : Denotes (padded zeros i) i := denotes_iff_padded.mpr ⟨hi, zeros, rfl⟩
    have hline : Denotes (padded zeros' l) l := denotes_iff_padded.mpr ⟨hl, zeros', rfl⟩
    have hposition : position? (padded zeros i ++ ':' :: (padded zeros' l ++ message)) =
        some (⟨i, l⟩, ':' :: (padded zeros' l ++ message), message) :=
      position?_eq_some_iff.mpr ⟨_, _, hindex, hline, rfl, rfl, hmessage⟩
    rw [parse?_written hindex.isDigit hline.isDigit hnewline, hposition]
  · intro index line hindex hline hnumberless
    rw [parse?_written hindex hline hnewline, position?_eq_none hindex hline hmessage hnumberless]

/-- A file number that begins with zeros, and one that is one more than can be stored. -/
theorem parse?_inverts_written_sample :
    Splits "ERROR: 1 errors." ⟨.error, none, "1 errors.", ""⟩ ∧
    parse? "WARNING: 007:5: é" = some ⟨.warning, some ⟨7, 5⟩, ": é", ":5: é"⟩ ∧
    parse? "ERROR: 18446744073709551616:5: é" =
      some ⟨.error, none, "18446744073709551616:5: é", ""⟩ := by
  obtain ⟨hsplits, hwritten⟩ := parse?_inverts_written
  have hmessage : ∀ c ∈ [':', ' ', 'é'].head?, isDigit c = false := by
    rintro c hc
    cases hc
    decide
  refine ⟨hsplits _ _ (by decide +kernel), ?_, ?_⟩
  · have hline : "WARNING: 007:5: é" =
        written .warning (padded 2 7) (padded 0 5) [':', ' ', 'é'] := by decide +kernel
    obtain ⟨hnumbers, _⟩ := hwritten .warning [':', ' ', 'é'] (by simp) hmessage
    rw [hline, hnumbers 2 7 0 5 (by decide) (by decide)]
    decide +kernel
  · have hline : "ERROR: 18446744073709551616:5: é" =
        written .error (padded 0 18446744073709551616) (padded 0 5) [':', ' ', 'é'] := by
      decide +kernel
    obtain ⟨_, hnumberless⟩ := hwritten .error [':', ' ', 'é'] (by simp) hmessage
    have hdigits : ∀ n, ∀ c ∈ padded 0 n, isDigit c = true :=
      fun n c hc => isDigit_of_isAsciiDigit (isAsciiDigit_of_mem_padded hc)
    rw [hline, hnumberless _ _ (hdigits _) (hdigits _) (.inl (.large 0 _ rfl (by decide)))]
    decide +kernel

end ValidatorLine

end GlslFlatten
