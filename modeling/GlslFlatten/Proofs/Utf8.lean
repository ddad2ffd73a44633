import GlslFlatten.Text.Lines
import GlslFlatten.Text.Utf8
import Mathlib.Data.List.Basic

/-!
UTF-8 and line feeds. A line feed is one byte wherever it stands, so a text may be cut into lines
before or after it is decoded, whether malformed bytes are refused or replaced.
-/

namespace GlslFlatten.Text.Utf8

/-- What holds of a character that has been begun: it does not go on with an ASCII byte, and it will
not be an ASCII character. -/
structure Pending.Sound (p : Pending) : Prop where
  low : 0x80 ≤ p.low.toNat
  wide : 2 ≤ 64 * p.bits + (p.low.toNat - 0x80)
  last : p.owed ≤ 1 → 0x80 ≤ 64 * p.bits + (p.low.toNat - 0x80)

theorem toNat_ne {b c : UInt8} (h : b ≠ c) : b.toNat ≠ c.toNat := fun he => h (UInt8.toNat_inj.mp he)

theorem sound_of_start {b : UInt8} {p : Pending} (h : (start b).2 = some p) : p.Sound := by
  simp only [start, UInt8.lt_iff_toNat_lt, UInt8.reduceToNat] at h
  split at h
  · cases h
  split at h
  · cases h
  rename_i _ hc2
  split at h
  · rw [← Option.some.inj h]
    exact ⟨Nat.le_refl 0x80, by simp only [UInt8.reduceToNat]; omega,
      fun _ => by simp only [UInt8.reduceToNat]; omega⟩
  split at h
  · rename_i he0 _
    rw [← Option.some.inj h]
    by_cases he : b = 0xe0
    · subst he
      exact ⟨by decide, by decide, by decide⟩
    · have := toNat_ne he
      simp only [UInt8.reduceToNat] at this
      exact ⟨by simp [he], by simp only [he, if_false, UInt8.reduceToNat]; omega, by simp⟩
  split at h
  · rename_i hf0 _
    rw [← Option.some.inj h]
    by_cases he : b = 0xf0
    · subst he
      exact ⟨by decide, by decide, by decide⟩
    · have := toNat_ne he
      simp only [UInt8.reduceToNat] at this
      exact ⟨by simp [he], by simp only [he, if_false, UInt8.reduceToNat]; omega, by simp⟩
  · cases h

theorem sound_of_push {p q : Pending} {b : UInt8} (hp : p.Sound) (hb : p.low ≤ b)
    (h : (p.push b).2 = some q) : q.Sound := by
  have hle : p.low.toNat ≤ b.toNat := hb
  have hw := hp.wide
  simp only [Pending.push] at h
  split at h
  · cases h
  · rw [← Option.some.inj h]
    exact ⟨Nat.le_refl 0x80, by simp only [UInt8.reduceToNat]; omega,
      fun _ => by simp only [UInt8.reduceToNat]; omega⟩

/-- The states in which a reading can be. -/
def SoundState (p : Option Pending) : Prop := ∀ q, p = some q → q.Sound

theorem soundState_none : SoundState none := fun _ h => by cases h

theorem soundState_step {p : Option Pending} (hp : SoundState p) (b : UInt8) :
    SoundState (step p b).2 := by
  intro q hq
  unfold step at hq
  split at hq
  · exact sound_of_start hq
  · rename_i p
    split at hq
    · rename_i hb
      exact sound_of_push (hp p rfl) hb.1 hq
    · exact sound_of_start hq

/-- A line feed ends what is open before it. -/
theorem symbols_append_lineFeed {p : Option Pending} (hp : SoundState p) (bs rest : List UInt8) :
    symbols p (bs ++ lineFeed :: rest) = symbols p bs ++ some '\n' :: symbols none rest := by
  induction bs generalizing p with
  | nil =>
    have hs : step p lineFeed = ((if p.isSome then [none] else []) ++ [some '\n'], none) :=
      step_of_lt (by decide) p fun q hq => (hp q hq).low
    rw [List.nil_append, symbols_cons, hs]
    cases p <;> rfl
  | cons b bs ih =>
    rw [List.cons_append, symbols_cons, symbols_cons, ih (soundState_step hp b), List.append_assoc]

theorem toNat_ofNat (n : Nat) : (Char.ofNat n).toNat = if n.isValidChar then n else 0 := by
  by_cases h : n.isValidChar
  · rw [if_pos h, Char.ofNat, dif_pos h]
    rfl
  · rw [if_neg h, Char.ofNat, dif_neg h]
    rfl

section Ascii

variable {c : UInt8} (hpos : 0 < c) (hlt : c < 0x80)
include hpos hlt

theorem ofNat_ne_ascii {n : Nat} (h : n ≠ c.toNat) : Char.ofNat n ≠ Char.ofNat c.toNat := by
  have hpos' : 0 < c.toNat := hpos
  have hlt' : c.toNat < 0x80 := hlt
  intro he
  have htoNat := congrArg Char.toNat he
  rw [toNat_ofNat, toNat_ofNat, if_pos (show c.toNat.isValidChar from .inl (by omega))]
    at htoNat
  split at htoNat
  · exact h htoNat
  · omega

theorem ascii_not_mem_start {b : UInt8} (hb : b ≠ c) : some (Char.ofNat c.toNat) ∉ (start b).1 := by
  unfold start
  split
  · simpa using (ofNat_ne_ascii hpos hlt (toNat_ne hb)).symm
  repeat' split
  all_goals simp

/-- Without the byte the character is not in the text. -/
theorem ascii_not_mem_step {p : Option Pending} (hp : SoundState p) {b : UInt8} (hb : b ≠ c) :
    some (Char.ofNat c.toNat) ∉ (step p b).1 := by
  have hlt' : c.toNat < 0x80 := hlt
  cases p with
  | none => exact ascii_not_mem_start hpos hlt hb
  | some p =>
    simp only [step]
    split
    · rename_i hr
      have hle : p.low.toNat ≤ b.toNat := hr.1
      simp only [Pending.push]
      split
      · rename_i howed
        have hlast := (hp p rfl).last howed
        simpa using (ofNat_ne_ascii hpos hlt (by omega)).symm
      · simp
    · simpa using ascii_not_mem_start hpos hlt hb

theorem ascii_not_mem_symbols {p : Option Pending} (hp : SoundState p) {bs : List UInt8}
    (h : c ∉ bs) : some (Char.ofNat c.toNat) ∉ symbols p bs := by
  induction bs generalizing p with
  | nil => cases p <;> simp [symbols]
  | cons b bs ih =>
    simp only [List.mem_cons, not_or] at h
    rw [symbols_cons, List.mem_append, not_or]
    exact ⟨ascii_not_mem_step hpos hlt hp (Ne.symm h.1), ih (soundState_step hp b) h.2⟩

theorem ascii_not_mem_decodeLossy {bs : List UInt8} (h : c ∉ bs) :
    Char.ofNat c.toNat ∉ decodeLossy bs := by
  have hlt' : c.toNat < 0x80 := hlt
  intro hm
  obtain ⟨symbol, hs, he⟩ := List.mem_map.mp hm
  cases symbol with
  | none =>
    have htoNat := congrArg Char.toNat he
    rw [toNat_ofNat, if_pos (show c.toNat.isValidChar from .inl (by omega))] at htoNat
    have hreplacement : replacement.toNat = 0xfffd := rfl
    rw [Option.getD_none, hreplacement] at htoNat
    omega
  | some d =>
    rw [Option.getD_some] at he
    exact ascii_not_mem_symbols hpos hlt soundState_none h (he ▸ hs)

end Ascii

theorem decode?_eq_some_iff {bs : List UInt8} {cs : List Char} :
    decode? bs = some cs ↔ symbols none bs = cs.map some := by
  simp only [decode?]
  generalize symbols none bs = read
  constructor
  · intro h
    split at h
    · rename_i hall
      rw [← Option.some.inj h]
      clear h
      induction read with
      | nil => rfl
      | cons c rest ih =>
        simp only [List.all_cons, Bool.and_eq_true] at hall
        obtain ⟨a, rfl⟩ := Option.isSome_iff_exists.mp hall.1
        exact congrArg (some a :: ·) (ih hall.2)
    · cases h
  · rintro rfl
    simp [List.filterMap_map, Function.comp_def]

theorem newline_not_mem_of_decode? {bs : List UInt8} {cs : List Char} (h : lineFeed ∉ bs)
    (hd : decode? bs = some cs) : '\n' ∉ cs := by
  intro hm
  refine ascii_not_mem_symbols (c := lineFeed) (by decide) (by decide) soundState_none h ?_
  rw [decode?_eq_some_iff.mp hd]
  exact List.mem_map.mpr ⟨'\n', hm, rfl⟩

theorem decode?_isSome (bs : List UInt8) :
    (decode? bs).isSome = (symbols none bs).all (·.isSome) := by
  simp only [decode?]
  split <;> simp_all

/-- A text is well formed if its lines are. -/
theorem decode?_isSome_iff (bs : List UInt8) :
    (decode? bs).isSome ↔ ∀ line ∈ lines lineFeed bs, (decode? line).isSome := by
  induction hn : bs.length using Nat.strongRecOn generalizing bs with
  | ind n ih =>
    by_cases hbs : bs = []
    · subst hbs
      simp [decode?_isSome, symbols, lines]
    · rw [lines_eq_cons lineFeed hbs, List.forall_mem_cons]
      by_cases hf : lineFeed ∈ bs
      · have hrest := ih _ (hn ▸ firstLine_length_lt lineFeed hbs) (firstLine lineFeed bs).2 rfl
        rw [← hrest, decode?_isSome bs]
        nth_rewrite 1 [← firstLine_append hf]
        rw [symbols_append_lineFeed soundState_none, decode?_isSome, decode?_isSome]
        simp
      · simp [firstLine_of_not_mem hf, lines]

/-- A lead byte opens a character and sets the bounds of the byte behind it. -/
theorem start_two : ∀ k < 32, 2 ≤ k →
    start (.ofNat (k + 0xc0)) = ([], some ⟨k, 1, 0x80, 0xbf⟩) := by
  decide

theorem start_three : ∀ k < 16, start (.ofNat (k + 0xe0)) =
    ([], some ⟨k, 2, if k = 0 then 0xa0 else 0x80, if k = 13 then 0x9f else 0xbf⟩) := by
  decide

theorem start_four : ∀ k < 5, start (.ofNat (k + 0xf0)) =
    ([], some ⟨k, 3, if k = 0 then 0x90 else 0x80, if k = 4 then 0x8f else 0xbf⟩) := by
  decide

theorem symbols_of_start {b : UInt8} {p : Pending} (h : start b = ([], some p)) (rest : List UInt8) :
    symbols none (b :: rest) = symbols (some p) rest := by
  rw [symbols_cons, step, h, List.nil_append]

section Continuation

variable {bits j : Nat} {low high : UInt8}

theorem push_of_step {owed : Nat} (hj : j < 64) (hl : low.toNat ≤ j + 0x80)
    (hh : j + 0x80 ≤ high.toNat) : step (some ⟨bits, owed, low, high⟩) (.ofNat (j + 0x80)) =
      if owed ≤ 1 then ([some (Char.ofNat (64 * bits + j))], none)
      else ([], some ⟨64 * bits + j, owed - 1, 0x80, 0xbf⟩) := by
  have hb : (UInt8.ofNat (j + 0x80)).toNat = j + 0x80 := by
    rw [UInt8.toNat_ofNat']
    omega
  have hr : low ≤ UInt8.ofNat (j + 0x80) ∧ UInt8.ofNat (j + 0x80) ≤ high := by
    rw [UInt8.le_iff_toNat_le, UInt8.le_iff_toNat_le, hb]
    exact ⟨hl, hh⟩
  rw [step, if_pos hr, Pending.push, hb, Nat.add_sub_cancel]

/-- A byte within the bounds adds six bits. -/
theorem symbols_more {owed : Nat} (hj : j < 64) (hl : low.toNat ≤ j + 0x80)
    (hh : j + 0x80 ≤ high.toNat) (rest : List UInt8) :
    symbols (some ⟨bits, owed + 2, low, high⟩) (.ofNat (j + 0x80) :: rest) =
      symbols (some ⟨64 * bits + j, owed + 1, 0x80, 0xbf⟩) rest := by
  rw [symbols_cons, push_of_step hj hl hh, if_neg (by omega)]
  rfl

/-- The last byte completes the character. -/
theorem symbols_last (hj : j < 64) (hl : low.toNat ≤ j + 0x80) (hh : j + 0x80 ≤ high.toNat)
    (rest : List UInt8) : symbols (some ⟨bits, 1, low, high⟩) (.ofNat (j + 0x80) :: rest) =
      some (Char.ofNat (64 * bits + j)) :: symbols none rest := by
  rw [symbols_cons, push_of_step hj hl hh, if_pos (Nat.le_refl 1)]
  rfl

end Continuation

theorem symbols_encodeChar (c : Char) (rest : List UInt8) :
    symbols none (String.utf8EncodeChar c ++ rest) = some c :: symbols none rest := by
  have hvalid : c.val.toNat < 0xd800 ∨ 0xdfff < c.val.toNat ∧ c.val.toNat < 0x110000 := c.valid
  have hc : Char.ofNat c.val.toNat = c := Char.ofNat_toNat c
  have hlow : (0x80 : UInt8).toNat = 0x80 := rfl
  have hhigh : (0xbf : UInt8).toNat = 0xbf := rfl
  simp only [String.utf8EncodeChar]
  generalize c.val.toNat = v at hvalid hc
  split
  · have hb : (UInt8.ofNat v).toNat = v := by
      rw [UInt8.toNat_ofNat']
      omega
    have hlt : UInt8.ofNat v < 0x80 := by
      rw [UInt8.lt_iff_toNat_lt, hb, hlow]
      omega
    rw [List.singleton_append, symbols_cons, step, start, if_pos hlt, hb, hc]
    rfl
  split
  · have hk : v / 64 % 32 = v / 64 := by omega
    have hv : 64 * (v / 64) + v % 64 = v := Nat.div_add_mod v 64
    simp only [List.cons_append, List.nil_append]
    rw [hk, symbols_of_start (start_two (v / 64) (by omega) (by omega)),
      symbols_last (by omega) (by omega) (by omega), hv, hc]
  split
  · have hk : v / 4096 % 16 = v / 4096 := by omega
    have hv : 64 * (64 * (v / 4096) + v / 64 % 64) + v % 64 = v := by omega
    have hl : (if v / 4096 = 0 then 0xa0 else 0x80 : UInt8).toNat ≤ v / 64 % 64 + 0x80 := by
      split <;> simp only [UInt8.reduceToNat] <;> omega
    have hh : v / 64 % 64 + 0x80 ≤ (if v / 4096 = 13 then 0x9f else 0xbf : UInt8).toNat := by
      split <;> simp only [UInt8.reduceToNat] <;> omega
    simp only [List.cons_append, List.nil_append]
    rw [hk, symbols_of_start (start_three (v / 4096) (by omega)), symbols_more (by omega) hl hh,
      symbols_last (by omega) (by omega) (by omega), hv, hc]
  · have hk : v / 262144 % 8 = v / 262144 := by omega
    have hv : 64 * (64 * (64 * (v / 262144) + v / 4096 % 64) + v / 64 % 64) + v % 64 = v := by omega
    have hl : (if v / 262144 = 0 then 0x90 else 0x80 : UInt8).toNat ≤ v / 4096 % 64 + 0x80 := by
      split <;> simp only [UInt8.reduceToNat] <;> omega
    have hh : v / 4096 % 64 + 0x80 ≤ (if v / 262144 = 4 then 0x8f else 0xbf : UInt8).toNat := by
      split <;> simp only [UInt8.reduceToNat] <;> omega
    simp only [List.cons_append, List.nil_append]
    rw [hk, symbols_of_start (start_four (v / 262144) (by omega)), symbols_more (by omega) hl hh,
      symbols_more (by omega) (by omega) (by omega), symbols_last (by omega) (by omega) (by omega),
      hv, hc]

theorem decode?_encode (cs : List Char) : decode? (encode cs) = some cs := by
  rw [decode?_eq_some_iff]
  induction cs with
  | nil => rfl
  | cons c cs ih => rw [encode, List.flatMap_cons, symbols_encodeChar, ← encode, ih, List.map_cons]

theorem decodeLossy_encode (cs : List Char) : decodeLossy (encode cs) = cs := by
  rw [decodeLossy, decode?_eq_some_iff.mp (decode?_encode cs), List.map_map]
  exact List.map_id cs

theorem decodeLossy_append_lineFeed (bs rest : List UInt8) :
    decodeLossy (bs ++ lineFeed :: rest) = decodeLossy bs ++ '\n' :: decodeLossy rest := by
  rw [decodeLossy, symbols_append_lineFeed soundState_none, List.map_append, List.map_cons]
  rfl

theorem newline_not_mem_decodeLossy {bs : List UInt8} (h : lineFeed ∉ bs) :
    '\n' ∉ decodeLossy bs :=
  ascii_not_mem_decodeLossy (c := lineFeed) (by decide) (by decide) h

/-- Malformed bytes leave a replacement character. -/
theorem replacement_mem_decodeLossy {bs : List UInt8} (h : decode? bs = none) :
    replacement ∈ decodeLossy bs := by
  have hall : ¬ (symbols none bs).all (·.isSome) = true := by
    rw [← decode?_isSome, h]
    exact Bool.false_ne_true
  obtain ⟨symbol, hm, hnone⟩ : ∃ symbol ∈ symbols none bs, symbol.isSome = false := by simpa using hall
  rw [Option.isSome_eq_false_iff, Option.isNone_iff_eq_none] at hnone
  exact List.mem_map.mpr ⟨symbol, hm, by rw [hnone, Option.getD_none]⟩

/-- A byte completes a symbol, or a character stays open. -/
theorem start_cases (b : UInt8) : (start b).1 ≠ [] ∨ ∃ p, (start b).2 = some p := by
  unfold start
  repeat' split
  all_goals simp

theorem step_cases (p : Option Pending) (b : UInt8) :
    (step p b).1 ≠ [] ∨ ∃ q, (step p b).2 = some q := by
  cases p with
  | none => exact start_cases b
  | some p =>
    simp only [step, Pending.push]
    repeat' split
    all_goals simp

/-- No bytes are left out. -/
theorem symbols_ne_nil {p : Option Pending} {bs : List UInt8} (h : bs ≠ [] ∨ p.isSome = true) :
    symbols p bs ≠ [] := by
  induction bs generalizing p with
  | nil =>
    obtain ⟨q, rfl⟩ := Option.isSome_iff_exists.mp (h.resolve_left (fun hne => hne rfl))
    simp [symbols]
  | cons b bs ih =>
    rw [symbols_cons]
    rcases step_cases p b with hs | ⟨q, hq⟩
    · exact List.append_ne_nil_of_left_ne_nil hs _
    · exact List.append_ne_nil_of_right_ne_nil _ (ih (.inr (hq ▸ rfl)))

theorem decodeLossy_ne_nil {bs : List UInt8} (h : bs ≠ []) : decodeLossy bs ≠ [] := by
  rw [decodeLossy, ne_eq, List.map_eq_nil_iff]
  exact symbols_ne_nil (.inl h)

/-- Malformed bytes do not reach over a line feed, so the lines of a decoded text are the decoded
lines. -/
theorem lines_decodeLossy (bs : List UInt8) :
    lines '\n' (decodeLossy bs) = (lines lineFeed bs).map decodeLossy := by
  induction hn : bs.length using Nat.strongRecOn generalizing bs with
  | ind n ih =>
    by_cases hbs : bs = []
    · rw [hbs]
      rfl
    have hlines := lines_eq_cons lineFeed hbs
    have hfirst : lineFeed ∉ (firstLine lineFeed bs).1 :=
      not_mem_of_mem_lines lineFeed (hlines ▸ List.mem_cons_self)
    by_cases hf : lineFeed ∈ bs
    · have hrest := ih _ (hn ▸ firstLine_length_lt lineFeed hbs) (firstLine lineFeed bs).2 rfl
      rw [hlines, List.map_cons, ← hrest]
      nth_rewrite 1 [← firstLine_append hf]
      rw [decodeLossy_append_lineFeed, lines_append_cons (newline_not_mem_decodeLossy hfirst)]
    · rw [lines_of_not_mem hf hbs, List.map_singleton,
        lines_of_not_mem (newline_not_mem_decodeLossy hf) (decodeLossy_ne_nil hbs)]

end GlslFlatten.Text.Utf8
