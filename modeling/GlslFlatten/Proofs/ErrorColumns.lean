import GlslFlatten.Proofs.DirectiveGrammar
import GlslFlatten.Text.Utf8
import Mathlib.Data.Nat.PSub

/-!
Where defects of directives are found. A column counts characters, while a text is cut at offsets that
count bytes. Main statement: the two go together in every line, so that no cut goes through a character,
and the column of a defect is the place in the line that its kind speaks of.
-/

namespace GlslFlatten

open Text

namespace Text

def byteLength (cs : List Char) : Nat := (Utf8.encode cs).length

/-- The text in front of a byte offset and the text behind it. There is none of either if the offset
lies inside a character or behind the end. -/
def cut? : List Char → (offset : Nat) → Option (List Char × List Char)
  | cs, 0 => some ([], cs)
  | [], _ + 1 => none
  | c :: cs, n + 1 =>
    if c.utf8Size ≤ n + 1 then
      (cut? cs (n + 1 - c.utf8Size)).map fun sides => (c :: sides.1, sides.2)
    else none

/-- The byte offset of the first `c`. -/
def offset? (c : Char) : List Char → Option Nat
  | [] => none
  | d :: ds => if d = c then some 0 else (offset? c ds).map (d.utf8Size + ·)

theorem byteLength_cons (c : Char) (cs : List Char) :
    byteLength (c :: cs) = c.utf8Size + byteLength cs := by
  simp [byteLength, Utf8.encode]

theorem byteLength_append (xs ys : List Char) :
    byteLength (xs ++ ys) = byteLength xs + byteLength ys := by
  simp [byteLength, Utf8.encode]

/-- An offset cuts exactly between characters. -/
theorem cut?_eq_some_iff {cs front rest : List Char} {n : Nat} :
    cut? cs n = some (front, rest) ↔ cs = front ++ rest ∧ byteLength front = n := by
  constructor
  · intro h
    induction cs generalizing n front with
    | nil =>
      cases n with
      | zero =>
        cases h
        exact ⟨rfl, rfl⟩
      | succ n => cases h
    | cons c cs ih =>
      cases n with
      | zero =>
        cases h
        exact ⟨rfl, rfl⟩
      | succ n =>
        rw [cut?] at h
        split at h
        · rename_i hsize
          obtain ⟨⟨front', rest'⟩, hcut, he⟩ := Option.map_eq_some_iff.mp h
          cases he
          obtain ⟨rfl, hlength⟩ := ih hcut
          refine ⟨rfl, ?_⟩
          rw [byteLength_cons, hlength, Nat.add_sub_cancel' hsize]
        · cases h
  · rintro ⟨rfl, rfl⟩
    induction front with
    | nil => cases rest <;> rfl
    | cons c front ih =>
      obtain ⟨n, hn⟩ := Nat.exists_eq_add_one.mpr c.utf8Size_pos
      have hoffset : byteLength (c :: front) = n + byteLength front + 1 := by
        rw [byteLength_cons, hn]
        omega
      have hrest : n + byteLength front + 1 - c.utf8Size = byteLength front := by omega
      rw [hoffset, List.cons_append, cut?, if_pos (by omega), hrest, ih]
      rfl

theorem offset?_append {c : Char} {front : List Char} (h : c ∉ front) (rest : List Char) :
    offset? c (front ++ c :: rest) = some (byteLength front) := by
  induction front with
  | nil => simp [offset?, byteLength, Utf8.encode]
  | cons d front ih =>
    obtain ⟨hd, hfront⟩ := not_or.mp (mt List.mem_cons.mpr h)
    rw [List.cons_append, offset?, if_neg (Ne.symm hd), ih hfront, byteLength_cons]
    rfl

theorem offset?_of_not_mem {c : Char} {cs : List Char} (h : c ∉ cs) : offset? c cs = none := by
  induction cs with
  | nil => rfl
  | cons d cs ih =>
    obtain ⟨hd, hcs⟩ := not_or.mp (mt List.mem_cons.mpr h)
    rw [offset?, if_neg (Ne.symm hd), ih hcs]
    rfl

end Text

/-- A defect points into the line that it is found in, or right behind its end. -/
def Defect.PointsInto (d : Defect) (cs : List Char) : Prop :=
  1 ≤ d.column ∧ d.column ≤ cs.length + 1 ∧ match d.kind with
    | .missingDelimiter =>
      ∃ c, cs[d.column - 1]? = some c ∧ isBlank c = false ∧ d.found = .ofList [c]
    | .unterminated _ => d.column = cs.length + 1
    | .emptyPath => ∃ (quoting : Quoting) (blanks rest : List Char), 2 ≤ d.column ∧
      cs[d.column - 2]? = some quoting.opening ∧ allBlank blanks = true ∧
      cs.drop (d.column - 1) = blanks ++ quoting.closing :: rest
    | .trailingTokens =>
      d.found.toList = cs.drop (d.column - 1) ∧ ∃ c ∈ d.found.toList.head?, isBlank c = false

namespace Directive

/-- Reads a target as `readTarget` does, but by byte offsets. There is no answer if a cut goes through
a character, or if a number is taken from a smaller one. -/
def readTargetByOffset (column : Nat) (target : List Char) :
    Option (Except Defect (Quoting × String)) :=
  match target with
  | [] => some (.error ⟨.missingDelimiter, column, ""⟩)
  | c :: inner =>
    match Quoting.ofOpening? c with
    | none => some (.error ⟨.missingDelimiter, column, .ofList [c]⟩)
    | some quoting =>
      match offset? quoting.closing inner with
      | none => some (.error ⟨.unterminated quoting, column + target.length, ""⟩)
      | some close => do
        let (path, _) ← cut? inner close
        if allBlank path then some (.error ⟨.emptyPath, column + 1, ""⟩)
        else
          let (_, rest) ← cut? inner (close + 1)
          let trailing := dropBlanks rest
          if isComment trailing then some (.ok (quoting, .ofList path))
          else
            let distance ← target.length.psub trailing.length
            some (.error ⟨.trailingTokens, column + distance, .ofList trailing⟩)

/-- The byte offset behind the keyword and the blanks around it. -/
def targetOffset? (cs : List Char) : Option Nat :=
  (target? cs).map fun found => byteLength (cs.take found.1)

/-- Reads a line as `parse` does, but by byte offsets. -/
def parseByOffset (line : String) (number : Nat) : Option (Except Defect (Option Directive)) :=
  let cs := dropTrailingBlanks line.toList
  match targetOffset? cs with
  | none => some (.ok none)
  | some offset => do
    let (before, target) ← cut? cs offset
    let column := before.length + 1
    let read ← readTargetByOffset column target
    some (read.map fun found => some ⟨number, column, found.2, found.1⟩)

variable {cs before target path rest inner : List Char} {quoting : Quoting} {column : Nat} {c : Char}
  {defect : Defect}

theorem byteLength_closing (quoting : Quoting) : byteLength [quoting.closing] = 1 := by
  cases quoting <;> decide +kernel

/-- What is left behind the closing delimiter is the end of the target. -/
theorem dropBlanks_suffix (h : Delimited target quoting path rest) : dropBlanks rest <:+ target := by
  have hrest : rest <:+ target := by
    refine ⟨quoting.opening :: (path ++ [quoting.closing]), ?_⟩
    simp [h.target]
  exact (List.dropWhile_suffix isBlank).trans hrest

theorem readTargetByOffset_of_delimited (h : Delimited target quoting path rest) :
    readTargetByOffset column target = some (readTarget column target) := by
  have hpath : cut? (path ++ quoting.closing :: rest) (byteLength path) =
      some (path, quoting.closing :: rest) := cut?_eq_some_iff.mpr ⟨rfl, rfl⟩
  have hrest : cut? (path ++ quoting.closing :: rest) (byteLength path + 1) =
      some (path ++ [quoting.closing], rest) := by
    refine cut?_eq_some_iff.mpr ⟨by simp, ?_⟩
    rw [byteLength_append, byteLength_closing]
  have hdistance := Nat.psub_eq_sub (dropBlanks_suffix h).length_le
  rw [readTarget_of_delimited h]
  rw [h.target] at hdistance ⊢
  simp only [readTargetByOffset, ofOpening?_opening, offset?_append h.path, hpath, hrest, hdistance,
    Option.bind_eq_bind, Option.bind_some]
  repeat' split
  all_goals rfl

theorem readTargetByOffset_eq (column : Nat) (target : List Char) :
    readTargetByOffset column target = some (readTarget column target) := by
  cases target with
  | nil => rfl
  | cons c inner =>
    cases hc : Quoting.ofOpening? c with
    | none => simp only [readTargetByOffset, readTarget, hc]
    | some quoting =>
      obtain rfl := eq_opening_of_ofOpening? hc
      by_cases hclosing : quoting.closing ∈ inner
      · obtain ⟨path, rest, rfl, hpath⟩ := List.eq_append_cons_of_mem hclosing
        exact readTargetByOffset_of_delimited ⟨rfl, hpath⟩
      · rw [readTarget_of_unclosed hclosing]
        simp only [readTargetByOffset, hc, offset?_of_not_mem hclosing]

theorem parseByOffset_eq (line : String) (number : Nat) :
    parseByOffset line number = some (parse line number) := by
  cases htarget : target? (dropTrailingBlanks line.toList) with
  | none => simp only [parseByOffset, targetOffset?, parse, htarget, Option.map_none]
  | some found =>
    obtain ⟨n, target⟩ := found
    obtain ⟨before, hannounces, rfl⟩ := announces_of_target? htarget
    have hcut : cut? (dropTrailingBlanks line.toList)
        (byteLength ((dropTrailingBlanks line.toList).take before.length)) = some (before, target) := by
      rw [hannounces.line, List.take_left]
      exact cut?_eq_some_iff.mpr ⟨rfl, rfl⟩
    rw [parse_of_announces hannounces]
    simp only [parseByOffset, targetOffset?, htarget, Option.map_some, hcut, Option.bind_eq_bind,
      Option.bind_some, readTargetByOffset_eq]

theorem pointsInto_opening (before inner : List Char) (hc : isBlank c = false) :
    Defect.PointsInto ⟨.missingDelimiter, before.length + 1, .ofList [c]⟩ (before ++ c :: inner) := by
  refine ⟨by simp, by simp, c, ?_, hc, rfl⟩
  simp

theorem pointsInto_closing (quoting : Quoting) (before target : List Char) :
    Defect.PointsInto ⟨.unterminated quoting, before.length + 1 + target.length, ""⟩
      (before ++ target) := by
  have hlength : before.length + 1 + target.length = (before ++ target).length + 1 := by
    rw [List.length_append]
    omega
  rw [hlength]
  exact ⟨Nat.le_add_left 1 _, Nat.le_refl _, rfl⟩

theorem pointsInto_path (before : List Char) (h : Delimited target quoting path rest)
    (hblank : allBlank path = true) :
    Defect.PointsInto ⟨.emptyPath, before.length + 1 + 1, ""⟩ (before ++ target) := by
  rw [h.target]
  refine ⟨Nat.le_add_left 1 _, ?_, quoting, path, rest, Nat.le_add_left 2 _, by simp, hblank, ?_⟩
  · simp only [List.length_append, List.length_cons]
    omega
  · have hbefore : before.length + 1 = (before ++ [quoting.opening]).length := by simp
    have hfront : before ++ quoting.opening :: (path ++ quoting.closing :: rest) =
        (before ++ [quoting.opening]) ++ (path ++ quoting.closing :: rest) := by simp
    rw [Nat.add_sub_cancel, hbefore, hfront, List.drop_left]

theorem pointsInto_trailing (before : List Char) {trailing : List Char} (h : trailing <:+ target)
    (hc : ∃ c ∈ trailing.head?, isBlank c = false) :
    Defect.PointsInto ⟨.trailingTokens, before.length + 1 + (target.length - trailing.length),
      .ofList trailing⟩ (before ++ target) := by
  obtain ⟨front, rfl⟩ := h
  have hlength : before.length + 1 + ((front ++ trailing).length - trailing.length) =
      (before ++ front).length + 1 := by
    simp only [List.length_append]
    omega
  rw [hlength, ← List.append_assoc]
  refine ⟨Nat.le_add_left 1 _, ?_, ?_, ?_⟩
  · simp only [List.length_append]
    omega
  · rw [Nat.add_sub_cancel, List.drop_left, String.toList_ofList]
  · rwa [String.toList_ofList]

/-- The defect of a target points into its line. -/
theorem pointsInto_of_announces (h : Announces cs before target)
    (hread : readTarget (before.length + 1) target = .error defect) : defect.PointsInto cs := by
  rcases valid_or_fails target with ⟨quoting, path, rest, hd, hpath, hrest⟩ | ⟨kind, hfails⟩
  · rw [readTarget_eq_ok_iff.mpr ⟨path, rest, hd, hpath, hrest, rfl⟩] at hread
    cases hread
  rw [h.line]
  cases hfails with
  | opening hnone =>
    obtain ⟨c, inner, rfl, hc⟩ := h.target
    cases hopening : Quoting.ofOpening? c with
    | some quoting => exact absurd (eq_opening_of_ofOpening? hopening ▸ rfl) (hnone quoting inner)
    | none =>
      cases (readTarget_of_unopened hopening inner).symm.trans hread
      exact pointsInto_opening before inner hc
  | closing htarget hclosing =>
    subst htarget
    cases (readTarget_of_unclosed hclosing).symm.trans hread
    exact pointsInto_closing _ before _
  | path hd hblank =>
    rw [readTarget_of_delimited hd, if_pos hblank] at hread
    cases hread
    exact pointsInto_path before hd hblank
  | @rest quoting path rest hd hpath hrest =>
    rw [clean_iff] at hrest
    rw [readTarget_of_delimited hd, hpath, if_neg Bool.false_ne_true, if_neg hrest] at hread
    cases hread
    refine pointsInto_trailing before (dropBlanks_suffix hd) ?_
    cases htrailing : dropBlanks rest with
    | nil =>
      rw [htrailing] at hrest
      exact absurd rfl hrest
    | cons c more =>
      have hhead : c ∈ (dropBlanks rest).head? := by
        rw [htrailing]
        rfl
      exact ⟨c, rfl, not_isBlank_of_head?_dropBlanks hhead⟩

/-- No line is cut through a character and no number is taken from a smaller one, and the defect of a
line points into what the line is without the blanks at its end. -/
theorem parse_points_into (line : String) (number : Nat) :
    parseByOffset line number = some (parse line number) ∧
      ∀ defect, parse line number = .error defect →
        defect.PointsInto (dropTrailingBlanks line.toList) := by
  refine ⟨parseByOffset_eq line number, fun defect h => ?_⟩
  obtain ⟨before, target, hannounces, hread⟩ := announces_of_parse_error h
  exact pointsInto_of_announces hannounces hread

/-- Characters of one, two, three and four bytes in front of the column, and blanks of three bytes. -/
theorem parse_points_into_sample :
    let line := "\u3000#include\u2003<é影>\u3000😀 x\u3000"
    parse line 7 = .error ⟨.trailingTokens, 16, "😀 x"⟩ ∧
      parseByOffset line 7 = some (.error ⟨.trailingTokens, 16, "😀 x"⟩) ∧
      Defect.PointsInto ⟨.trailingTokens, 16, "😀 x"⟩ (dropTrailingBlanks line.toList) := by
  intro line
  have hparse : parse line 7 = .error ⟨.trailingTokens, 16, "😀 x"⟩ := by decide +kernel
  obtain ⟨hoffset, hpoints⟩ := parse_points_into line 7
  exact ⟨hparse, hparse ▸ hoffset, hpoints _ hparse⟩

end Directive

end GlslFlatten
