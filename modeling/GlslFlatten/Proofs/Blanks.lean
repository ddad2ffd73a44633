import GlslFlatten.Text.Blank
import Mathlib.Data.List.TakeWhile

/-!
Runs of characters of a kind, blanks at the ends of a text, and what is left when they are cut off.
-/

namespace GlslFlatten.Text

/-- A run that ends where something else begins is cut off as a whole. -/
theorem span_run {p : Char → Bool} {run rest : List Char} (hrun : ∀ c ∈ run, p c = true)
    (hrest : ∀ c ∈ rest.head?, p c = false) :
    (run ++ rest).takeWhile p = run ∧ (run ++ rest).dropWhile p = rest := by
  rw [List.takeWhile_append_of_pos hrun, List.dropWhile_append_of_pos hrun]
  cases rest with
  | nil => simp
  | cons c cs => simp [hrest c rfl]

/-- What is left behind a run does not go on with it. -/
theorem head?_dropWhile {p : Char → Bool} {cs : List Char} {c : Char}
    (h : c ∈ (cs.dropWhile p).head?) : p c = false := by
  have hhead := List.head?_dropWhile_not p cs
  rwa [show (cs.dropWhile p).head? = some c from h] at hhead

theorem dropTrailingBlanks_eq_nil_iff {cs : List Char} :
    dropTrailingBlanks cs = [] ↔ allBlank cs = true := by
  rw [dropTrailingBlanks, List.reverse_eq_nil_iff, List.dropWhile_eq_nil_iff]
  simp [allBlank]

theorem dropTrailingBlanks_append (xs ys : List Char) : dropTrailingBlanks (xs ++ ys) =
    if allBlank ys then dropTrailingBlanks xs else xs ++ dropTrailingBlanks ys := by
  have hys : (ys.reverse.dropWhile isBlank).isEmpty = allBlank ys := by
    rw [Bool.eq_iff_iff, List.isEmpty_iff, ← dropTrailingBlanks_eq_nil_iff, dropTrailingBlanks,
      List.reverse_eq_nil_iff]
  unfold dropTrailingBlanks
  rw [List.reverse_append, List.dropWhile_append, hys]
  split
  · rfl
  · rw [List.reverse_append, List.reverse_reverse]

theorem dropTrailingBlanks_cons (c : Char) (cs : List Char) : dropTrailingBlanks (c :: cs) =
    if allBlank cs then (if isBlank c then [] else [c]) else c :: dropTrailingBlanks cs := by
  have hc : dropTrailingBlanks [c] = if isBlank c then [] else [c] := by
    by_cases hb : isBlank c = true <;> simp [dropTrailingBlanks, hb]
  rw [← hc]
  exact dropTrailingBlanks_append [c] cs

/-- The two ends of a text can be trimmed in either order. -/
theorem dropBlanks_dropTrailingBlanks (cs : List Char) :
    dropBlanks (dropTrailingBlanks cs) = dropTrailingBlanks (dropBlanks cs) := by
  induction cs with
  | nil => rfl
  | cons c cs ih =>
    by_cases hc : isBlank c = true
    · have hdrop : dropBlanks (c :: cs) = dropBlanks cs := by simp [dropBlanks, hc]
      rw [hdrop, ← ih, dropTrailingBlanks_cons]
      by_cases hall : allBlank cs = true
      · simp [hall, hc, dropTrailingBlanks_eq_nil_iff.mpr hall]
      · simp [hall, dropBlanks, hc]
    · have hdrop : ∀ more, dropBlanks (c :: more) = c :: more := by simp [dropBlanks, hc]
      rw [hdrop, dropTrailingBlanks_cons]
      by_cases hall : allBlank cs = true
      · simp [hall, hc, hdrop]
      · simp [hall, hdrop]

theorem toList_trim (s : String) : (trim s).toList = dropTrailingBlanks (dropBlanks s.toList) := by
  rw [trim, String.toList_ofList, dropBlanks_dropTrailingBlanks]

end GlslFlatten.Text
