import GlslFlatten.Directive
import GlslFlatten.Reader

/-!
Reading of a file that does not change: a reader hands out the lines of the file one after another,
whatever blocks it fetches.
-/

namespace GlslFlatten.Reader

open Text Text.Utf8

variable {content : List UInt8} {r : Reader}

/-- The bytes that are still to be handed out. -/
def rest (content : List UInt8) (r : Reader) : List UInt8 := r.ahead ++ content.drop r.position

theorem rest_start (content : List UInt8) : rest content {} = content := by simp [rest]

theorem le_fetched (n : Nat) : n ≤ fetched n := by
  unfold fetched block
  omega

theorem next_of_rest_eq_nil (h : r.rest content = []) : r.next content = none := by
  obtain ⟨ha, hd⟩ := List.append_eq_nil_iff.mp h
  simp [next, ha, hd]

theorem next_of_mem_ahead (h : lineFeed ∈ r.ahead) :
    r.next content = some ((firstLine lineFeed r.ahead).1,
      ⟨(firstLine lineFeed r.ahead).2, r.position⟩) := by
  simp [next, h]

/-- The reader behind a line that was completed by a fetch. -/
def refill (unread : List UInt8) (position : Nat) : Reader :=
  let size := (firstLine lineFeed unread).1.length + 1
  ⟨(unread.take (fetched size)).drop size, position + (unread.take (fetched size)).length⟩

theorem next_of_mem_unread (ha : lineFeed ∉ r.ahead) (h : lineFeed ∈ content.drop r.position) :
    r.next content = some (r.ahead ++ (firstLine lineFeed (content.drop r.position)).1,
      refill (content.drop r.position) r.position) := by
  simp [next, ha, h, refill]

theorem next_of_not_mem (h : lineFeed ∉ r.rest content) (hne : r.rest content ≠ []) :
    r.next content = some (r.rest content,
      ⟨[], r.position + (content.drop r.position).length⟩) := by
  simp only [rest, List.mem_append, not_or, ne_eq, List.append_eq_nil_iff] at h hne
  simp only [next, List.contains_eq_mem, h.1, h.2, decide_false, Bool.false_eq_true, if_false, hne,
    rest]

/-- A fetched block ends behind the line that it was fetched for, or further on. -/
theorem rest_refill (h : lineFeed ∈ content.drop r.position) :
    (refill (content.drop r.position) r.position).rest content =
      (firstLine lineFeed (content.drop r.position)).2 := by
  have hd : ∀ n, content.drop (r.position + n) = (content.drop r.position).drop n :=
    fun n => (List.drop_drop ..).symm
  generalize content.drop r.position = unread at h hd
  have hs : (firstLine lineFeed unread).1.length + 1 ≤
      (unread.take (fetched ((firstLine lineFeed unread).1.length + 1))).length := by
    rw [List.length_take]
    exact Nat.le_min.mpr ⟨le_fetched _, firstLine_fst_length h⟩
  simp only [rest, refill]
  rw [firstLine_snd, hd, ← List.drop_append_of_le_length hs]
  congr 1
  rw [List.length_take]
  generalize fetched ((firstLine lineFeed unread).1.length + 1) = size
  rcases Nat.le_total size unread.length with hle | hle
  · rw [Nat.min_eq_left hle, List.take_append_drop]
  · rw [Nat.min_eq_right hle, List.drop_length, List.append_nil, List.take_of_length_le hle]

/-- The next line is the first line of what is left, however much of that was fetched. -/
theorem next_of_rest_ne_nil (h : r.rest content ≠ []) :
    ∃ r', r.next content = some ((firstLine lineFeed (r.rest content)).1, r') ∧
      r'.rest content = (firstLine lineFeed (r.rest content)).2 := by
  by_cases ha : lineFeed ∈ r.ahead
  · refine ⟨⟨(firstLine lineFeed r.ahead).2, r.position⟩, ?_, ?_⟩
    · rw [next_of_mem_ahead ha, rest, firstLine_append_of_mem ha]
    · rw [rest, rest, firstLine_append_of_mem ha]
  · by_cases hu : lineFeed ∈ content.drop r.position
    · refine ⟨refill (content.drop r.position) r.position, ?_, ?_⟩
      · rw [next_of_mem_unread ha hu, rest, firstLine_append_of_not_mem ha]
      · rw [rest_refill hu, rest, firstLine_append_of_not_mem ha]
    · have hr : lineFeed ∉ r.rest content := by simp [rest, ha, hu]
      refine ⟨⟨[], r.position + (content.drop r.position).length⟩, ?_, ?_⟩
      · rw [next_of_not_mem hr h, firstLine_of_not_mem hr]
      · rw [firstLine_of_not_mem hr]
        simp only [rest, List.nil_append, List.drop_eq_nil_iff, List.length_drop]
        omega

end GlslFlatten.Reader
