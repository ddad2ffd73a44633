/-!
Lines of a sequence that is cut at a terminator. A terminator ends a line, so the last line may lack
one and nothing follows a final one.
-/

namespace GlslFlatten.Text

variable {α : Type} [DecidableEq α]

/-- The first line without its terminator, and what follows the terminator. -/
def firstLine (nl : α) : List α → List α × List α
  | [] => ([], [])
  | a :: rest => if a = nl then ([], rest) else (a :: (firstLine nl rest).1, (firstLine nl rest).2)

/-- All lines, without their terminators. -/
def lines (nl : α) : List α → List (List α)
  | [] => []
  | a :: rest =>
    if a = nl then [] :: lines nl rest
    else match lines nl rest with
      | [] => [[a]]
      | l :: ls => (a :: l) :: ls

/-- The pieces between separators: one more than there are separators. -/
def pieces (sep : α) : List α → List (List α)
  | [] => [[]]
  | a :: rest =>
    if a = sep then [] :: pieces sep rest
    else match pieces sep rest with
      | [] => [[a]]
      | p :: ps => (a :: p) :: ps

/-- Text between separators. -/
def splitAt (sep : Char) (s : String) : List String := (pieces sep s.toList).map String.ofList

/-- The pieces between blanks and line feeds that are not empty. -/
def words (cs : List Char) : List (List Char) :=
  ((pieces ' ' cs).flatMap (pieces '\n')).filter (· ≠ [])

def dropTrailing (drop : α → Bool) (xs : List α) : List α := (xs.reverse.dropWhile drop).reverse

omit [DecidableEq α] in
theorem dropTrailing_subset (drop : α → Bool) (xs : List α) : dropTrailing drop xs ⊆ xs := by
  intro x hx
  exact List.mem_reverse.mp ((List.dropWhile_sublist drop).subset (List.mem_reverse.mp hx))

theorem firstLine_length (nl : α) (xs : List α) : (firstLine nl xs).2.length ≤ xs.length := by
  induction xs with
  | nil => simp [firstLine]
  | cons a rest ih => by_cases h : a = nl <;> simp [firstLine, h]; omega

theorem firstLine_length_lt (nl : α) {xs : List α} (h : xs ≠ []) :
    (firstLine nl xs).2.length < xs.length := by
  cases xs with
  | nil => exact absurd rfl h
  | cons a rest =>
    have := firstLine_length nl rest
    by_cases h : a = nl <;> simp [firstLine, h]
    omega

/-- What follows the first line is the rest behind its terminator. -/
theorem firstLine_snd (nl : α) (xs : List α) :
    (firstLine nl xs).2 = xs.drop ((firstLine nl xs).1.length + 1) := by
  induction xs with
  | nil => rfl
  | cons a rest ih =>
    by_cases h : a = nl
    · simp [firstLine, h]
    · simpa [firstLine, h] using ih

theorem firstLine_append {nl : α} {xs : List α} (h : nl ∈ xs) :
    (firstLine nl xs).1 ++ nl :: (firstLine nl xs).2 = xs := by
  induction xs with
  | nil => cases h
  | cons a rest ih =>
    by_cases ha : a = nl
    · simp [firstLine, ha]
    · have hr : nl ∈ rest := by
        rcases List.mem_cons.mp h with rfl | hr
        · exact absurd rfl ha
        · exact hr
      simp [firstLine, ha, ih hr]

theorem firstLine_of_not_mem {nl : α} {xs : List α} (h : nl ∉ xs) : firstLine nl xs = (xs, []) := by
  induction xs with
  | nil => rfl
  | cons a rest ih =>
    simp only [List.mem_cons, not_or] at h
    simp [firstLine, Ne.symm h.1, ih h.2]

theorem firstLine_append_of_mem {nl : α} {xs : List α} (h : nl ∈ xs) (ys : List α) :
    firstLine nl (xs ++ ys) = ((firstLine nl xs).1, (firstLine nl xs).2 ++ ys) := by
  induction xs with
  | nil => cases h
  | cons a rest ih =>
    by_cases ha : a = nl
    · simp [firstLine, ha]
    · have hr : nl ∈ rest := by
        rcases List.mem_cons.mp h with rfl | hr
        · exact absurd rfl ha
        · exact hr
      simp [firstLine, ha, ih hr]

theorem firstLine_append_of_not_mem {nl : α} {xs : List α} (h : nl ∉ xs) (ys : List α) :
    firstLine nl (xs ++ ys) = (xs ++ (firstLine nl ys).1, (firstLine nl ys).2) := by
  induction xs with
  | nil => rfl
  | cons a rest ih =>
    simp only [List.mem_cons, not_or] at h
    simp [firstLine, Ne.symm h.1, ih h.2]

theorem firstLine_fst_length {nl : α} {xs : List α} (h : nl ∈ xs) :
    (firstLine nl xs).1.length + 1 ≤ xs.length := by
  induction xs with
  | nil => cases h
  | cons a rest ih =>
    by_cases ha : a = nl
    · simp [firstLine, ha]
    · have hr : nl ∈ rest := by
        rcases List.mem_cons.mp h with rfl | hr
        · exact absurd rfl ha
        · exact hr
      simpa [firstLine, ha] using ih hr

/-- Cutting off the first line leaves the other lines. -/
theorem lines_eq_cons (nl : α) {xs : List α} (h : xs ≠ []) :
    lines nl xs = (firstLine nl xs).1 :: lines nl (firstLine nl xs).2 := by
  induction xs with
  | nil => exact absurd rfl h
  | cons a rest ih =>
    by_cases ha : a = nl
    · simp [lines, firstLine, ha]
    · cases rest with
      | nil => simp [lines, firstLine, ha]
      | cons b more =>
        have := ih (by simp)
        rw [lines, if_neg ha, this]
        simp only [firstLine, if_neg ha]

theorem lines_length_le (nl : α) (xs : List α) : (lines nl xs).length ≤ xs.length := by
  induction xs with
  | nil => simp [lines]
  | cons a rest ih =>
    by_cases ha : a = nl
    · simpa [lines, ha] using ih
    · simp only [lines, if_neg ha]
      cases hr : lines nl rest with
      | nil => simp
      | cons l ls =>
        rw [hr] at ih
        simp only [List.length_cons] at ih ⊢
        omega

theorem not_mem_of_mem_lines (nl : α) {xs l : List α} (h : l ∈ lines nl xs) : nl ∉ l := by
  induction xs generalizing l with
  | nil => simp [lines] at h
  | cons a rest ih =>
    by_cases ha : a = nl
    · simp only [lines, if_pos ha, List.mem_cons] at h
      rcases h with rfl | h
      · simp
      · exact ih h
    · simp only [lines, if_neg ha] at h
      cases hr : lines nl rest with
      | nil =>
        simp only [hr, List.mem_singleton] at h
        subst h
        simpa using fun e => ha e.symm
      | cons m ms =>
        simp only [hr, List.mem_cons] at h ih
        rcases h with rfl | h
        · simpa using ⟨fun e => ha e.symm, ih (Or.inl rfl)⟩
        · exact ih (Or.inr h)

theorem lines_append_cons {nl : α} {xs : List α} (h : nl ∉ xs) (rest : List α) :
    lines nl (xs ++ nl :: rest) = xs :: lines nl rest := by
  have hfirst : firstLine nl (xs ++ nl :: rest) = (xs, rest) := by
    rw [firstLine_append_of_not_mem h]
    simp [firstLine]
  rw [lines_eq_cons nl (List.append_ne_nil_of_right_ne_nil xs (List.cons_ne_nil nl rest)), hfirst]

theorem lines_of_not_mem {nl : α} {xs : List α} (h : nl ∉ xs) (hne : xs ≠ []) :
    lines nl xs = [xs] := by
  rw [lines_eq_cons nl hne, firstLine_of_not_mem h]
  rfl

/-- Lines that are written one after another are read back. -/
theorem lines_flatMap {nl : α} {ls : List (List α)} (h : ∀ l ∈ ls, nl ∉ l) :
    lines nl (ls.flatMap (· ++ [nl])) = ls := by
  induction ls with
  | nil => rfl
  | cons l ls ih =>
    obtain ⟨hl, hls⟩ := List.forall_mem_cons.mp h
    rw [List.flatMap_cons, List.append_assoc, List.singleton_append, lines_append_cons hl, ih hls]

theorem pieces_ne_nil (sep : α) (xs : List α) : pieces sep xs ≠ [] := by
  cases xs with
  | nil => simp [pieces]
  | cons a rest =>
    by_cases ha : a = sep
    · simp [pieces, ha]
    · simp only [pieces, if_neg ha]
      split <;> simp

theorem splitAt_ne_nil (sep : Char) (s : String) : splitAt sep s ≠ [] := by
  simp [splitAt, pieces_ne_nil]

theorem pieces_eq_splitOn (sep : α) (xs : List α) : pieces sep xs = xs.splitOn sep := by
  induction xs with
  | nil => rfl
  | cons a rest ih =>
    rw [List.splitOn_cons_eq_if_modifyHead, ← ih]
    by_cases ha : a = sep
    · simp [pieces, ha]
    · obtain ⟨p, ps, hp⟩ := List.exists_cons_of_ne_nil (pieces_ne_nil sep rest)
      simp [pieces, ha, hp]

theorem pieces_of_not_mem {sep : α} {xs : List α} (h : sep ∉ xs) : pieces sep xs = [xs] := by
  rw [pieces_eq_splitOn, List.splitOn_eq_singleton h]

theorem pieces_append_cons (sep : α) (xs ys : List α) :
    pieces sep (xs ++ sep :: ys) = pieces sep xs ++ pieces sep ys := by
  simp only [pieces_eq_splitOn, List.splitOn_append_cons_self]

/-- A separator behind text without any ends the first piece. -/
theorem pieces_append_sep {sep : α} {xs : List α} (h : sep ∉ xs) (rest : List α) :
    pieces sep (xs ++ sep :: rest) = xs :: pieces sep rest := by
  rw [pieces_append_cons, pieces_of_not_mem h, List.singleton_append]

theorem not_mem_of_mem_pieces {sep : α} {xs p : List α} (h : p ∈ pieces sep xs) : sep ∉ p := by
  induction xs generalizing p with
  | nil => simp_all [pieces]
  | cons a rest ih =>
    by_cases ha : a = sep
    · simp only [pieces, if_pos ha, List.mem_cons] at h
      rcases h with rfl | h
      · simp
      · exact ih h
    · simp only [pieces, if_neg ha] at h
      cases hr : pieces sep rest with
      | nil => exact absurd hr (pieces_ne_nil sep rest)
      | cons q qs =>
        simp only [hr, List.mem_cons] at h ih
        rcases h with rfl | h
        · simpa using ⟨fun e => ha e.symm, ih (Or.inl rfl)⟩
        · exact ih (Or.inr h)

theorem prefix_of_pieces {sep : α} {xs p : List α} {ps : List (List α)}
    (h : pieces sep xs = p :: ps) : p <+: xs := by
  induction xs generalizing p ps with
  | nil =>
    simp only [pieces, List.cons.injEq] at h
    exact h.1 ▸ List.nil_prefix
  | cons a rest ih =>
    by_cases ha : a = sep
    · simp only [pieces, if_pos ha, List.cons.injEq] at h
      exact h.1 ▸ List.nil_prefix
    · simp only [pieces, if_neg ha] at h
      cases hr : pieces sep rest with
      | nil => exact absurd hr (pieces_ne_nil sep rest)
      | cons q qs =>
        simp only [hr, List.cons.injEq] at h
        exact h.1 ▸ List.cons_prefix_cons.mpr ⟨rfl, ih hr⟩

/-- Pieces that are put together again with the separator between them. -/
theorem intercalate_splitAt (s : String) : "/".intercalate (splitAt '/' s) = s := by
  have hslash : "/".toList = ['/'] := rfl
  have hback : String.toList ∘ String.ofList = id := funext fun _ => String.toList_ofList
  rw [← String.toList_inj, String.toList_intercalate, hslash, splitAt, List.map_map, hback, List.map_id,
    pieces_eq_splitOn, List.intercalate_splitOn]

theorem splitAt_intercalate {segments : List String} (h : ∀ s ∈ segments, '/' ∉ s.toList)
    (hne : segments ≠ []) : splitAt '/' ("/".intercalate segments) = segments := by
  have hslash : "/".toList = ['/'] := rfl
  have hback : String.ofList ∘ String.toList = id := funext fun _ => String.ofList_toList
  have hmem : ∀ cs ∈ segments.map String.toList, '/' ∉ cs := by
    intro cs hcs
    obtain ⟨s, hs, rfl⟩ := List.mem_map.mp hcs
    exact h s hs
  rw [splitAt, String.toList_intercalate, hslash, pieces_eq_splitOn,
    List.splitOn_intercalate '/' hmem (by simpa using hne), List.map_map, hback, List.map_id]

end GlslFlatten.Text
