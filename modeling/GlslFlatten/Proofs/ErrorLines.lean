import GlslFlatten.Diagnostic.Translation
import GlslFlatten.Proofs.Blanks

/-!
Which lines of a validator count as errors, and what becomes of them. A line is trimmed before it is
read, and with nothing behind its mark it loses the blank that the mark ends with.
-/

namespace GlslFlatten

namespace Diagnostic

/-- A text that starts with the error mark. -/
def isMarked (text : String) : Bool := errorMark.toList.isPrefixOf text.toList

theorem toList_errorMark : errorMark.toList = Severity.error.mark := by decide +kernel

theorem isMarked_append (text : String) : isMarked (errorMark ++ text) = true := by
  simp [isMarked]

theorem isMarked_of_ne {text : String} {c : Char} {cs : List Char} (h : text.toList = c :: cs)
    (hc : 'E' ≠ c) : isMarked text = false := by
  rw [isMarked, toList_errorMark, h, Severity.mark, Severity.word, List.cons_append,
    List.isPrefixOf_cons_cons, beq_false_of_ne hc, Bool.false_and]

end Diagnostic

namespace ValidatorLine

open Text Diagnostic

/-- The text behind the blanks at the start of a line. -/
def unindented (line : String) : String := .ofList (dropBlanks line.toList)

/-- Behind leading blanks there is the error mark, and then something else than blanks. -/
def isError (line : String) : Bool :=
  isMarked (unindented line) && !allBlank ((unindented line).toList.drop errorMark.length)

/-- A line keeps its mark through the trimming if it says something. -/
theorem isMarked_trim (line : String) : isMarked (trim line) = isError line := by
  unfold isError unindented isMarked
  rw [toList_trim, String.toList_ofList]
  generalize dropBlanks line.toList = cs
  rw [Bool.eq_iff_iff, Bool.and_eq_true, List.isPrefixOf_iff_prefix, List.isPrefixOf_iff_prefix]
  constructor
  · intro hp
    have hsub : dropTrailingBlanks cs <+: cs := by
      have hsuffix := List.dropWhile_suffix (l := cs.reverse) isBlank
      simpa [dropTrailingBlanks] using List.reverse_prefix.mpr hsuffix
    obtain ⟨rest, rfl⟩ := hp.trans hsub
    refine ⟨List.prefix_append _ _, ?_⟩
    rw [dropTrailingBlanks_append] at hp
    by_cases hall : allBlank rest = true
    · rw [if_pos hall] at hp
      exact absurd hp (by decide)
    · simpa [← String.length_toList] using hall
  · rintro ⟨⟨rest, rfl⟩, hall⟩
    have hall : ¬ allBlank rest = true := by simpa [← String.length_toList] using hall
    rw [dropTrailingBlanks_append, if_neg hall]
    exact List.prefix_append _ _

theorem severity?_mark (severity : Severity) (text : List Char) :
    severity? (severity.mark ++ text) = some (severity, text) := by
  have hmark : severity.mark.isPrefixOf (severity.mark ++ text) = true :=
    List.isPrefixOf_iff_prefix.mpr (List.prefix_append _ _)
  cases severity with
  | error => rw [severity?, stripMark?, if_pos hmark, List.drop_left]
  | warning =>
    have herror : stripMark? .error (Severity.warning.mark ++ text) = none := by
      simp [stripMark?, Severity.mark, Severity.word]
    rw [severity?, herror, stripMark?, if_pos hmark, List.drop_left]
    rfl

/-- How a single line is read that has a mark in front. -/
theorem parse?_mark {line : String} {severity : Severity} {text : List Char}
    (h : line.toList = severity.mark ++ text) (hnewline : '\n' ∉ text) :
    parse? line = some (match position? text with
      | some (position, afterIndex, message) =>
        ⟨severity, some position, .ofList message, .ofList afterIndex⟩
      | none => ⟨severity, none, .ofList text, ""⟩) := by
  have hline : text.contains '\n' = false := by simpa using hnewline
  simp only [parse?, h, severity?_mark, hline, Bool.false_eq_true, if_false]
  cases position? text <;> rfl

theorem of_stripMark? {severity : Severity} {cs rest : List Char}
    (h : stripMark? severity cs = some rest) : cs = severity.mark ++ rest := by
  unfold stripMark? at h
  split at h
  · rename_i hp
    obtain ⟨more, rfl⟩ := List.isPrefixOf_iff_prefix.mp hp
    cases h
    rw [List.drop_left]
  · cases h

theorem of_severity? {severity : Severity} {cs rest : List Char}
    (h : severity? cs = some (severity, rest)) : cs = severity.mark ++ rest := by
  unfold severity? at h
  split at h
  · rename_i hs
    cases h
    exact of_stripMark? hs
  · obtain ⟨more, hs, hmore⟩ := Option.map_eq_some_iff.mp h
    cases hmore
    exact of_stripMark? hs

theorem of_position? {cs afterIndex message : List Char} {position : Position}
    (h : position? cs = some (position, afterIndex, message)) :
    afterIndex = cs.dropWhile isDigit := by
  unfold position? at h
  simp only at h
  split at h
  · split at h
    · cases h
      rfl
    · cases h
  · cases h

/-- What is read has the mark of its severity in front, is a single line, and has the text behind the
file number at its end. -/
theorem of_parse? {line : String} {parsed : ValidatorLine} (h : parse? line = some parsed) :
    parsed.severity.mark <+: line.toList ∧ '\n' ∉ line.toList ∧
      '\n' ∉ parsed.afterIndex.toList := by
  unfold parse? at h
  split at h
  · cases h
  rename_i severity rest hs
  have hmark := of_severity? hs
  split at h
  · cases h
  rename_i hrest
  have hrest : '\n' ∉ rest := by simpa using hrest
  have hline : '\n' ∉ line.toList := by
    rw [hmark]
    cases severity <;> simp [Severity.mark, Severity.word, hrest]
  split at h
  · rename_i position afterIndex message hp
    cases h
    refine ⟨⟨rest, hmark.symm⟩, hline, fun hm => hrest ?_⟩
    rw [String.toList_ofList, of_position? hp] at hm
    exact (List.dropWhile_sublist isDigit).subset hm
  · cases h
    exact ⟨⟨rest, hmark.symm⟩, hline, by simp⟩

end ValidatorLine

namespace Registry

open Text Diagnostic ValidatorLine

theorem mem_includers {r : Registry} {f : RegisteredFile} {limit i : Nat}
    (h : f ∈ r.includers limit i) : f ∈ r.files := by
  induction limit generalizing i with
  | zero => cases h
  | succ limit ih =>
    unfold includers at h
    split at h
    · cases h
    split at h
    · cases h
    · rename_i j _ file hj
      rcases List.mem_cons.mp h with rfl | h
      · exact List.mem_of_getElem? hj
      · exact ih h

theorem isMarked_includedFrom (f : RegisteredFile) : isMarked (includedFrom f) = false := by
  have hindent : "       (included from ".toList = ' ' :: "      (included from ".toList := by
    decide +kernel
  have htext : (includedFrom f).toList =
      ' ' :: ("      (included from ".toList ++ (f.name ++ ")").toList) := by
    unfold includedFrom
    rw [String.append_assoc, String.toList_append]
    exact congrArg (· ++ _) hindent
  exact isMarked_of_ne htext (by decide)

/-- An error becomes one line with the error mark and then lines about includers. Each of them is a
single line if the names of the files are. -/
theorem translate_shape (r : Registry) (line : String) : r.translate line = [] ∨
    ∃ text chain, r.translate line = text :: chain.map includedFrom ∧ isMarked text = true ∧
      chain ⊆ r.files ∧ ((∀ f ∈ r.files, '\n' ∉ f.name.toList) → '\n' ∉ text.toList) := by
  unfold translate
  simp only
  split
  · exact .inl rfl
  rename_i parsed hp
  split
  · exact .inl rfl
  rename_i hs
  have hs : parsed.severity = .error := by simpa using hs
  obtain ⟨hmark, hline, hafter⟩ := of_parse? hp
  rw [hs] at hmark
  have hmarked : isMarked (trim line) = true := List.isPrefixOf_iff_prefix.mpr hmark
  right
  split
  · exact ⟨trim line, [], rfl, hmarked, by simp, fun _ => hline⟩
  rename_i position _
  split
  · exact ⟨trim line, [], rfl, hmarked, by simp, fun _ => hline⟩
  · rename_i file hfile
    refine ⟨_, r.includeChain position.index, rfl, ?_, fun f hf => mem_includers hf, fun hnames => ?_⟩
    · rw [String.append_assoc]
      exact isMarked_append _
    · have hname := hnames file (List.mem_of_getElem? hfile)
      simp [errorMark, hname, hafter]

/-- What becomes of a single line with the error mark. -/
theorem translate_mark (r : Registry) {line : String} {text : List Char}
    (h : (trim line).toList = errorMark.toList ++ text) (hnewline : '\n' ∉ text) :
    r.translate line = match position? text with
      | none => [trim line]
      | some (position, afterIndex, _) =>
        match r.get? position.index with
        | none => [trim line]
        | some file => (errorMark ++ file.name ++ .ofList afterIndex) ::
          (r.includeChain position.index).map includedFrom := by
  rw [toList_errorMark] at h
  simp only [translate, parse?_mark h hnewline]
  cases position? text <;> rfl

/-- Nothing is left exactly of what is not a single line with the error mark. -/
theorem translate_eq_nil_iff (r : Registry) {line : String} : r.translate line = [] ↔
    isMarked (trim line) = false ∨ '\n' ∈ (trim line).toList := by
  constructor
  · intro hnil
    by_contra hline
    rw [not_or, Bool.not_eq_false] at hline
    obtain ⟨text, htext⟩ := List.isPrefixOf_iff_prefix.mp hline.1
    have hnewline : '\n' ∉ text := fun hm => hline.2 (htext ▸ List.mem_append_right _ hm)
    rw [translate_mark r htext.symm hnewline] at hnil
    split at hnil
    · cases hnil
    · split at hnil <;> cases hnil
  · intro hline
    unfold translate
    simp only
    split
    · rfl
    rename_i parsed hp
    obtain ⟨hmark, hnewline, _⟩ := of_parse? hp
    split
    · rfl
    rename_i hs
    have hs : parsed.severity = .error := by simpa using hs
    have hmarked : isMarked (trim line) = true := by
      rw [isMarked, toList_errorMark, ← hs]
      exact List.isPrefixOf_iff_prefix.mpr hmark
    rw [hmarked] at hline
    rcases hline with hline | hline
    · cases hline
    · exact absurd hline hnewline

/-- Of a single line something is left exactly if it is an error. -/
theorem translate_ne_nil_iff (r : Registry) {line : String} (h : '\n' ∉ line.toList) :
    r.translate line ≠ [] ↔ isError line = true := by
  have htrim : '\n' ∉ (trim line).toList := by
    intro hm
    rw [toList_trim] at hm
    exact h ((List.dropWhile_sublist isBlank).subset (dropTrailingBlanks_subset _ hm))
  rw [← isMarked_trim, ne_eq, translate_eq_nil_iff, or_iff_left htrim, Bool.not_eq_false]

/-- Among the lines that a line becomes only the first has the error mark. -/
theorem countP_isMarked_translate (r : Registry) (line : String) :
    (r.translate line).countP isMarked = if r.translate line ≠ [] then 1 else 0 := by
  rcases r.translate_shape line with hnil | ⟨text, chain, htext, hmarked, _⟩
  · rw [hnil, if_neg (by simp), List.countP_nil]
  · have hchain : (chain.map includedFrom).countP isMarked = 0 := by
      rw [List.countP_eq_zero]
      intro text ht
      obtain ⟨f, _, rfl⟩ := List.mem_map.mp ht
      simp only [isMarked_includedFrom, Bool.false_eq_true, not_false_iff]
    rw [htext, if_pos (by simp), List.countP_cons, hchain, hmarked, if_pos rfl]

theorem countP_isMarked_flatMap (r : Registry) (lines : List String) :
    (lines.flatMap r.translate).countP isMarked =
      lines.countP fun line => decide (r.translate line ≠ []) := by
  induction lines with
  | nil => rw [List.flatMap_nil, List.countP_nil, List.countP_nil]
  | cons line lines ih =>
    rw [List.flatMap_cons, List.countP_append, List.countP_cons, ih, countP_isMarked_translate,
      Nat.add_comm]
    simp only [decide_eq_true_eq]

end Registry

end GlslFlatten
