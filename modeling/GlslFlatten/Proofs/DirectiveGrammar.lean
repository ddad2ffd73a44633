import GlslFlatten.Directive
import GlslFlatten.Proofs.Blanks

/-!
The grammar of include directives. A line announces a directive if, without the blanks at its end, it
is the keyword between blanks and a target behind them. A target is a path between delimiters, and
behind it stands a line comment at most. Main statement: reading follows the grammar, and the defect of
a line is the first test that its target does not pass.
-/

namespace GlslFlatten

open Text

namespace Text

theorem isBlank_of_mem {cs : List Char} (h : allBlank cs = true) {c : Char} (hc : c ∈ cs) :
    isBlank c = true := List.all_eq_true.mp h c hc

/-- Blanks in front of something else are cut off as a whole. -/
theorem takeWhile_isBlank_append {blanks rest : List Char} (hb : allBlank blanks = true)
    (hr : ∀ c ∈ rest.head?, isBlank c = false) :
    (blanks ++ rest).takeWhile isBlank = blanks ∧ (blanks ++ rest).dropWhile isBlank = rest :=
  span_run (fun _ hc => isBlank_of_mem hb hc) hr

theorem allBlank_takeWhile (cs : List Char) : allBlank (cs.takeWhile isBlank) = true :=
  List.all_takeWhile

theorem not_isBlank_of_head?_dropBlanks {cs : List Char} {c : Char}
    (h : c ∈ (dropBlanks cs).head?) : isBlank c = false := head?_dropWhile h

/-- The last character that is left is no blank. -/
theorem not_isBlank_of_getLast?_dropTrailingBlanks {cs : List Char} {c : Char}
    (h : c ∈ (dropTrailingBlanks cs).getLast?) : isBlank c = false := by
  rw [dropTrailingBlanks, List.getLast?_reverse] at h
  exact not_isBlank_of_head?_dropBlanks h

end Text

namespace Directive

/-- The line `cs` without blanks at its end has `before` in front of a target: the keyword between
blanks, of which there is at least one behind it. -/
structure Announces (cs before target : List Char) : Prop where
  line : cs = before ++ target
  before : ∃ margin gap, allBlank margin = true ∧ allBlank gap = true ∧ gap ≠ [] ∧
    before = margin ++ keyword ++ gap
  target : ∃ c inner, target = c :: inner ∧ isBlank c = false

/-- A target with a path between delimiters. The first closing delimiter ends the path. -/
structure Delimited (target : List Char) (quoting : Quoting) (path rest : List Char) : Prop where
  target : target = quoting.opening :: (path ++ quoting.closing :: rest)
  path : quoting.closing ∉ path

/-- Behind leading blanks there is nothing, or a line comment. -/
def Clean (rest : List Char) : Prop :=
  ∃ blanks comment, allBlank blanks = true ∧ rest = blanks ++ comment ∧
    (comment = [] ∨ ['/', '/'] <+: comment)

/-- The first test that a target does not pass. -/
inductive Fails (target : List Char) : DefectKind → Prop
  | opening : (∀ (quoting : Quoting) inner, target ≠ quoting.opening :: inner) →
      Fails target .missingDelimiter
  | closing {quoting : Quoting} {inner : List Char} : target = quoting.opening :: inner →
      quoting.closing ∉ inner → Fails target (.unterminated quoting)
  | path {quoting : Quoting} {path rest : List Char} : Delimited target quoting path rest →
      allBlank path = true → Fails target .emptyPath
  | rest {quoting : Quoting} {path rest : List Char} : Delimited target quoting path rest →
      allBlank path = false → ¬ Clean rest → Fails target .trailingTokens

variable {cs before target path rest : List Char} {quoting : Quoting} {column number : Nat}

theorem clean_iff : Clean rest ↔ isComment (dropBlanks rest) = true := by
  rw [isComment, Bool.or_eq_true, List.isEmpty_iff, List.isPrefixOf_iff_prefix]
  constructor
  · rintro ⟨blanks, comment, hb, rfl, hc⟩
    have hhead : ∀ c ∈ comment.head?, isBlank c = false := by
      intro c hm
      rcases hc with rfl | ⟨more, rfl⟩
      · cases hm
      · cases hm
        decide
    rwa [dropBlanks, (takeWhile_isBlank_append hb hhead).2]
  · intro hc
    exact ⟨rest.takeWhile isBlank, dropBlanks rest, allBlank_takeWhile rest,
      List.takeWhile_append_dropWhile.symm, hc⟩

theorem ofOpening?_opening (quoting : Quoting) : Quoting.ofOpening? quoting.opening = some quoting := by
  cases quoting <;> rfl

theorem eq_opening_of_ofOpening? {c : Char} (h : Quoting.ofOpening? c = some quoting) :
    c = quoting.opening := by
  unfold Quoting.ofOpening? at h
  split at h
  · rename_i hc
    cases h
    exact hc
  · split at h
    · rename_i hc
      cases h
      exact hc
    · cases h

/-- The announcement of a directive is found, and nothing else is taken for one. -/
theorem target?_eq_some_iff {n : Nat} (hend : ∀ c ∈ cs.getLast?, isBlank c = false) :
    target? cs = some (n, target) ↔ ∃ before, Announces cs before target ∧ before.length = n := by
  unfold target?
  constructor
  · intro h
    simp only at h
    split at h
    · rename_i hkeyword
      split at h
      · cases h
      rename_i hgap
      obtain ⟨tail, htail⟩ := List.isPrefixOf_iff_prefix.mp hkeyword
      simp only [← htail, List.drop_left, Option.some.injEq, Prod.mk.injEq] at h hgap
      obtain ⟨rfl, rfl⟩ := h
      have hline : cs = cs.takeWhile isBlank ++ keyword ++ tail.takeWhile isBlank ++
          dropBlanks tail := by
        rw [List.append_assoc, dropBlanks, List.takeWhile_append_dropWhile, List.append_assoc, htail,
          List.takeWhile_append_dropWhile]
      refine ⟨_, ⟨hline, ⟨_, _, allBlank_takeWhile cs, allBlank_takeWhile tail, hgap, rfl⟩, ?_⟩, ?_⟩
      · cases htarget : dropBlanks tail with
        | nil =>
          rw [htarget, List.append_nil] at hline
          obtain ⟨c, hc⟩ := Option.isSome_iff_exists.mp (List.getLast?_isSome.mpr hgap)
          have hlast : c ∈ cs.getLast? := by
            rw [hline, List.getLast?_append, hc]
            rfl
          have hblank := isBlank_of_mem (allBlank_takeWhile tail) (List.mem_of_getLast? hc)
          rw [hend c hlast] at hblank
          cases hblank
        | cons c inner =>
          have hhead : c ∈ (dropBlanks tail).head? := by
            rw [htarget]
            rfl
          exact ⟨c, inner, rfl, not_isBlank_of_head?_dropBlanks hhead⟩
      · simp only [List.length_append]
    · cases h
  · rintro ⟨_, ⟨rfl, ⟨margin, gap, hmargin, hgap, hne, rfl⟩, c, inner, rfl, hc⟩, rfl⟩
    have hkeyword : ∀ more, ∀ c ∈ (keyword ++ more).head?, isBlank c = false := by
      rintro more c hm
      cases hm
      decide
    have hfront := takeWhile_isBlank_append hmargin (hkeyword (gap ++ c :: inner))
    have hinner : ∀ d ∈ (c :: inner).head?, isBlank d = false := by simpa using hc
    have hback := takeWhile_isBlank_append hgap hinner
    have hprefix : keyword.isPrefixOf (keyword ++ (gap ++ c :: inner)) = true :=
      List.isPrefixOf_iff_prefix.mpr (List.prefix_append _ _)
    simp only [List.append_assoc, hfront, hprefix, if_true, List.drop_left, hback, dropBlanks, hne,
      if_false, List.length_append]
    rw [Nat.add_assoc]

theorem takeWhile_of_delimited (h : Delimited target quoting path rest) :
    (path ++ quoting.closing :: rest).takeWhile (· ≠ quoting.closing) = path ∧
      (path ++ quoting.closing :: rest).dropWhile (· ≠ quoting.closing) = quoting.closing :: rest :=
  span_run (fun _ hc => decide_eq_true fun he => h.path (he ▸ hc)) (by simp)

theorem readTarget_of_delimited (h : Delimited target quoting path rest) :
    readTarget column target =
      if allBlank path then .error ⟨.emptyPath, column + 1, ""⟩
      else if isComment (dropBlanks rest) then .ok (quoting, .ofList path)
      else .error ⟨.trailingTokens, column + (target.length - (dropBlanks rest).length),
        .ofList (dropBlanks rest)⟩ := by
  obtain ⟨hpath, hrest⟩ := takeWhile_of_delimited h
  rw [h.target]
  simp only [readTarget, ofOpening?_opening, hpath, hrest]

theorem readTarget_of_unopened {c : Char} (h : Quoting.ofOpening? c = none) (inner : List Char) :
    readTarget column (c :: inner) = .error ⟨.missingDelimiter, column, .ofList [c]⟩ := by
  simp only [readTarget, h]

theorem readTarget_of_unclosed {inner : List Char} (h : quoting.closing ∉ inner) :
    readTarget column (quoting.opening :: inner) =
      .error ⟨.unterminated quoting, column + (quoting.opening :: inner).length, ""⟩ := by
  have hrest : inner.dropWhile (· ≠ quoting.closing) = [] := by
    rw [List.dropWhile_eq_nil_iff]
    intro c hc
    exact decide_eq_true fun he => h (he ▸ hc)
  simp only [readTarget, ofOpening?_opening, hrest]

/-- A test that is not passed is what the target is refused for. -/
theorem readTarget_of_fails (column : Nat) {kind : DefectKind} (h : Fails target kind) :
    ∃ defect, readTarget column target = .error defect ∧ defect.kind = kind := by
  cases h with
  | opening hnone =>
    cases target with
    | nil => exact ⟨_, rfl, rfl⟩
    | cons c inner =>
      cases hc : Quoting.ofOpening? c with
      | some quoting => exact absurd (eq_opening_of_ofOpening? hc ▸ rfl) (hnone quoting inner)
      | none => exact ⟨_, readTarget_of_unopened hc inner, rfl⟩
  | closing htarget hinner =>
    rw [htarget]
    exact ⟨_, readTarget_of_unclosed hinner, rfl⟩
  | path hd hblank =>
    rw [readTarget_of_delimited hd, if_pos hblank]
    exact ⟨_, rfl, rfl⟩
  | rest hd hpath hrest =>
    rw [clean_iff] at hrest
    rw [readTarget_of_delimited hd, hpath, if_neg Bool.false_ne_true, if_neg hrest]
    exact ⟨_, rfl, rfl⟩

/-- Every target passes all tests, or there is one that it does not pass. -/
theorem valid_or_fails (target : List Char) :
    (∃ quoting path rest, Delimited target quoting path rest ∧ allBlank path = false ∧ Clean rest) ∨
      ∃ kind, Fails target kind := by
  by_cases hopening : ∃ (quoting : Quoting) (inner : List Char), target = quoting.opening :: inner
  case neg => exact .inr ⟨_, .opening fun quoting inner he => hopening ⟨quoting, inner, he⟩⟩
  obtain ⟨quoting, inner, htarget⟩ := hopening
  by_cases hclosing : quoting.closing ∈ inner
  case neg => exact .inr ⟨_, .closing htarget hclosing⟩
  obtain ⟨path, rest, hinner, hpath⟩ := List.eq_append_cons_of_mem hclosing
  have hd : Delimited target quoting path rest := ⟨hinner ▸ htarget, hpath⟩
  cases hblank : allBlank path with
  | true => exact .inr ⟨_, .path hd hblank⟩
  | false =>
    by_cases hrest : Clean rest
    · exact .inl ⟨quoting, path, rest, hd, hblank, hrest⟩
    · exact .inr ⟨_, .rest hd hblank hrest⟩

theorem readTarget_eq_ok_iff {name : String} : readTarget column target = .ok (quoting, name) ↔
    ∃ path rest, Delimited target quoting path rest ∧ allBlank path = false ∧ Clean rest ∧
      name = .ofList path := by
  have hvalid : ∀ {quoting path rest}, Delimited target quoting path rest → allBlank path = false →
      Clean rest → readTarget column target = .ok (quoting, .ofList path) := by
    intro quoting path rest hd hpath hrest
    rw [readTarget_of_delimited hd, hpath, if_neg Bool.false_ne_true, if_pos (clean_iff.mp hrest)]
  constructor
  · intro h
    rcases valid_or_fails target with ⟨quoting', path, rest, hd, hpath, hrest⟩ | ⟨kind, hf⟩
    · rw [hvalid hd hpath hrest] at h
      cases h
      exact ⟨path, rest, hd, hpath, hrest, rfl⟩
    · obtain ⟨defect, hdefect, _⟩ := readTarget_of_fails column hf
      rw [hdefect] at h
      cases h
  · rintro ⟨path, rest, hd, hpath, hrest, rfl⟩
    exact hvalid hd hpath hrest

theorem readTarget_error_iff {kind : DefectKind} :
    (∃ defect, readTarget column target = .error defect ∧ defect.kind = kind) ↔ Fails target kind := by
  constructor
  · rintro ⟨defect, hdefect, rfl⟩
    rcases valid_or_fails target with ⟨quoting, path, rest, hd, hpath, hrest⟩ | ⟨kind, hf⟩
    · rw [readTarget_eq_ok_iff.mpr ⟨path, rest, hd, hpath, hrest, rfl⟩] at hdefect
      cases hdefect
    · obtain ⟨defect', hdefect', rfl⟩ := readTarget_of_fails column hf
      cases hdefect.symm.trans hdefect'
      exact hf
  · exact readTarget_of_fails column

variable {line : String}

theorem parse_of_announces (h : Announces (dropTrailingBlanks line.toList) before target) :
    parse line number = (readTarget (before.length + 1) target).map fun read =>
      some ⟨number, before.length + 1, read.2, read.1⟩ := by
  have htarget := (target?_eq_some_iff fun _ => not_isBlank_of_getLast?_dropTrailingBlanks).mpr
    ⟨before, h, rfl⟩
  simp only [parse, htarget]
  cases readTarget (before.length + 1) target <;> rfl

theorem announces_of_target? {n : Nat}
    (h : target? (dropTrailingBlanks line.toList) = some (n, target)) :
    ∃ before, Announces (dropTrailingBlanks line.toList) before target ∧ before.length = n :=
  (target?_eq_some_iff fun _ => not_isBlank_of_getLast?_dropTrailingBlanks).mp h

theorem parse_of_not_announces
    (h : ¬ ∃ before target, Announces (dropTrailingBlanks line.toList) before target) :
    parse line number = .ok none := by
  cases htarget : target? (dropTrailingBlanks line.toList) with
  | none => simp only [parse, htarget]
  | some found =>
    obtain ⟨n, target⟩ := found
    obtain ⟨before, hannounces, _⟩ := announces_of_target? htarget
    exact absurd ⟨before, target, hannounces⟩ h

theorem parse_eq_none_iff : parse line number = .ok none ↔
    ¬ ∃ before target, Announces (dropTrailingBlanks line.toList) before target := by
  refine ⟨?_, parse_of_not_announces⟩
  rintro h ⟨before, target, hannounces⟩
  rw [parse_of_announces hannounces] at h
  cases hread : readTarget (before.length + 1) target <;> rw [hread] at h <;> cases h

theorem parse_eq_some_iff {d : Directive} : parse line number = .ok (some d) ↔
    ∃ before target path rest, Announces (dropTrailingBlanks line.toList) before target ∧
      Delimited target d.quoting path rest ∧ allBlank path = false ∧ Clean rest ∧
      d = ⟨number, before.length + 1, .ofList path, d.quoting⟩ := by
  constructor
  · intro h
    by_cases hannounces : ∃ before target, Announces (dropTrailingBlanks line.toList) before target
    case neg =>
      rw [parse_of_not_announces hannounces] at h
      cases h
    obtain ⟨before, target, hannounces⟩ := hannounces
    rw [parse_of_announces hannounces] at h
    cases hread : readTarget (before.length + 1) target with
    | error defect =>
      rw [hread] at h
      cases h
    | ok read =>
      rw [hread] at h
      cases h
      obtain ⟨path, rest, hd, hpath, hrest, hname⟩ := readTarget_eq_ok_iff.mp hread
      exact ⟨before, target, path, rest, hannounces, hd, hpath, hrest, by rw [hname]⟩
  · rintro ⟨before, target, path, rest, hannounces, hd, hpath, hrest, hdirective⟩
    rw [parse_of_announces hannounces, readTarget_eq_ok_iff.mpr ⟨path, rest, hd, hpath, hrest, rfl⟩,
      hdirective]
    rfl

/-- A line with a defect announces a directive, and its target has the defect. -/
theorem announces_of_parse_error {defect : Defect} (h : parse line number = .error defect) :
    ∃ before target, Announces (dropTrailingBlanks line.toList) before target ∧
      readTarget (before.length + 1) target = .error defect := by
  by_cases hannounces : ∃ before target, Announces (dropTrailingBlanks line.toList) before target
  case neg =>
    rw [parse_of_not_announces hannounces] at h
    cases h
  obtain ⟨before, target, hannounces⟩ := hannounces
  rw [parse_of_announces hannounces] at h
  cases hread : readTarget (before.length + 1) target with
  | error defect' =>
    rw [hread] at h
    cases h
    exact ⟨before, target, hannounces, hread⟩
  | ok read =>
    rw [hread] at h
    cases h

theorem parse_error_iff {kind : DefectKind} :
    (∃ defect, parse line number = .error defect ∧ defect.kind = kind) ↔
      ∃ before target, Announces (dropTrailingBlanks line.toList) before target ∧
        Fails target kind := by
  constructor
  · rintro ⟨defect, h, hkind⟩
    obtain ⟨before, target, hannounces, hread⟩ := announces_of_parse_error h
    exact ⟨before, target, hannounces, readTarget_error_iff.mp ⟨defect, hread, hkind⟩⟩
  · rintro ⟨before, target, hannounces, hfails⟩
    obtain ⟨defect, hdefect, hkind⟩ := readTarget_of_fails (before.length + 1) hfails
    refine ⟨defect, ?_, hkind⟩
    rw [parse_of_announces hannounces, hdefect]
    rfl

/-- A directive as it is written, with `behind` to the end of the line. -/
def written (margin gap : List Char) (quoting : Quoting) (path behind : List Char) : List Char :=
  margin ++ keyword ++ gap ++ quoting.opening :: (path ++ quoting.closing :: behind)

theorem not_isBlank_opening (quoting : Quoting) : isBlank quoting.opening = false := by
  cases quoting <;> decide

theorem not_isBlank_closing (quoting : Quoting) : isBlank quoting.closing = false := by
  cases quoting <;> decide

/-- Trimming a line does not reach into the directive. -/
theorem dropTrailingBlanks_written (margin gap : List Char) (quoting : Quoting)
    (path behind : List Char) : dropTrailingBlanks (written margin gap quoting path behind) =
      written margin gap quoting path (dropTrailingBlanks behind) := by
  have hfront : ∀ more, written margin gap quoting path more =
      (margin ++ keyword ++ gap ++ quoting.opening :: path) ++ quoting.closing :: more := by
    intro more
    simp [written]
  have hblank : allBlank (quoting.closing :: behind) = false := by
    simp [allBlank, not_isBlank_closing]
  rw [hfront, hfront, dropTrailingBlanks_append, hblank, if_neg Bool.false_ne_true,
    dropTrailingBlanks_cons]
  split
  · rename_i hall
    rw [not_isBlank_closing, if_neg Bool.false_ne_true, dropTrailingBlanks_eq_nil_iff.mpr hall]
  · rfl

theorem Clean.dropTrailingBlanks (h : Clean rest) : Clean (dropTrailingBlanks rest) := by
  obtain ⟨blanks, comment, hblanks, rfl, hcomment⟩ := h
  rcases hcomment with rfl | ⟨more, rfl⟩
  · rw [List.append_nil, dropTrailingBlanks_eq_nil_iff.mpr hblanks]
    exact ⟨[], [], rfl, rfl, .inl rfl⟩
  · have hslashes : ∀ cs, allBlank (['/', '/'] ++ cs) = false := fun _ => rfl
    rw [dropTrailingBlanks_append, hslashes, if_neg Bool.false_ne_true]
    refine ⟨blanks, _, hblanks, rfl, .inr ?_⟩
    rw [dropTrailingBlanks_append]
    split
    · exact List.prefix_rfl
    · exact List.prefix_append _ _

/-- What is written as a directive announces it. -/
theorem announces_written {margin gap : List Char} (hmargin : allBlank margin = true)
    (hgap : allBlank gap = true) (hne : gap ≠ []) (quoting : Quoting) (path behind : List Char) :
    Announces (written margin gap quoting path behind) (margin ++ keyword ++ gap)
      (quoting.opening :: (path ++ quoting.closing :: behind)) where
  line := rfl
  before := ⟨margin, gap, hmargin, hgap, hne, rfl⟩
  target := ⟨_, _, rfl, not_isBlank_opening quoting⟩

/-- A line is no directive unless it announces one. It is read as the directive that its target is, or
refused for the first test that the target does not pass. In particular every directive is read back,
whatever blanks and comment it is written with. -/
theorem parse_follows_grammar (line : String) (number : Nat) :
    let cs := dropTrailingBlanks line.toList
    (parse line number = .ok none ↔ ¬ ∃ before target, Announces cs before target) ∧
    (∀ d, parse line number = .ok (some d) ↔ ∃ before target path rest,
      Announces cs before target ∧ Delimited target d.quoting path rest ∧ allBlank path = false ∧
        Clean rest ∧ d = ⟨number, before.length + 1, .ofList path, d.quoting⟩) ∧
    (∀ kind, (∃ defect, parse line number = .error defect ∧ defect.kind = kind) ↔
      ∃ before target, Announces cs before target ∧ Fails target kind) ∧
    ∀ margin gap quoting path behind, allBlank margin = true → allBlank gap = true → gap ≠ [] →
      quoting.closing ∉ path → allBlank path = false → Clean behind →
      line.toList = written margin gap quoting path behind →
      parse line number =
        .ok (some ⟨number, (margin ++ keyword ++ gap).length + 1, .ofList path, quoting⟩) := by
  refine ⟨parse_eq_none_iff, fun d => parse_eq_some_iff, fun kind => parse_error_iff, ?_⟩
  intro margin gap quoting path behind hmargin hgap hne hclosing hpath hbehind hline
  have hannounces := announces_written hmargin hgap hne quoting path (dropTrailingBlanks behind)
  rw [← dropTrailingBlanks_written, ← hline] at hannounces
  exact parse_eq_some_iff.mpr ⟨_, _, path, _, hannounces, ⟨rfl, hclosing⟩, hpath,
    hbehind.dropTrailingBlanks, rfl⟩

/-- The path keeps its blanks and the other kind of delimiter, and columns count characters. -/
theorem parse_follows_grammar_sample :
    parse "\u3000#include\t<é \"b >// c " 7 = .ok (some ⟨7, 11, "é \"b ", .angles⟩) ∧
      (∃ defect, parse "#include <> x" 7 = .error defect ∧ defect.kind = .emptyPath) := by
  refine ⟨?_, ?_⟩
  · refine (parse_follows_grammar _ 7).2.2.2 ['\u3000'] ['\t'] .angles
      ['é', ' ', '"', 'b', ' '] ['/', '/', ' ', 'c', ' '] ?_ ?_ ?_ ?_ ?_ ?_ ?_
    case refine_6 => exact ⟨[], _, rfl, rfl, .inr ⟨_, rfl⟩⟩
    all_goals decide +kernel
  · refine ((parse_follows_grammar "#include <> x" 7).2.2.1 .emptyPath).mpr ?_
    refine ⟨keyword ++ [' '], ['<', '>', ' ', 'x'], ⟨by decide +kernel, ?_, ⟨_, _, rfl, by decide⟩⟩, ?_⟩
    · exact ⟨[], [' '], rfl, by decide, by decide, rfl⟩
    · have hd : Delimited ['<', '>', ' ', 'x'] .angles [] [' ', 'x'] := ⟨rfl, by decide⟩
      exact .path hd rfl

end Directive

end GlslFlatten
