import GlslFlatten.Proofs.DirectiveGrammar
import GlslFlatten.Proofs.FileOutput
import GlslFlatten.Proofs.WalkEnd

/-!
Expansion of text that has been expanded already. Every line that an expansion writes is flat: it asks
for nothing, and nothing is cut off of it. A file whose lines are flat is copied as it is, so the text
of an expansion is the expansion of itself.
-/

namespace GlslFlatten

open Text

namespace Text

theorem dropTrailingBlanks_of_getLast? {cs : List Char} (h : ∀ c ∈ cs.getLast?, isBlank c = false) :
    dropTrailingBlanks cs = cs := by
  have hreverse : cs.reverse.dropWhile isBlank = cs.reverse := by
    rw [← List.head?_reverse] at h
    cases hr : cs.reverse with
    | nil => rfl
    | cons c rest =>
      rw [hr] at h
      simp [h c rfl]
  rw [dropTrailingBlanks, hreverse, List.reverse_reverse]

theorem trimEnd_trimEnd (s : String) : trimEnd (trimEnd s) = trimEnd s := by
  have hdrop : dropTrailingBlanks (dropTrailingBlanks s.toList) = dropTrailingBlanks s.toList :=
    dropTrailingBlanks_of_getLast? fun c hc => not_isBlank_of_getLast?_dropTrailingBlanks hc
  simp [trimEnd, hdrop]

theorem isBlank_of_isAsciiDigit {c : Char} (h : isAsciiDigit c = true) : isBlank c = false := by
  simp only [isAsciiDigit, Bool.and_eq_true, decide_eq_true_eq] at h
  have low : 48 ≤ c.toNat := h.1
  have high : c.toNat ≤ 57 := h.2
  simp [isBlank, inRanges, blankRanges]
  omega

namespace Utf8

/-- Line feeds are the only characters with the byte of a line feed in them. -/
theorem lineFeed_not_mem_encode {cs : List Char} (h : '\n' ∉ cs) : lineFeed ∉ encode cs := by
  intro hm
  obtain ⟨before, behind, hsplit⟩ := List.append_of_mem hm
  have hsymbols := decode?_eq_some_iff.mp (decode?_encode cs)
  rw [hsplit, symbols_append_lineFeed soundState_none] at hsymbols
  have hnewline : some '\n' ∈ cs.map some := by
    rw [← hsymbols]
    simp
  simp [h] at hnewline

end Utf8

end Text

/-- A line that is copied as it is, whatever its number. -/
structure Flat (text : String) : Prop where
  newline : '\n' ∉ text.toList
  trimmed : trimEnd text = text
  inert : ∀ number, Directive.parse text number = .ok none

namespace Flat

/-- The keyword of a marker begins as the one of a directive does, and goes on differently. -/
theorem marker (line index : Nat) : Flat (FlatLine.marker line index).text := by
  have htext : (FlatLine.marker line index).text.toList = '#' :: 'l' ::
      (['i', 'n', 'e', ' '] ++ Nat.toDigits 10 line ++ [' '] ++ Nat.toDigits 10 index) := by
    simp [FlatLine.text]
  have hlast : ∀ c ∈ (FlatLine.marker line index).text.toList.getLast?, isBlank c = false := by
    intro c hc
    have hdigits : (FlatLine.marker line index).text.toList.getLast? =
        (Nat.toDigits 10 index).getLast? := by
      rw [htext, ← List.cons_append, ← List.cons_append]
      exact List.getLast?_append_of_ne_nil _ Nat.toDigits_ne_nil
    rw [hdigits] at hc
    exact isBlank_of_isAsciiDigit (isAsciiDigit_of_mem_toDigits (List.mem_of_getLast? hc))
  have hdrop := dropTrailingBlanks_of_getLast? hlast
  refine ⟨FlatLine.newline_not_mem_marker line index, ?_, ?_⟩
  · rw [trimEnd, hdrop, String.ofList_toList]
  · intro number
    have htarget : ∀ more, Directive.target? ('#' :: 'l' :: more) = none := fun _ => rfl
    rw [Directive.parse, hdrop, htext, htarget]

theorem copied {t : Tree} {loc : Location} {i : Nat} {text : String}
    (h : t.line? loc i = some (.copied text)) : Flat text := by
  have hnewline := newline_not_mem_copied h
  obtain ⟨content, bytes, _, _, hread⟩ := Tree.exists_read_of_line? h (by simp)
  have hparse := Line.parse_of_read_copied hread
  obtain ⟨cs, _, rfl⟩ := Line.mem_of_read_copied hread
  refine ⟨hnewline, trimEnd_trimEnd _, ?_⟩
  intro number
  rw [Directive.parse_eq_none_iff] at hparse ⊢
  exact hparse

/-- A flat line is read back from its bytes. -/
theorem read {text : String} (h : Flat text) (number : Nat) :
    Line.read number (Utf8.bytes text) = .copied text := by
  simp [Line.read, Utf8.bytes, Utf8.decode?_encode, h.trimmed, h.inert]

theorem reads {lines : List String} (h : ∀ line ∈ lines, Flat line) :
    (lines.map Utf8.bytes).mapIdx (fun i => Line.read (i + 1)) = lines.map .copied := by
  refine List.ext_getElem? fun i => ?_
  rw [List.getElem?_mapIdx, List.getElem?_map, List.getElem?_map]
  cases hl : lines[i]? with
  | none => rfl
  | some line => exact congrArg some ((h line (List.mem_of_getElem? hl)).read (i + 1))

end Flat

namespace Sink

theorem bytes_text (s : Sink) :
    Utf8.bytes s.text = (s.lines.map Utf8.bytes).flatMap (· ++ [Utf8.lineFeed]) := by
  rw [text]
  induction s.lines with
  | nil => rfl
  | cons line lines ih =>
    have hfeed : Utf8.encode ['\n'] = [Utf8.lineFeed] := by decide
    rw [List.map_cons, String.join_cons, Utf8.bytes, String.toList_append, String.toList_append,
      Utf8.encode_append, Utf8.encode_append]
    simp only [List.map_cons, List.flatMap_cons, ← ih]
    rw [← Utf8.bytes, ← Utf8.bytes]
    congr 2

/-- Lines without line feeds in them are the lines of their text. -/
theorem lines_text {s : Sink} (h : ∀ line ∈ s.lines, '\n' ∉ line.toList) :
    Reader.lines (Utf8.bytes s.text) = s.lines.map Utf8.bytes := by
  rw [bytes_text]
  apply lines_flatMap
  intro bytes hb
  obtain ⟨line, hline, rfl⟩ := List.mem_map.mp hb
  exact Utf8.lineFeed_not_mem_encode (h line hline)

end Sink

namespace Traversal

variable {t : Tree} {c : Context} {loc : Location} {m m' : State} {lines : List String}

theorem flat_heading (index : Nat) : ∀ line ∈ heading index, Flat line.text := by
  intro line hline
  obtain ⟨n, i, rfl⟩ := eq_marker_of_mem_heading hline
  exact .marker n i

theorem flat_of_step (h : ∀ line ∈ m.lines, Flat line.text) (hs : Step t m m') :
    ∀ line ∈ m'.lines, Flat line.text := by
  obtain ⟨more, hmore, hwritten⟩ := written_of_step hs
  intro line hline
  rw [hmore] at hline
  rcases List.mem_append.mp hline with hline | hline
  · exact h line hline
  · rcases hwritten line hline with ⟨n, index, rfl⟩ | ⟨text, hl, rfl⟩
    · exact .marker n index
    · exact .copied hl

/-- Whatever a walk has written by any point is flat. -/
theorem flat_of_run (hrun : Run t (start c loc) m) : ∀ line ∈ m.lines, Flat line.text := by
  induction hrun with
  | refl => exact flat_heading _
  | tail _ hs ih => exact flat_of_step ih hs

/-- The walk over a file with the given lines when `n` of them have been copied. -/
def copying (c : Context) (loc : Location) (lines : List String) (n : Nat) : State :=
  let m := start c loc
  { m with top := { m.top with done := n }, lines := m.lines ++ (lines.take n).map .copied }

theorem line?_copying (hfile : t.linesOf loc = lines.map .copied) (n : Nat) :
    (copying c loc lines n).line? t = lines[n]?.map .copied := by
  have hline : (copying c loc lines n).line? t = t.line? loc n := rfl
  rw [hline, Tree.line?, hfile, List.getElem?_map]

/-- Lines that are to be copied are copied one after another. -/
theorem run_copying (hfile : t.linesOf loc = lines.map .copied) {n : Nat} (hn : n ≤ lines.length) :
    Run t (start c loc) (copying c loc lines n) := by
  induction n with
  | zero =>
    have hzero : copying c loc lines 0 = start c loc := by simp [copying, start, openFile]
    rw [hzero]
  | succ n ih =>
    have hl : (copying c loc lines n).line? t = some (.copied lines[n]) := by
      rw [line?_copying hfile, List.getElem?_eq_getElem hn]
      rfl
    have hnext : (copying c loc lines n).copy lines[n] = copying c loc lines (n + 1) := by
      have htake : (lines.take (n + 1)).map FlatLine.copied =
          (lines.take n).map .copied ++ [.copied lines[n]] := by
        rw [List.take_succ_eq_append_getElem hn, List.map_append, List.map_singleton]
      rw [copying, copying, htake, ← List.append_assoc]
      rfl
    exact (ih (Nat.le_of_succ_le hn)).tail (hnext ▸ step_copied hl)

theorem step_copying (hfile : t.linesOf loc = lines.map .copied) :
    step t (copying c loc lines lines.length) = .ok none := by
  apply step_eq_end_iff.mpr
  refine ⟨?_, rfl⟩
  rw [line?_copying hfile, List.getElem?_eq_none (Nat.le_refl _)]
  rfl

end Traversal

section Again

open Traversal

variable {t t' : Tree} {c c' : Context} {source source' : String} {loc : Location}
  {lines : List String} {written : Sink}

/-- What an expansion has written when it ends, well or not, is flat. -/
theorem flat_of_expand
    (h : (endState (expand (Sink.output t) source { out := {}, context := c })).out = written) :
    written.room = none ∧ ∀ line ∈ written.lines, Flat line := by
  subst h
  cases hr : Source.resolve t c.root source with
  | error failure =>
    have hx := expand_of_unresolved (o := Sink.output t) (s := { out := {}, context := c }) hr
    rw [hx]
    exact ⟨rfl, List.forall_mem_nil _⟩
  | ok loc =>
    obtain ⟨m, hrun, _, _, _, hout⟩ := @expand_reaches_end t c source loc {} _ rfl hr rfl
    rw [hout]
    refine ⟨rfl, fun line hline => ?_⟩
    rw [List.nil_append] at hline
    obtain ⟨l, hl, rfl⟩ := List.mem_map.mp hline
    exact flat_of_run hrun l hl

/-- A file without directives is copied, and no other file is registered. -/
theorem expand_of_copied (hc : c.registry = {}) (hr : Source.resolve t c.root source = .ok loc)
    (hfile : t.linesOf loc = lines.map .copied) :
    ∃ s, expand (Sink.output t) source { out := {}, context := c } = .ok () s ∧
      s.out = { lines } ∧ s.context.registry.files = [⟨loc.path, c.nameOf loc.path, none⟩] := by
  obtain ⟨m, hrun, hfinal, hfailure, hcontext, hout⟩ := @expand_reaches_end t c source loc {} _ rfl hr rfl
  have hend := step_copying (c := c) hfile
  obtain rfl := hfinal.unique (final_of_end hend) hrun (run_copying hfile (Nat.le_refl _))
  have hstart : (start c loc).lines = [] ∧
      (start c loc).context.registry.files = [⟨loc.path, c.nameOf loc.path, none⟩] := by
    simp [start, openFile, Context.register, Registry.register, Registry.indexOf?, Registry.size,
      heading, hc, Context.nameOf]
  rw [State.ending_of_end hend] at hfailure hcontext
  have hlines : (copying c loc lines lines.length).lines.map FlatLine.text = lines := by
    have htext : FlatLine.text ∘ FlatLine.copied = id := rfl
    simp [copying, hstart.1, htext]
  rw [hlines] at hout
  cases hx : expand (Sink.output t) source { out := {}, context := c } with
  | error failure s =>
    rw [hx] at hfailure
    cases hfailure
  | ok u s =>
    rw [hx] at hcontext hout
    refine ⟨s, rfl, hout, ?_⟩
    rw [show s.context = _ from hcontext]
    exact hstart.2

end Again

/-- An expansion of text that an expansion has written, whether it had come to its end or not, writes
the same text again and registers nothing but its source. No line of the text is a directive, good or
bad, and none is changed by trimming or by reading it back. -/
theorem expand_fixed_point {t t' : Tree} {config : Config} {c c' : Context} {source source' : String}
    {loc : Location} {written : Sink}
    (hwritten : (endState (expand (Sink.output t) source { out := {}, context := c })).out = written)
    (hc : Context.start t' config = .ok c') (hr : Source.resolve t' c'.root source' = .ok loc)
    (hcontent : t'.content? loc = some (Utf8.bytes written.text)) :
    (∃ s, expand (Sink.output t') source' { out := {}, context := c' } = .ok () s ∧
      s.out = written ∧ s.context.registry.files = [⟨loc.path, c'.nameOf loc.path, none⟩]) ∧
    Reader.lines (Utf8.bytes written.text) = written.lines.map Utf8.bytes ∧
    ∀ line ∈ written.lines, trimEnd line = line ∧ ∀ number, Directive.parse line number = .ok none := by
  obtain ⟨hroom, hflat⟩ := flat_of_expand hwritten
  have hlines := Sink.lines_text fun line hline => (hflat line hline).newline
  have hfile : t'.linesOf loc = written.lines.map .copied := by
    rw [Tree.linesOf_of_load (Tree.load_eq_ok.mpr hcontent), hlines]
    exact Flat.reads hflat
  obtain ⟨s, hx, hout, hregistry⟩ :=
    expand_of_copied (Context.fresh_of_start hc).1.registry hr hfile
  refine ⟨⟨s, hx, ?_, hregistry⟩, hlines, fun line hline => ?_⟩
  · rw [hout, ← hroom]
  · exact ⟨(hflat line hline).trimmed, (hflat line hline).inert⟩

/-- The text of an expansion that fails at its third line, behind the markers of an included file. -/
theorem expand_fixed_point_sample :
    let c : Context := { root := ⟨"/s"⟩, maxDepth := 9 }
    let first := expand (Sink.output .sample) "loop" { out := {}, context := c }
    let again : Tree := { workdir := [], entries := [(["s"], .directory),
      (["s", "flat"], .file (Utf8.bytes (endState first).out.text))] }
    failure? first ≠ none ∧
      ∃ s, expand (Sink.output again) "flat" { out := {}, context := c } = .ok () s ∧
        s.out = (endState first).out ∧
        s.out.lines = ["x", "#line 1 1", "#line 1 2", "one", "#line 2 1", "two", "#line 3 0"] ∧
        s.context.registry.files = [⟨⟨"/s/flat"⟩, "flat", none⟩] := by
  intro c first again
  have hc : Context.start again { root := ⟨"/s"⟩, maxDepth := 9 } = .ok c := by decide +kernel
  have hr : Source.resolve again c.root "flat" = .ok ["s", "flat"] := by decide +kernel
  have hcontent : again.content? ["s", "flat"] = some (Utf8.bytes (endState first).out.text) := by
    decide +kernel
  obtain ⟨⟨s, hx, hout, hregistry⟩, _⟩ := expand_fixed_point rfl hc hr hcontent
  refine ⟨by decide +kernel, s, hx, hout, ?_, ?_⟩
  · rw [hout]
    decide +kernel
  · rw [hregistry]
    decide +kernel

end GlslFlatten
