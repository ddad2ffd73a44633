import GlslFlatten.Proofs.Expanded
import GlslFlatten.Proofs.Simulation

/-!
Failed expansions. The walk stops at the first line that cannot be processed, and what is wrong with
the line, the open files and the limit on them decides the failure. What was written before stays.
-/

namespace GlslFlatten

open Text

/-- Why line `n` of the file at `g` cannot be processed while the files `opened` are open, the
outermost first and `g` last. -/
def fault? (t : Tree) (root : Path) (limit : Nat) (opened : List Location) (g : Location) (n : Nat) :
    Line → Option Failure
  | .unreadable reason => some (.unreadable g.path reason)
  | .malformed defect => some (.invalidDirective (Source.displayName root g.path) n defect)
  | .copied _ => none
  | .directive d =>
    let name (loc : Location) := Source.displayName root loc.path
    let path := Source.underRoot root d.path
    if t.isFile path then
      match t.realPath path with
      | .error reason => some (.unlocatable path reason)
      | .ok target =>
        if target ∈ opened then
          some (.recursiveInclude (name target) (name g) n
            (" -> ".intercalate ((opened ++ [target]).map name)))
        else if limit ≤ opened.length then some (.depthExceeded (name target) (name g) n limit)
        else none
    else some (.includeNotFound d.path (name g) n)

namespace Traversal

variable {t : Tree} {c : Context} {loc : Location} {m : State}

/-- Why the walk cannot go on. -/
def State.fault? (t : Tree) (c : Context) (m : State) : Option Failure :=
  (m.line? t).bind
    (GlslFlatten.fault? t c.root c.maxDepth m.opened.reverse m.top.file.loc m.number)

theorem Sound.stack_names (h : Sound t c loc m) (target : Location) :
    m.context.stack.map m.context.nameOf ++ [m.context.nameOf target.path] =
      (m.opened.reverse ++ [target]).map fun loc => Source.displayName c.root loc.path := by
  rw [h.stack, State.paths, List.map_append, ← List.map_reverse, List.map_map, List.map_singleton,
    ← h.root]
  rfl

/-- The fault of a line is what the walk fails with. -/
theorem Sound.step_error_iff (hc : c.Fresh) (h : Sound t c loc m) (failure : Failure) :
    Traversal.step t m = .error failure ↔ m.fault? t c = some failure := by
  have hname := (h.known _ List.mem_cons_self).name
  unfold Traversal.step State.fault?
  cases hl : m.line? t with
  | none => cases m.outer <;> simp
  | some line =>
    cases line with
    | unreadable reason => simp [GlslFlatten.fault?]
    | malformed defect => simp [GlslFlatten.fault?, hname]
    | copied text => simp [GlslFlatten.fault?]
    | directive d =>
      simp only [GlslFlatten.fault?, Option.bind_some, h.root]
      cases hr : Source.resolve t c.root d.path with
      | error e =>
        rcases Source.resolve_error hr with ⟨hfile, rfl⟩ | ⟨hfile, hreal, rfl⟩
        · simp [Expansion.blame, Expansion.OpenFile.origin, hname, hfile]
        · simp [Expansion.blame, hfile, hreal]
      | ok target =>
        obtain ⟨hfile, hreal⟩ := Source.resolve_eq_ok.mp hr
        simp only [hfile, hreal, if_true]
        have hopen := h.isOpen_iff (Source.plain_of_resolve hc.absolute hr)
        have hnames := h.stack_names target
        have htarget : m.context.nameOf target.path = Source.displayName c.root target.path := by
          rw [Context.nameOf, h.root]
        rw [htarget] at hnames
        have hlength : m.opened.reverse.length = m.outer.length + 1 := by
          simp [State.opened, State.frames]
        simp only [Context.enter_some, h.depth, h.maxDepth, hopen, hnames, htarget, hlength,
          Expansion.OpenFile.origin, hname, List.mem_reverse]
        by_cases ho : target ∈ m.opened
        · simp [ho]
        · by_cases hlimit : c.maxDepth ≤ m.outer.length + 1 <;> simp [ho, hlimit]

theorem Sound.fault?_of_step (hc : c.Fresh) (h : Sound t c loc m) {m' : State} (hs : Step t m m') :
    m.fault? t c = none := by
  cases hf : m.fault? t c with
  | none => rfl
  | some failure =>
    have := (h.step_error_iff hc failure).mpr hf
    rw [hs] at this
    cases this

end Traversal

/-- Memory without a limit takes every line, one by one. -/
theorem Sink.serves (t : Tree) (root : Path) (before : List String) :
    (Sink.output t).Serves t root (fun _ => True)
      (fun lines s => s.room = none ∧ s.lines = before ++ lines.map FlatLine.text)
      (fun _ _ _ => False) := by
  apply Output.serves_of_tree (fun _ => rfl)
  intro lines s line ⟨hroom, hlines⟩ hnewline
  have hsplit : splitAt '\n' line.text = [line.text] := by
    rw [splitAt, pieces_of_not_mem hnewline, List.map_singleton, String.ofList_toList]
  simp only [output, write, hroom, hsplit]
  exact ⟨trivial, by simp [hlines]⟩

open Traversal in
/-- A failed expansion stops at the first line that has a fault, fails with that fault, leaves the
files open that were open there, and has written the expansion of the lines before it. -/
theorem expand_error_blames {t : Tree} {config : Config} {c : Context} {source : String}
    {loc : Location} {failure : Failure} {out : Sink} {s : Progress Sink}
    (hc : Context.start t config = .ok c) (hr : Source.resolve t c.root source = .ok loc)
    (hroom : out.room = none)
    (hx : expand (Sink.output t) source { out, context := c } = .error failure s) :
    ∃ m ls, Run t (start c loc) m ∧
      (∀ m', Run t (start c loc) m' → Relation.TransGen (Step t) m' m → m'.fault? t c = none) ∧
      m.fault? t c = some failure ∧ s.context.stack = m.opened.reverse.map Location.path ∧
      OpenEmitted t c.root s.context.registry m.frames ls ∧
      s.out.lines = out.lines ++ ls.map FlatLine.text := by
  have hfresh := (Context.fresh_of_start hc).1
  have hends := expand_ends (s := { out, context := c }) (Sink.serves t c.root out.lines)
    ⟨hroom, (List.append_nil _).symm⟩ rfl hr (fun _ _ => trivial)
  rw [hx] at hends
  obtain ⟨m, hrun, hcontext, hstuck⟩ := hends
  obtain ⟨hstep, _, hlines⟩ := hstuck.resolve_right And.right
  have hs := Sound.of_run hfresh hr hrun
  refine ⟨m, m.lines, hrun, ?_, (hs.step_error_iff hfresh failure).mp hstep, ?_, ?_, hlines⟩
  · intro m' hrun' hbefore
    obtain ⟨next, hstep', _⟩ := Relation.TransGen.head'_iff.mp hbefore
    exact (Sound.of_run hfresh hr hrun').fault?_of_step hfresh hstep'
  · rw [hcontext, hs.stack, State.paths, List.map_reverse]
  · rw [hcontext]
    exact OpenEmitted.run hfresh hr hrun

open Traversal in
/-- The third line of the source asks for the source itself, when the second has been expanded. -/
theorem expand_error_blames_loop :
    let c : Context := { root := ⟨"/s"⟩, maxDepth := 9 }
    ∃ s m ls, expand (Sink.output .sample) "loop" { out := {}, context := c } =
        .error (.recursiveInclude "loop" "loop" 3 "loop -> loop") s ∧
      Run .sample (start c ["s", "loop"]) m ∧
      m.fault? .sample c = some (.recursiveInclude "loop" "loop" 3 "loop -> loop") ∧
      OpenEmitted .sample ⟨"/s"⟩ s.context.registry m.frames ls ∧
      s.out.lines = ls.map FlatLine.text ∧
      s.out.lines = ["x", "#line 1 1", "#line 1 2", "one", "#line 2 1", "two", "#line 3 0"] := by
  intro c
  have hc : Context.start .sample { root := ⟨"/s"⟩, maxDepth := 9 } = .ok c := by decide +kernel
  have hr : Source.resolve .sample c.root "loop" = .ok ["s", "loop"] := by decide +kernel
  have hx : let ended := expand (Sink.output .sample) "loop" { out := {}, context := c }
      failure? ended = some (.recursiveInclude "loop" "loop" 3 "loop -> loop") ∧
        (endState ended).out.lines =
          ["x", "#line 1 1", "#line 1 2", "one", "#line 2 1", "two", "#line 3 0"] := by
    decide +kernel
  obtain ⟨hfailure, hlines⟩ := hx
  have he := eq_error_of_failure? hfailure
  obtain ⟨m, ls, hrun, _, hfault, _, hemitted, hout⟩ := expand_error_blames hc hr rfl he
  exact ⟨_, m, ls, he, hrun, hfault, hemitted, hout, hlines⟩

/-- The second line asks for a regular file that is not open yet, and yet the expansion fails: the system
refuses to open the file. By then it has been entered, and its marker is written. -/
theorem expand_error_of_sealed :
    let t : Tree := {
      entries := [(["s"], .directory), (["s", "a"], .file (Utf8.bytes "x\n#include \"b\"\ny\n")),
        (["s", "b"], .sealed .denied)]
      workdir := [] }
    let c : Context := { root := ⟨"/s"⟩, maxDepth := 9 }
    Context.start t { root := ⟨"/s"⟩, maxDepth := 9 } = .ok c ∧
      Source.resolve t c.root "b" = .ok ["s", "b"] ∧
      ∃ s, expand (Sink.output t) "a" { out := {}, context := c } =
          .error (.unreadable ⟨"/s/b"⟩ .denied) s ∧
        s.out.lines = ["x", "#line 1 1"] ∧ s.context.stack = [⟨"/s/a"⟩, ⟨"/s/b"⟩] := by
  intro t c
  refine ⟨by decide +kernel, by decide +kernel, ?_⟩
  have hx : let ended := expand (Sink.output t) "a" { out := {}, context := c }
      failure? ended = some (.unreadable ⟨"/s/b"⟩ .denied) ∧
        (endState ended).out.lines = ["x", "#line 1 1"] ∧
        (endState ended).context.stack = [⟨"/s/a"⟩, ⟨"/s/b"⟩] := by
    decide +kernel
  obtain ⟨hfailure, hlines, hstack⟩ := hx
  exact ⟨_, eq_error_of_failure? hfailure, hlines, hstack⟩

end GlslFlatten
