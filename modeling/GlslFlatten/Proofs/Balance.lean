import GlslFlatten.Proofs.WalkEnd

/-!
What an expansion leaves in its context, whatever was there before. If it ends well, the files that it
has opened are closed again and stay registered. Then the same expansion finds all of them registered,
writes the same lines and changes nothing. If it fails, the files that are open there stay open.
-/

namespace GlslFlatten

open Expansion

namespace Output

variable {σ : Type} {o : Output σ} {t : Tree} {out mid : σ} {lines before : List FlatLine}

/-- Writes lines until one of them is refused. -/
def writeAll (o : Output σ) : List FlatLine → σ → Except IoError Unit × σ
  | [], out => (.ok (), out)
  | line :: lines, out =>
    match o.write line out with
    | (.ok (), out) => o.writeAll lines out
    | (.error e, out) => (.error e, out)

/-- All lines but the last are written, and the last one is refused. -/
def Refuses (o : Output σ) (out : σ) (lines : List FlatLine) (failure : Failure) (out' : σ) : Prop :=
  (o.writeAll lines.dropLast out).1 = .ok () ∧
    ∃ e, failure = .system e ∧ o.writeAll lines out = (.error e, out')

theorem writeAll_append (h : o.writeAll before out = (.ok (), mid)) (lines : List FlatLine) :
    o.writeAll (before ++ lines) out = o.writeAll lines mid := by
  induction before generalizing out with
  | nil =>
    cases h
    rfl
  | cons line before ih =>
    rw [writeAll] at h
    split at h
    · rename_i hwrite
      rw [List.cons_append, writeAll, hwrite]
      exact ih h
    · cases h

theorem writeAll_singleton (o : Output σ) (line : FlatLine) (out : σ) :
    o.writeAll [line] out = o.write line out := by
  rw [writeAll]
  split
  · rename_i hwrite
    rw [hwrite]
    rfl
  · rename_i hwrite
    rw [hwrite]

/-- Lines that are taken are taken up to each of them. -/
theorem writeAll_of_prefix (h : before <+: lines) (hlines : (o.writeAll lines out).1 = .ok ()) :
    (o.writeAll before out).1 = .ok () := by
  obtain ⟨more, rfl⟩ := h
  induction before generalizing out with
  | nil => rfl
  | cons line before ih =>
    rw [List.cons_append, writeAll] at hlines
    rw [writeAll]
    split at hlines
    · exact ih hlines
    · cases hlines

/-- An output that leaves the tree alone, with all that is known of its lines. -/
theorem serves_of_writes (h : ∀ s, o.tree s = t) (root : Path) (out : σ) :
    o.Serves t root (fun _ => True) (fun lines s => o.writeAll lines out = (.ok (), s))
      (fun lines s failure => o.Refuses out lines failure s) := by
  apply serves_of_tree h
  intro lines s line hlines hline
  have hconcat := writeAll_append hlines [line]
  rw [writeAll_singleton] at hconcat
  split
  · rename_i hwrite
    rw [hconcat, hwrite]
  · rename_i e s' hwrite
    refine ⟨?_, e, rfl, hconcat.trans hwrite⟩
    rw [List.dropLast_concat, hlines]

end Output

namespace Context

variable {c c' : Context} {p : Path} {r : Registry}

/-- The same context with another registry. -/
def withRegistry (c : Context) (r : Registry) : Context := { c with registry := r }

theorem enter_withRegistry {o : Origin} (h : c.enter p (some o) = .ok c') (r : Registry) :
    (c.withRegistry r).enter p (some o) = .ok (c'.withRegistry r) := by
  obtain ⟨hopen, hdepth, rfl⟩ := of_enter_some h
  exact enter_of_closed (c := c.withRegistry r) hopen hdepth o

/-- A file has the same number in every registry that extends the one in which it is registered. -/
theorem register_withRegistry {name : String} {includer : Option Nat}
    (h : (c.register p name includer).2.registry.Extends r) :
    (c.withRegistry r).register p name includer =
      ((c.register p name includer).1, (c.register p name includer).2.withRegistry r) := by
  have hindex := h.indexOf? (Registry.indexOf?_register c.registry p name includer)
  have hagain : r.register p name includer = ((c.registry.register p name includer).1, r) :=
    Registry.register_of_indexOf? hindex name includer
  simp [register, withRegistry, hagain]

end Context

namespace Traversal

variable {t : Tree} {m m' : State} {r : Registry} {c : Context} {loc : Location}

def State.withRegistry (m : State) (r : Registry) : State :=
  { m with context := m.context.withRegistry r }

theorem openFile_withRegistry {outer : List Frame} {lines : List FlatLine} {includer : Option Nat}
    (h : (openFile c outer lines loc includer).context.registry.Extends r) :
    openFile (c.withRegistry r) outer lines loc includer =
      (openFile c outer lines loc includer).withRegistry r := by
  have hname : (c.withRegistry r).nameOf loc.path = c.nameOf loc.path := rfl
  have hregister := Context.register_withRegistry h
  rw [openFile, hname, hregister]
  rfl

/-- A walk goes the same way if the files that it opens are registered beforehand. -/
theorem Step.withRegistry (h : Step t m m') (he : m'.context.registry.Extends r) :
    Step t (m.withRegistry r) (m'.withRegistry r) := by
  rcases step_cases h with ⟨text, hl, rfl⟩ | ⟨d, loc, context, hl, hr, henter, rfl⟩ |
    ⟨includer, outer, hl, ho, rfl⟩
  · exact step_copied (m := m.withRegistry r) hl
  · have hentered := Context.enter_withRegistry henter r
    have hstep := step_directive (m := m.withRegistry r) hl hr hentered
    have hopened := openFile_withRegistry he
    exact hopened ▸ hstep
  · exact step_end (m := m.withRegistry r) hl ho

theorem Run.withRegistry (h : Run t m m') (he : m'.context.registry.Extends r) :
    Run t (m.withRegistry r) (m'.withRegistry r) := by
  induction h with
  | refl => exact .refl
  | tail _ hs ih => exact (ih ((extends_of_step hs).trans he)).tail (hs.withRegistry he)

/-- Once the walk over a file has come to its end, it leads to the same state again. -/
theorem run_again (hrun : Run t (start c loc) m) :
    Run t (start (c.withRegistry m.context.registry) loc) m := by
  have hstart : start (c.withRegistry m.context.registry) loc =
      (start c loc).withRegistry m.context.registry :=
    openFile_withRegistry (c := { c with stack := c.stack ++ [loc.path] }) (extends_of_run hrun)
  rw [hstart]
  exact Run.withRegistry hrun (.refl _)

/-- The stack of the context holds the open files above what was there before the walk. -/
theorem stack_of_run {source : String} (hr : Source.resolve t c.root source = .ok loc)
    (hrun : Run t (start c loc) m) : m.context.stack = c.stack ++ m.paths :=
  ((Nested.start (Source.isRegular_of_resolve hr)).run hrun).stack

/-- At its end the walk leaves the context as it was, but for the registry. -/
theorem leave_of_end {source : String} (hr : Source.resolve t c.root source = .ok loc)
    (hrun : Run t (start c loc) m) (hend : step t m = .ok none) :
    m.context.leave = c.withRegistry m.context.registry := by
  have houter := (step_eq_end_iff.mp hend).2
  have hpaths : m.paths = [m.top.file.loc.path] := by
    simp [State.paths, State.opened, State.frames, houter]
  have hroot : m.context.root = c.root := root_of_run hrun
  have hdepth : m.context.maxDepth = c.maxDepth := maxDepth_of_run hrun
  have hstack : m.context.stack.dropLast = c.stack := by
    rw [stack_of_run hr hrun, hpaths, List.dropLast_concat]
  rw [Context.leave, hstack, Context.withRegistry, ← hroot, ← hdepth]

/-- An expansion has failed at a point of the walk: the walk cannot go on, or the output has refused
the line that the walk has just written. -/
def FailsAt {σ : Type} (o : Output σ) (t : Tree) (out : σ) (m : State) (failure : Failure)
    (out' : σ) : Prop :=
  step t m = .error failure ∧ o.writeAll m.lines out = (.ok (), out') ∨
    o.Refuses out m.lines failure out'

end Traversal

section Balance

open Traversal

variable {σ : Type} {o : Output σ} {t : Tree} {source : String} {loc : Location} {m : State}
  {s s' : Progress σ}

/-- An expansion that ends well has gone to the end of its walk. -/
theorem walk_of_ok (ho : ∀ out, o.tree out = t) (hx : expand o source s = .ok () s') :
    ∃ loc m, Source.resolve t s.context.root source = .ok loc ∧ Run t (start s.context loc) m ∧
      step t m = .ok none ∧ s'.context = m.context.leave ∧
      o.writeAll m.lines s.out = (.ok (), s'.out) := by
  cases hr : Source.resolve t s.context.root source with
  | error e =>
    rw [expand_of_unresolved (ho s.out ▸ hr)] at hx
    cases hx
  | ok loc =>
    have hends := expand_ends (Output.serves_of_writes ho s.context.root s.out) rfl (by rw [ho]) hr
      (fun _ _ => trivial)
    rw [hx] at hends
    obtain ⟨m, hrun, hline, houter, hcontext, hlines⟩ := hends
    exact ⟨loc, m, rfl, hrun, step_eq_end_iff.mpr ⟨hline, houter⟩, hcontext, hlines⟩

/-- An expansion that fails has not begun, or has gone to some point of its walk. -/
theorem walk_of_error {failure : Failure} (ho : ∀ out, o.tree out = t)
    (hx : expand o source s = .error failure s') :
    (∃ e, Source.resolve t s.context.root source = .error e) ∧ s'.context = s.context ∨
    ∃ loc m, Source.resolve t s.context.root source = .ok loc ∧ Run t (start s.context loc) m ∧
      s'.context = m.context ∧ FailsAt o t s.out m failure s'.out := by
  cases hr : Source.resolve t s.context.root source with
  | error e =>
    rw [expand_of_unresolved (ho s.out ▸ hr)] at hx
    cases hx
    exact .inl ⟨⟨_, rfl⟩, rfl⟩
  | ok loc =>
    have hends := expand_ends (Output.serves_of_writes ho s.context.root s.out) rfl (by rw [ho]) hr
      (fun _ _ => trivial)
    rw [hx] at hends
    obtain ⟨m, hrun, hcontext, hstuck⟩ := hends
    exact .inr ⟨loc, m, rfl, hrun, hcontext, hstuck.imp_right And.right⟩

/-- Where the walk comes to an end, an expansion ends well if the output takes all lines. -/
theorem expand_of_run (ho : ∀ out, o.tree out = t)
    (hr : Source.resolve t s.context.root source = .ok loc) (hrun : Run t (start s.context loc) m)
    (hend : step t m = .ok none) {out : σ} (hwrite : o.writeAll m.lines s.out = (.ok (), out)) :
    ∃ s', expand o source s = .ok () s' ∧ s'.context = m.context.leave ∧ s'.out = out := by
  cases hx : expand o source s with
  | ok u s' =>
    obtain ⟨loc', m', hr', hrun', hend', hcontext, hlines⟩ := walk_of_ok ho hx
    obtain rfl := Except.ok.inj (hr.symm.trans hr')
    obtain rfl := (final_of_end hend').unique (final_of_end hend) hrun' hrun
    rw [hlines] at hwrite
    exact ⟨s', rfl, hcontext, (Prod.mk.inj hwrite).2⟩
  | error failure s' =>
    rcases walk_of_error ho hx with ⟨⟨e, hr'⟩, _⟩ | ⟨loc', m', hr', hrun', _, hfails⟩
    · cases hr.symm.trans hr'
    obtain rfl := Except.ok.inj (hr.symm.trans hr')
    rcases hfails with ⟨hstep, _⟩ | ⟨_, e, _, hrefused⟩
    · obtain rfl := (final_of_error hstep).unique (final_of_end hend) hrun' hrun
      rw [hend] at hstep
      cases hstep
    · have hprefix := lines_of_run ((final_of_end hend).reached hrun hrun')
      have htaken := Output.writeAll_of_prefix hprefix (congrArg Prod.fst hwrite)
      rw [hrefused] at htaken
      cases htaken

/-- An expansion only adds to the registry. If it ends well, the stack is as before, and the same
expansion over again, to an output that takes the same lines, writes them and leaves the context alone.
If it fails, the stack holds in addition the files that are open at the failure: the source at the
bottom, and above each file the one that the line to which it has come asks for. -/
theorem expand_balanced (ho : ∀ out, o.tree out = t) (source : String) (s : Progress σ) :
    let c := s.context
    let c' := (endState (expand o source s)).context
    c.registry.Extends c'.registry ∧
    (∀ s', expand o source s = .ok () s' →
      c'.stack = c.stack ∧
      ∃ lines, o.writeAll lines s.out = (.ok (), s'.out) ∧
        ∀ again out, again.context = c' → o.writeAll lines again.out = (.ok (), out) →
          ∃ s'', expand o source again = .ok () s'' ∧ s''.context = c' ∧ s''.out = out) ∧
    ∀ failure s', expand o source s = .error failure s' →
      (∃ e, Source.resolve t c.root source = .error e) ∧ c' = c ∨
      ∃ loc m, Source.resolve t c.root source = .ok loc ∧ Run t (start c loc) m ∧
        FailsAt o t s.out m failure s'.out ∧ c'.stack = c.stack ++ m.paths ∧
        m.frames.IsChain (Asks t c.root) ∧ m.opened.getLast? = some loc := by
  intro c c'
  refine ⟨?_, fun s' hx => ?_, fun failure s' hx => ?_⟩
  · have hgrow := expand_grows o source s
    rw [← endState_eq_remains] at hgrow
    exact hgrow
  all_goals
    have hc' : c' = s'.context := by simp only [c', hx, endState]
    rw [hc']
  · obtain ⟨loc, m, hr, hrun, hend, hcontext, hlines⟩ := walk_of_ok ho hx
    have hleft : s'.context = c.withRegistry m.context.registry :=
      hcontext.trans (leave_of_end hr hrun hend)
    refine ⟨?_, m.lines, hlines, fun again out hagain hwrite => ?_⟩
    · rw [hleft]
      rfl
    · have hsame : again.context = c.withRegistry m.context.registry := hagain.trans hleft
      have hr' : Source.resolve t again.context.root source = .ok loc := by
        rw [hsame]
        exact hr
      have hrun' : Run t (start again.context loc) m := by
        rw [hsame]
        exact run_again hrun
      obtain ⟨s'', hx', hcontext', hout⟩ := expand_of_run ho hr' hrun' hend hwrite
      exact ⟨s'', hx', hcontext'.trans hcontext.symm, hout⟩
  · rcases walk_of_error ho hx with hunresolved | ⟨loc, m, hr, hrun, hcontext, hfails⟩
    · exact .inl hunresolved
    · obtain ⟨hlinked, hbottom⟩ := linked_of_run hrun
      refine .inr ⟨loc, m, hr, hrun, hfails, ?_, hlinked, hbottom⟩
      rw [hcontext, stack_of_run hr hrun]

/-- A context in which a file is registered and another one was left open. -/
theorem expand_balanced_sample :
    let c : Context :=
      { root := ⟨"/s"⟩, maxDepth := 9, registry := ⟨[⟨⟨"/s/lib"⟩, "lib", none⟩]⟩, stack := [⟨"/s/loop"⟩] }
    let first := expand (Sink.output .sample) "main" { out := {}, context := c }
    (endState first).context.stack = [⟨"/s/loop"⟩] ∧
      ∃ s'', expand (Sink.output .sample) "main" { out := {}, context := (endState first).context } =
          .ok () s'' ∧
        s''.context = (endState first).context ∧ s''.out = (endState first).out := by
  intro c first
  have hwell : failure? first = none := by decide +kernel
  obtain ⟨_, hended, _⟩ := expand_balanced (o := Sink.output .sample) (t := .sample) (fun _ => rfl)
    "main" { out := {}, context := c }
  cases hx : first with
  | ok u s' =>
    obtain ⟨hstack, lines, hlines, hagain⟩ := hended s' hx
    change expand _ _ _ = _ at hx
    rw [hx] at hstack hagain
    exact ⟨hstack, hagain { out := {}, context := s'.context } s'.out rfl hlines⟩
  | error failure s' =>
    rw [hx] at hwell
    cases hwell

end Balance

end GlslFlatten
