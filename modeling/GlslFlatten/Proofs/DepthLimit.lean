import GlslFlatten.Proofs.WalkEnd

/-!
Expansions with different limits on open files. A walk goes the same way under a higher limit for as
long as it goes on under the lower one, so the lower limit can only end an expansion earlier.
-/

namespace GlslFlatten

open Expansion

namespace Context

/-- The same context with another limit on open files. -/
def withLimit (c : Context) (limit : Nat) : Context := { c with maxDepth := limit }

variable {c c' : Context} {p : Path} {o : Origin} {limit : Nat}

@[simp] theorem root_withLimit (c : Context) (limit : Nat) : (c.withLimit limit).root = c.root := rfl

@[simp] theorem registry_withLimit (c : Context) (limit : Nat) :
    (c.withLimit limit).registry = c.registry := rfl

@[simp] theorem leave_withLimit (c : Context) (limit : Nat) :
    (c.withLimit limit).leave = c.leave.withLimit limit := rfl

theorem start_withLimit {t : Tree} {config : Config} (h : start t config = .ok c) (limit : Nat) :
    start t { config with maxDepth := limit } = .ok (c.withLimit limit) := by
  unfold start at h ⊢
  cases hl : t.realPath config.root with
  | error e => simp [hl] at h
  | ok loc =>
    simp only [hl] at h
    cases h
    rfl

/-- A file that is opened under a limit is opened under a higher one. -/
theorem enter_withLimit (h : c.enter p (some o) = .ok c') (hle : c.maxDepth ≤ limit) :
    (c.withLimit limit).enter p (some o) = .ok (c'.withLimit limit) := by
  obtain ⟨hopen, hdepth, rfl⟩ := of_enter_some h
  exact enter_of_closed (c := c.withLimit limit) hopen (hdepth.trans_le hle) o

/-- A refusal that the limit has no part in is the same under every limit. -/
theorem refused_withLimit {failure : Failure} (h : c.enter p (some o) = .error failure) (limit : Nat) :
    failure = .depthExceeded (c.nameOf p) o.name o.line c.maxDepth ∨
      (c.withLimit limit).enter p (some o) = .error failure := by
  rw [enter_some] at h
  split at h
  · rename_i hopen
    right
    rw [← h]
    exact if_pos hopen
  · split at h
    · left
      exact (Except.error.inj h).symm
    · cases h

end Context

namespace Traversal

variable {t : Tree} {m m' : State} {limit : Nat}

def State.withLimit (m : State) (limit : Nat) : State :=
  { m with context := m.context.withLimit limit }

@[simp] theorem context_withLimit (m : State) (limit : Nat) :
    (m.withLimit limit).context = m.context.withLimit limit := rfl

@[simp] theorem top_withLimit (m : State) (limit : Nat) : (m.withLimit limit).top = m.top := rfl

@[simp] theorem lines_withLimit (m : State) (limit : Nat) : (m.withLimit limit).lines = m.lines := rfl

@[simp] theorem line?_withLimit (t : Tree) (m : State) (limit : Nat) :
    (m.withLimit limit).line? t = m.line? t := rfl

@[simp] theorem number_withLimit (m : State) (limit : Nat) :
    (m.withLimit limit).number = m.number := rfl

theorem start_withLimit (c : Context) (loc : Location) (limit : Nat) :
    start (c.withLimit limit) loc = (start c loc).withLimit limit := rfl

theorem Step.withLimit (h : Step t m m') (hle : m.context.maxDepth ≤ limit) :
    Step t (m.withLimit limit) (m'.withLimit limit) := by
  rcases step_cases h with ⟨text, hl, rfl⟩ | ⟨d, loc, context, hl, hr, he, rfl⟩ |
    ⟨includer, outer, hl, ho, rfl⟩
  · exact step_copied (m := m.withLimit limit) hl
  · have hentered := Context.enter_withLimit he hle
    exact step_directive (m := m.withLimit limit) hl hr hentered
  · exact step_end (m := m.withLimit limit) hl ho

/-- Under a higher limit the walk goes the same way, and perhaps further. -/
theorem Run.withLimit (h : Run t m m') (hle : m.context.maxDepth ≤ limit) :
    Run t (m.withLimit limit) (m'.withLimit limit) := by
  induction h with
  | refl => exact .refl
  | tail hrun hs ih =>
    apply ih.tail
    apply hs.withLimit
    rw [maxDepth_of_run hrun]
    exact hle

/-- Where a walk fails, it fails in the same way under every limit, unless too many files are open. -/
theorem step_error_withLimit {failure : Failure} (h : step t m = .error failure) (limit : Nat) :
    (∃ path origin line, failure = .depthExceeded path origin line m.context.maxDepth) ∨
      step t (m.withLimit limit) = .error failure := by
  unfold step at h ⊢
  rw [line?_withLimit]
  cases hl : m.line? t with
  | none => cases ho : m.outer <;> simp [hl, ho] at h
  | some line =>
    cases line with
    | unreadable reason =>
      right
      simpa [hl] using h
    | malformed defect =>
      right
      simpa [hl] using h
    | copied text => simp [hl] at h
    | directive d =>
      simp only [hl, context_withLimit, Context.root_withLimit, top_withLimit, number_withLimit] at h ⊢
      cases hr : Source.resolve t m.context.root d.path with
      | error e =>
        right
        simpa [hr] using h
      | ok loc =>
        simp only [hr] at h
        cases he : m.context.enter loc.path (some (m.top.file.origin m.number)) with
        | ok context => simp [he] at h
        | error refusal =>
          simp only [he, Except.error.injEq] at h
          subst h
          rcases Context.refused_withLimit he limit with rfl | he'
          · exact .inl ⟨_, _, _, rfl⟩
          · right
            simp [he']

theorem step_none_withLimit (h : step t m = .ok none) (limit : Nat) :
    step t (m.withLimit limit) = .ok none := by
  obtain ⟨hl, ho⟩ := step_eq_end_iff.mp h
  exact step_eq_end_iff.mpr ⟨hl, ho⟩

/-- The ends of a walk under two limits are the same, or the lower limit has stopped it on the way. -/
theorem Final.withLimit {m₀ : State} (hrun : Run t m₀ m) (hfinal : Final t m)
    (hrun' : Run t (m₀.withLimit limit) m') (hfinal' : Final t m')
    (hle : m₀.context.maxDepth ≤ limit) :
    m' = m.withLimit limit ∧ m'.ending t = ((m.ending t).1, (m.ending t).2.withLimit limit) ∨
    (∃ path origin line, (m.ending t).1 = some (.depthExceeded path origin line m₀.context.maxDepth)) ∧
      Run t (m.withLimit limit) m' := by
  have hhigh := hrun.withLimit hle
  cases hstep : step t m with
  | error failure =>
    rcases step_error_withLimit hstep limit with ⟨path, origin, line, rfl⟩ | hstep'
    · right
      rw [maxDepth_of_run hrun] at hstep
      rw [State.ending_of_error hstep]
      exact ⟨⟨path, origin, line, rfl⟩, hfinal'.reached hrun' hhigh⟩
    · left
      obtain rfl := hfinal'.unique (final_of_error hstep') hrun' hhigh
      rw [State.ending_of_error hstep', State.ending_of_error hstep]
      exact ⟨rfl, rfl⟩
  | ok next =>
    cases next with
    | some next => exact absurd hstep (hfinal next)
    | none =>
      left
      have hstep' := step_none_withLimit hstep limit
      obtain rfl := hfinal'.unique (final_of_end hstep') hrun' hhigh
      rw [State.ending_of_end hstep', State.ending_of_end hstep]
      exact ⟨rfl, rfl⟩

end Traversal

open Traversal in
/-- Under a higher limit an expansion ends in the same way, with the same text and the same context, or
the lower limit was exceeded, and what there is then is the beginning of what there is under the higher
one. A fresh context is a case of this. -/
theorem expand_withLimit (t : Tree) {c : Context} {limit : Nat} (hle : c.maxDepth ≤ limit)
    (source : String) {out : Sink} (hroom : out.room = none) :
    let low := expand (Sink.output t) source { out, context := c }
    let high := expand (Sink.output t) source { out, context := c.withLimit limit }
    (∀ config, Context.start t config = .ok c →
      Context.start t { config with maxDepth := limit } = .ok (c.withLimit limit)) ∧
    (failure? high = failure? low ∧ (endState high).out = (endState low).out ∧
        (endState high).context = (endState low).context.withLimit limit ∨
      (∃ path origin line, failure? low = some (.depthExceeded path origin line c.maxDepth)) ∧
        (endState low).out.lines <+: (endState high).out.lines ∧
        (endState low).context.registry.Extends (endState high).context.registry) := by
  intro low high
  refine ⟨fun config h => Context.start_withLimit h limit, ?_⟩
  cases hr : Source.resolve t c.root source with
  | error failure =>
    left
    have hlow : low = .error failure { out, context := c } := expand_of_unresolved hr
    have hhigh : high = .error failure { out, context := c.withLimit limit } :=
      expand_of_unresolved hr
    rw [hlow, hhigh]
    exact ⟨rfl, rfl, rfl⟩
  | ok loc =>
    obtain ⟨m, hrun, hfinal, hfailure, hcontext, hout⟩ := expand_reaches_end (x := low) hroom hr rfl
    obtain ⟨m', hrun', hfinal', hfailure', hcontext', hout'⟩ :=
      expand_reaches_end (c := c.withLimit limit) (x := high) hroom hr rfl
    rw [start_withLimit] at hrun'
    rcases Final.withLimit hrun hfinal hrun' hfinal' hle with ⟨rfl, hending⟩ | ⟨hexceeded, hbehind⟩
    · left
      refine ⟨?_, ?_, ?_⟩
      · rw [hfailure', hfailure, hending]
      · rw [hout', hout, lines_withLimit]
      · rw [hcontext', hcontext, hending]
    · right
      obtain ⟨path, origin, line, hexceeded⟩ := hexceeded
      refine ⟨⟨path, origin, line, hfailure.trans hexceeded⟩, ?_, ?_⟩
      · rw [hout, hout']
        exact (List.prefix_append_right_inj _).mpr ((lines_of_run hbehind).map _)
      · have hregistry := extends_of_run hbehind
        rw [context_withLimit, Context.registry_withLimit] at hregistry
        rwa [hcontext, hcontext', State.registry_ending, State.registry_ending]

/-- The source includes a file that includes another one. With room for two files the second of them is
not opened any more, and its includer is cut off before its first line. -/
theorem expand_withLimit_sample :
    let c : Context := { root := ⟨"/s"⟩, maxDepth := 2 }
    let low := expand (Sink.output .sample) "main" { out := {}, context := c }
    let high := expand (Sink.output .sample) "main" { out := {}, context := c.withLimit 3 }
    failure? low = some (.depthExceeded "lib" "b" 1 2) ∧ failure? high = none ∧
      (endState low).out.lines = ["#line 1 1"] ∧
      (endState low).out.lines <+: (endState high).out.lines := by
  intro c low high
  have hlow : failure? low = some (.depthExceeded "lib" "b" 1 2) := by decide +kernel
  have hhigh : failure? high = none := by decide +kernel
  refine ⟨hlow, hhigh, by decide +kernel, ?_⟩
  obtain ⟨_, hsame | ⟨_, hlines, _⟩⟩ := @expand_withLimit .sample c 3 (by decide) "main" {} rfl
  · have hfailure : failure? high = failure? low := hsame.1
    rw [hlow, hhigh] at hfailure
    cases hfailure
  · exact hlines

end GlslFlatten
