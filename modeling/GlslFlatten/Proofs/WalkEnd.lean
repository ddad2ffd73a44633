import GlslFlatten.Proofs.Blame

/-!
The ends of walks. Steps are determined, so every point of a walk is on the way to its end, and an
expansion into memory without a limit ends there, whatever was in its context before.
-/

namespace GlslFlatten

open Expansion

namespace Traversal

variable {t : Tree} {m m₁ m₂ : State} {failure : Failure}

/-- The walk cannot go on. -/
def Final (t : Tree) (m : State) : Prop := ∀ next, ¬ Step t m next

theorem final_of_error (h : step t m = .error failure) : Final t m := by
  intro next hs
  rw [Step, h] at hs
  cases hs

theorem final_of_end (h : step t m = .ok none) : Final t m := by
  intro next hs
  rw [Step, h] at hs
  cases hs

/-- Every point of a walk is on the way to its end. -/
theorem Final.reached (h : Final t m₂) (hend : Run t m m₂) (hrun : Run t m m₁) : Run t m₁ m₂ := by
  have hunique : Relator.RightUnique (Step t) := fun _ _ _ hs hs' => hs.unique hs'
  rcases Relation.ReflTransGen.total_of_right_unique hunique hrun hend with hbefore | hbehind
  · exact hbefore
  · rcases Relation.ReflTransGen.cases_head hbehind with rfl | ⟨next, hs, _⟩
    · exact .refl
    · exact absurd hs (h next)

/-- A walk has only one end. -/
theorem Final.unique (h₁ : Final t m₁) (h₂ : Final t m₂) (hrun₁ : Run t m m₁) (hrun₂ : Run t m m₂) :
    m₁ = m₂ := by
  rcases Relation.ReflTransGen.cases_head (h₂.reached hrun₂ hrun₁) with rfl | ⟨next, hs, _⟩
  · rfl
  · exact absurd hs (h₁ next)

/-- What has been written stays. -/
theorem lines_of_run (h : Run t m₁ m₂) : m₁.lines <+: m₂.lines := by
  induction h with
  | refl => exact List.prefix_rfl
  | tail _ hs ih =>
    obtain ⟨more, hmore, _⟩ := written_of_step hs
    exact ih.trans ⟨more, hmore.symm⟩

/-- The failure that a walk ends with, if it is one, and the context that is left. -/
def State.ending (t : Tree) (m : State) : Option Failure × Context :=
  match step t m with
  | .error failure => (some failure, m.context)
  | .ok _ => (none, m.context.leave)

theorem State.ending_of_error (h : step t m = .error failure) :
    m.ending t = (some failure, m.context) := by
  simp [ending, h]

theorem State.ending_of_end (h : step t m = .ok none) : m.ending t = (none, m.context.leave) := by
  simp [ending, h]

theorem State.registry_ending (t : Tree) (m : State) :
    (m.ending t).2.registry = m.context.registry := by
  unfold ending
  cases step t m <;> rfl

end Traversal

open Traversal in
/-- An expansion into memory without a limit goes to the end of its walk and has written what the walk
has written. -/
theorem expand_reaches_end {t : Tree} {c : Context} {source : String} {loc : Location} {out : Sink}
    {x : EStateM.Result Failure (Progress Sink) Unit} (hroom : out.room = none)
    (hr : Source.resolve t c.root source = .ok loc)
    (hx : expand (Sink.output t) source { out, context := c } = x) :
    ∃ m, Run t (start c loc) m ∧ Final t m ∧
      failure? x = (m.ending t).1 ∧ (endState x).context = (m.ending t).2 ∧
      (endState x).out = { out with lines := out.lines ++ m.lines.map FlatLine.text } := by
  have hends := expand_ends (s := { out, context := c }) (Sink.serves t c.root out.lines)
    ⟨hroom, (List.append_nil _).symm⟩ rfl hr (fun _ _ => trivial)
  rw [hx] at hends
  have hout : ∀ s : Sink, ∀ lines, s.room = none ∧ s.lines = lines → s = { out with lines } := by
    rintro ⟨_, _⟩ lines ⟨rfl, rfl⟩
    rw [hroom]
  cases x with
  | ok u s =>
    obtain ⟨m, hrun, hend, houter, hcontext, hlines⟩ := hends
    have hstep := step_eq_end_iff.mpr ⟨hend, houter⟩
    refine ⟨m, hrun, final_of_end hstep, ?_, ?_, hout _ _ hlines⟩
    · rw [State.ending_of_end hstep, failure?]
    · rw [State.ending_of_end hstep, endState, hcontext]
  | error failure s =>
    obtain ⟨m, hrun, hcontext, hstuck⟩ := hends
    obtain ⟨hstep, hlines⟩ := hstuck.resolve_right And.right
    refine ⟨m, hrun, final_of_error hstep, ?_, ?_, hout _ _ hlines⟩
    · rw [State.ending_of_error hstep, failure?]
    · rw [State.ending_of_error hstep, endState, hcontext]

end GlslFlatten
