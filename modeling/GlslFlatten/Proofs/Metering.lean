import GlslFlatten.Failure
import GlslFlatten.Output
import GlslFlatten.Proofs.Effects

/-!
Reports with room for some lines only. What writes to a report goes as it would with an unlimited one
until a line does not fit, and there it ends with the failure of the report.
-/

namespace GlslFlatten

namespace Sink

/-- What a sink with room for everything is when it has taken the texts. -/
def accept (s : Sink) (texts : List String) : Sink :=
  { s with lines := s.lines ++ texts.flatMap (Text.splitAt '\n') }

@[simp] theorem room_accept (s : Sink) (texts : List String) : (s.accept texts).room = s.room := rfl

@[simp] theorem accept_nil (s : Sink) : s.accept [] = s := by simp [accept]

@[simp] theorem accept_accept (s : Sink) (texts more : List String) :
    (s.accept texts).accept more = s.accept (texts ++ more) := by simp [accept]

theorem write_of_room {s : Sink} (h : s.room = none) (text : String) :
    s.write text = (.ok (), s.accept [text]) := by simp [write, accept, h]

/-- The sink with room for `n` lines in all, those that it holds included. -/
def limited (n : Nat) (s : Sink) : Sink := { s with room := some (n - s.lines.length) }

/-- The sink when it has refused a line: it holds the first `n` of those that were to be written. -/
def filled (n : Nat) (s : Sink) : Sink := ⟨s.lines.take n, some 0⟩

/-- An unlimited sink to which lines have been written. -/
structure Grows (s s' : Sink) : Prop where
  unlimited : s'.room = none
  lines : s.lines <+: s'.lines

variable {s s' s'' : Sink} {n : Nat}

theorem Grows.refl (h : s.room = none) : s.Grows s := ⟨h, List.prefix_rfl⟩

theorem Grows.trans (h : s.Grows s') (h' : s'.Grows s'') : s.Grows s'' :=
  ⟨h'.unlimited, h.lines.trans h'.lines⟩

theorem Grows.accept (h : s.room = none) (texts : List String) : s.Grows (s.accept texts) :=
  ⟨h, List.prefix_append _ _⟩

/-- What does not fit is not changed by what follows it. -/
theorem Grows.filled (h : s.Grows s') (hn : n < s.lines.length) : s'.filled n = s.filled n := by
  obtain ⟨more, hmore⟩ := h.lines
  rw [Sink.filled, Sink.filled, ← hmore, List.take_append_of_le_length (Nat.le_of_lt hn)]

theorem write_limited (h : s.lines.length ≤ n) (text : String) : (s.limited n).write text =
    if (s.accept [text]).lines.length ≤ n then (.ok (), (s.accept [text]).limited n)
    else (.error .sinkFull, (s.accept [text]).filled n) := by
  have hlines : (s.accept [text]).lines = s.lines ++ Text.splitAt '\n' text := by simp [accept]
  have hfits : (s.accept [text]).lines.length ≤ n ↔
      (Text.splitAt '\n' text).length ≤ n - s.lines.length := by
    rw [hlines, List.length_append]
    omega
  simp only [write, limited, hfits]
  by_cases hroom : (Text.splitAt '\n' text).length ≤ n - s.lines.length
  · rw [if_pos hroom, if_pos hroom, List.take_of_length_le hroom, hlines, List.length_append,
      Nat.sub_sub]
  · rw [if_neg hroom, if_neg hroom, filled, hlines, List.take_append, List.take_of_length_le h,
      Nat.sub_eq_zero_of_le (Nat.le_of_not_le hroom)]

theorem write_filled (text : String) : (s.filled n).write text = (.error .sinkFull, s.filled n) := by
  have hpos : ¬ (Text.splitAt '\n' text).length ≤ 0 := by
    rw [Nat.le_zero, List.length_eq_zero_iff]
    exact Text.splitAt_ne_nil _ _
  simp [write, filled, hpos]

end Sink

/-- States with a report in them. -/
class Reporting (σ : Type) where
  report : σ → Sink
  withReport : σ → Sink → σ
  report_withReport : ∀ s r, report (withReport s r) = r
  withReport_withReport : ∀ s r r', withReport (withReport s r) r' = withReport s r'

namespace Reporting

variable {σ α β : Type} [Reporting σ]

def limited (n : Nat) (s : σ) : σ := withReport s ((report s).limited n)

/-- The same end with another state. -/
def mapState (f : σ → σ) : EStateM.Result Failure σ α → EStateM.Result Failure σ α
  | .ok a s => .ok a (f s)
  | .error e s => .error e (f s)

omit [Reporting σ] in
@[simp] theorem failure?_mapState (f : σ → σ) (r : EStateM.Result Failure σ α) :
    failure? (mapState f r) = failure? r := by cases r <;> rfl

omit [Reporting σ] in
@[simp] theorem endState_mapState (f : σ → σ) (r : EStateM.Result Failure σ α) :
    endState (mapState f r) = f (endState r) := by cases r <;> rfl

/-- The end of a computation with room for `n` lines in all, beside its end without a limit. -/
def Cut (n : Nat) (r r' : EStateM.Result Failure σ α) : Prop :=
  ((report (endState r)).lines.length ≤ n ∧ r' = mapState (limited n) r) ∨
    (n < (report (endState r)).lines.length ∧
      ∃ s, r' = .error (.system .sinkFull) s ∧ report s = (report (endState r)).filled n)

/-- Lines are only added to the report, and the first that does not fit is the end. -/
def Metered (x : EStateM Failure σ α) : Prop :=
  ∀ s : σ, (report s).room = none → (report s).Grows (report (endState (x s))) ∧
    ∀ n, (report s).lines.length ≤ n → Cut n (x s) (x (limited n s))

/-- Where the room ends, the lines end. -/
theorem Cut.lines {n : Nat} {r r' : EStateM.Result Failure σ α} (h : Cut n r r') :
    (report (endState r')).lines = (report (endState r)).lines.take n := by
  rcases h with ⟨hfits, rfl⟩ | ⟨-, s, rfl, hs⟩
  · rw [endState_mapState, limited, report_withReport, List.take_of_length_le hfits]
    rfl
  · rw [endState, hs]
    rfl

/-- What has not fitted is not written later. -/
theorem Cut.of_filled {n : Nat} {r : EStateM.Result Failure σ α} {s s' : σ}
    (h : (report s).Grows (report (endState r))) (hn : n < (report s).lines.length)
    (hs : report s' = (report s).filled n) : Cut n r (.error (.system .sinkFull) s') :=
  .inr ⟨Nat.lt_of_lt_of_le hn h.lines.length_le, s', rfl, by rw [hs, h.filled hn]⟩

namespace Metered

theorem pure (a : α) : Metered (pure a : EStateM Failure σ α) :=
  fun _ hs => ⟨.refl hs, fun _ hn => .inl ⟨hn, rfl⟩⟩

theorem throw (e : Failure) : Metered (throw e : EStateM Failure σ α) :=
  fun _ hs => ⟨.refl hs, fun _ hn => .inl ⟨hn, rfl⟩⟩

/-- What does not look at the report and does not touch it. -/
theorem modify {f : σ → σ} (hreport : ∀ s, report (f s) = report s)
    (hlimited : ∀ n s, f (limited n s) = limited n (f s)) :
    Metered (modify f : EStateM Failure σ PUnit) := by
  intro s hs
  have hs' := hreport s
  rw [modify_run]
  refine ⟨⟨hs' ▸ hs, hs' ▸ List.prefix_rfl⟩, fun n hn => .inl ⟨hs' ▸ hn, ?_⟩⟩
  rw [modify_run, hlimited]
  rfl

theorem modifyGet {f : σ → α × σ} (hreport : ∀ s, report (f s).2 = report s)
    (hlimited : ∀ n s, f (limited n s) = ((f s).1, limited n (f s).2)) :
    Metered (modifyGet f : EStateM Failure σ α) := by
  intro s hs
  have hs' := hreport s
  rw [modifyGet_run]
  refine ⟨⟨hs' ▸ hs, hs' ▸ List.prefix_rfl⟩, fun n hn => .inl ⟨hs' ▸ hn, ?_⟩⟩
  rw [modifyGet_run, hlimited]
  rfl

/-- What follows may depend on the state, but not on the report in it. -/
theorem get_bind {f : σ → EStateM Failure σ α} (h : ∀ s, Metered (f s))
    (hlimited : ∀ n s, f (limited n s) = f s) : Metered (get >>= f) := by
  intro s hs
  obtain ⟨hgrows, hcut⟩ := h s s hs
  refine ⟨hgrows, fun n hn => ?_⟩
  simp only [bind_run, get_run, hlimited]
  exact hcut n hn

theorem bind {x : EStateM Failure σ α} {f : α → EStateM Failure σ β} (hx : Metered x)
    (hf : ∀ a, Metered (f a)) : Metered (x >>= f) := by
  intro s hs
  obtain ⟨hgrows, hcut⟩ := hx s hs
  simp only [bind_run]
  cases hxs : x s with
  | error e s₁ =>
    rw [hxs] at hgrows hcut
    refine ⟨hgrows, fun n hn => ?_⟩
    rcases hcut n hn with ⟨hfits, hr⟩ | ⟨hfull, s', hr, hs'⟩
    · exact .inl ⟨hfits, by rw [hr]; rfl⟩
    · exact .inr ⟨hfull, s', by rw [hr], hs'⟩
  | ok a s₁ =>
    rw [hxs] at hgrows hcut
    obtain ⟨hgrows₁, hcut₁⟩ := hf a s₁ hgrows.unlimited
    refine ⟨hgrows.trans hgrows₁, fun n hn => ?_⟩
    rcases hcut n hn with ⟨hfits, hr⟩ | ⟨hfull, s', hr, hs'⟩
    · rw [hr]
      exact hcut₁ n hfits
    · rw [hr]
      exact .of_filled hgrows₁ hfull hs'

theorem forM {f : α → EStateM Failure σ Unit} {xs : List α} (h : ∀ x ∈ xs, Metered (f x)) :
    Metered (List.forM xs f) := by
  induction xs with
  | nil => exact pure ()
  | cons x xs ih =>
    obtain ⟨hx, hxs⟩ := List.forall_mem_cons.mp h
    exact bind hx fun _ => ih hxs

theorem mapM {f : α → EStateM Failure σ β} {xs : List α} (h : ∀ x ∈ xs, Metered (f x)) :
    Metered (xs.mapM f) := by
  induction xs with
  | nil => exact pure []
  | cons x xs ih =>
    obtain ⟨hx, hxs⟩ := List.forall_mem_cons.mp h
    rw [List.mapM_cons]
    exact bind hx fun _ => bind (ih hxs) fun _ => pure _

/-- What writes a text and does nothing else. -/
theorem write {x : EStateM Failure σ Unit} (text : String)
    (h : ∀ s, x s = match (report s).write text with
      | (.ok (), r) => .ok () (withReport s r)
      | (.error e, r) => .error (.system e) (withReport s r)) : Metered x := by
  intro s hs
  have hwritten : x s = .ok () (withReport s ((report s).accept [text])) := by
    rw [h, Sink.write_of_room hs]
  have hlimited : ∀ n, x (limited n s) = match ((report s).limited n).write text with
      | (.ok (), r) => .ok () (withReport s r)
      | (.error e, r) => .error (.system e) (withReport s r) := by
    intro n
    rw [h, limited, report_withReport]
    split <;> simp only [withReport_withReport]
  simp only [hwritten, hlimited, Cut, endState, report_withReport]
  refine ⟨.accept hs _, fun n hn => ?_⟩
  rw [Sink.write_limited hn]
  rcases Nat.lt_or_ge n ((report s).accept [text]).lines.length with hfull | hfits
  · rw [if_neg (Nat.not_le.mpr hfull)]
    exact .inr ⟨hfull, _, rfl, report_withReport _ _⟩
  · rw [if_pos hfits]
    refine .inl ⟨hfits, ?_⟩
    simp only [mapState, limited, report_withReport, withReport_withReport]

end Metered

end Reporting

end GlslFlatten
