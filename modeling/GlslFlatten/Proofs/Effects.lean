/-!
Stateful computations that may fail: how their parts run, and facts about the state that they
preserve whether they fail or not.
-/

namespace GlslFlatten

variable {ε σ α β : Type}

theorem bind_run (x : EStateM ε σ α) (f : α → EStateM ε σ β) (s : σ) :
    (x >>= f) s = match x s with
      | .ok a s' => f a s'
      | .error e s' => .error e s' := by
  simp only [bind, EStateM.bind]
  cases x s <;> rfl

theorem get_run (s : σ) : (get : EStateM ε σ σ) s = .ok s s := rfl

theorem set_run (s s' : σ) : (set s' : EStateM ε σ PUnit) s = .ok ⟨⟩ s' := rfl

theorem modify_run (f : σ → σ) (s : σ) : (modify f : EStateM ε σ PUnit) s = .ok ⟨⟩ (f s) := rfl

theorem modifyGet_run (f : σ → α × σ) (s : σ) :
    (modifyGet f : EStateM ε σ α) s = .ok (f s).1 (f s).2 := rfl

theorem pure_run (a : α) (s : σ) : (pure a : EStateM ε σ α) s = .ok a s := rfl

theorem forM_cons_run (f : α → EStateM ε σ Unit) (x : α) (xs : List α) (s : σ) :
    (List.forM (x :: xs) f : EStateM ε σ Unit) s = match f x s with
      | .ok _ s' => (List.forM xs f : EStateM ε σ Unit) s'
      | .error e s' => .error e s' := by
  rw [List.forM_eq_forM, List.forM_cons, bind_run]
  cases f x s <;> rfl

/-- `P` is true of the state at an end, and `Q` of the failure if it is one. -/
def Upholds (P : σ → Prop) (Q : ε → Prop) : EStateM.Result ε σ α → Prop
  | .ok _ s => P s
  | .error e s => P s ∧ Q e

/-- The state at an end, whether it is a failure or not. -/
def endState : EStateM.Result ε σ α → σ
  | .ok _ s => s
  | .error _ s => s

theorem Upholds.endState {P : σ → Prop} {Q : ε → Prop} {r : EStateM.Result ε σ α}
    (h : Upholds P Q r) : P (endState r) := by
  cases r with
  | ok a s => exact h
  | error e s => exact h.1

theorem Upholds.imp {P P' : σ → Prop} {Q : ε → Prop} {r : EStateM.Result ε σ α}
    (h : Upholds P Q r) (himp : ∀ s, P s → P' s) : Upholds P' Q r := by
  cases r with
  | ok a s => exact himp s h
  | error e s => exact ⟨himp s h.1, h.2⟩

/-- The failure at an end that is one. -/
def failure? : EStateM.Result ε σ α → Option ε
  | .ok _ _ => none
  | .error e _ => some e

/-- The value and the state at an end that is no failure. -/
def result? : EStateM.Result ε σ α → Option (α × σ)
  | .ok a s => some (a, s)
  | .error _ _ => none

theorem eq_error_of_failure? {r : EStateM.Result ε σ α} {e : ε} (h : failure? r = some e) :
    r = .error e (endState r) := by
  cases r with
  | ok a s => cases h
  | error e' s => rw [Option.some.inj h, endState]

theorem of_any_result? {p : α × σ → Bool} {r : EStateM.Result ε σ α} (h : (result? r).any p = true) :
    ∃ a s, r = .ok a s ∧ p (a, s) = true := by
  cases r with
  | ok a s => exact ⟨a, s, rfl, h⟩
  | error e s => cases h

def Preserves (P : σ → Prop) (Q : ε → Prop) (x : EStateM ε σ α) : Prop :=
  ∀ s, P s → Upholds P Q (x s)

namespace Preserves

variable {P : σ → Prop} {Q : ε → Prop}

theorem pure (a : α) : Preserves P Q (pure a : EStateM ε σ α) := fun _ h => h

theorem throw {e : ε} (h : Q e) : Preserves P Q (throw e : EStateM ε σ α) := fun _ hp => ⟨hp, h⟩

theorem bind {x : EStateM ε σ α} {f : α → EStateM ε σ β} (hx : Preserves P Q x)
    (hf : ∀ a, Preserves P Q (f a)) : Preserves P Q (x >>= f) := by
  intro s hs
  have h := hx s hs
  rw [bind_run]
  cases he : x s with
  | ok a s' =>
    rw [he] at h
    exact hf a s' h
  | error e s' =>
    rw [he] at h
    exact h

theorem forM {f : α → EStateM ε σ Unit} {xs : List α} (h : ∀ x ∈ xs, Preserves P Q (f x)) :
    Preserves P Q (List.forM xs f) := by
  induction xs with
  | nil => exact pure ()
  | cons x xs ih =>
    obtain ⟨hx, hxs⟩ := List.forall_mem_cons.mp h
    exact bind hx fun _ => ih hxs

theorem mapM {f : α → EStateM ε σ β} {xs : List α} (h : ∀ x ∈ xs, Preserves P Q (f x)) :
    Preserves P Q (xs.mapM f) := by
  induction xs with
  | nil => exact pure []
  | cons x xs ih =>
    obtain ⟨hx, hxs⟩ := List.forall_mem_cons.mp h
    rw [List.mapM_cons]
    exact bind hx fun _ => bind (ih hxs) fun _ => pure _

end Preserves

end GlslFlatten
