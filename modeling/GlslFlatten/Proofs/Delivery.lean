import GlslFlatten.Proofs.Effects
import GlslFlatten.Validator

/-!
What a validator says. However its lines come, a sink is given them one after another until it refuses
one, and a failure behind them counts only if all of them were taken.
-/

namespace GlslFlatten

open Text

variable {ε σ : Type}

/-- After a refusal the state stays what it is. -/
theorem drain_of_refused (sink : LineSink ε σ) (e : ε) (s : σ) (stream : List UInt8) :
    (drain sink (some e) s stream).refusal = some e ∧ (drain sink (some e) s stream).state = s := by
  induction hn : stream.length using Nat.strongRecOn generalizing stream with
  | ind n ih =>
    rw [drain]
    split
    · exact ⟨rfl, rfl⟩
    · rename_i hne
      exact ih _ (hn ▸ firstLine_length_lt _ hne) _ rfl

/-- Draining a stream is handing over its lines. -/
theorem drain_run (sink : LineSink ε σ) (s : σ) (stream : List UInt8) :
    (((lines Utf8.lineFeed stream).map streamLine).forM sink : EStateM ε σ Unit) s =
      match (drain sink none s stream).refusal with
      | none => .ok () (drain sink none s stream).state
      | some e => .error e (drain sink none s stream).state := by
  induction hn : stream.length using Nat.strongRecOn generalizing stream s with
  | ind n ih =>
    by_cases hs : stream = []
    · rw [drain, dif_pos hs, hs]
      rfl
    · rw [drain, dif_neg hs, lines_eq_cons _ hs, List.map_cons, forM_cons_run]
      simp only
      cases sink (streamLine (firstLine Utf8.lineFeed stream).1) s with
      | ok _ s' => exact ih _ (hn ▸ firstLine_length_lt _ hs) s' _ rfl
      | error e s' =>
        obtain ⟨he, hs'⟩ := drain_of_refused sink e s' (firstLine Utf8.lineFeed stream).2
        simp only [he, hs']

namespace Reply

/-- The lines of an answer, in order. -/
def told : Reply → List String
  | lines ls _ => ls
  | unlaunched _ _ => []
  | ran _ run => (Text.lines Utf8.lineFeed run.printed).map streamLine

/-- What is wrong with the validator itself. -/
def failure? : Reply → Option Failure
  | lines _ failure => failure
  | unlaunched program error => some (.validatorLaunch program error)
  | ran _ _ => none

theorem deliver_run (reply : Reply) (sink : LineSink Failure σ) (s : σ) :
    reply.deliver sink s = match (reply.told.forM sink : EStateM Failure σ Unit) s, reply.failure? with
      | .ok () s, some failure => .error failure s
      | result, _ => result := by
  cases reply with
  | lines ls failure => rfl
  | unlaunched program error => rfl
  | ran program run =>
    simp only [told, failure?, drain_run, deliver]
    generalize drain sink none s run.printed = drained
    obtain ⟨refusal, s', unread⟩ := drained
    cases refusal <;> rfl

/-- An answer is delivered in full to a sink that takes all of its lines. -/
theorem deliver_of_taken {reply : Reply} {sink : LineSink Failure σ} {s s' : σ}
    (h : (reply.told.forM sink : EStateM Failure σ Unit) s = .ok () s') :
    reply.deliver sink s = match reply.failure? with
      | some failure => .error failure s'
      | none => .ok () s' := by
  rw [deliver_run, h]
  cases reply.failure? <;> rfl

end Reply

end GlslFlatten
