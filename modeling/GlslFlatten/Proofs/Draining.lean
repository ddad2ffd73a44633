import GlslFlatten.Proofs.Delivery
import GlslFlatten.Proofs.Utf8

/-!
Draining a byte stream into a sink. The sink is given the lines of the stream, one after another, up to
the first that it refuses, and the stream is read to its end all the same. The lines are cut out of the
bytes before they are decoded, which gives the same as decoding the stream and cutting the text.
-/

namespace GlslFlatten

open Text

namespace Text

variable {α : Type} [DecidableEq α]

/-- The pieces between terminators. A final terminator ends the last piece, so no empty one follows. -/
def terminated (nl : α) (xs : List α) : List (List α) :=
  let ps := xs.splitOn nl
  if ps.getLast? = some [] then ps.dropLast else ps

/-- Lines are cut one after another, but they are the pieces of the whole. -/
theorem lines_eq_terminated (nl : α) (xs : List α) : lines nl xs = terminated nl xs := by
  rw [terminated, ← pieces_eq_splitOn]
  induction xs with
  | nil => rfl
  | cons a rest ih =>
    obtain ⟨p, ps, hp⟩ := List.exists_cons_of_ne_nil (pieces_ne_nil nl rest)
    rw [hp] at ih
    by_cases ha : a = nl
    · simp only [lines, pieces, if_pos ha, ih, hp, List.getLast?_cons_cons, List.dropLast_cons_cons]
      split <;> rfl
    · simp only [lines, pieces, if_neg ha, ih, hp]
      cases ps with
      | nil => cases p <;> simp
      | cons q qs =>
        simp only [List.getLast?_cons_cons, List.dropLast_cons_cons]
        by_cases hlast : (q :: qs).getLast? = some [] <;> simp only [hlast, if_true, if_false]

end Text

section Refusal

variable {ε σ α : Type} {f : α → EStateM ε σ Unit} {xs before after : List α} {x : α} {s s₁ s₂ : σ}
  {e : ε}

theorem forM_of_refused (h : (before.forM f : EStateM ε σ Unit) s = .ok () s₁)
    (he : f x s₁ = .error e s₂) :
    ((before ++ x :: after).forM f : EStateM ε σ Unit) s = .error e s₂ := by
  induction before generalizing s with
  | nil =>
    cases h
    rw [List.nil_append, forM_cons_run, he]
  | cons b before ih =>
    rw [forM_cons_run] at h
    rw [List.cons_append, forM_cons_run]
    cases hb : f b s with
    | ok _ s' =>
      rw [hb] at h
      exact ih h
    | error e' s' =>
      rw [hb] at h
      cases h

/-- Either all are taken, or there is a first one that is refused. -/
theorem taken_or_refused (f : α → EStateM ε σ Unit) (xs : List α) (s : σ) :
    (∃ s', (xs.forM f : EStateM ε σ Unit) s = .ok () s') ∨
      ∃ before x after s₁ e s₂, xs = before ++ x :: after ∧
        (before.forM f : EStateM ε σ Unit) s = .ok () s₁ ∧ f x s₁ = .error e s₂ := by
  induction xs generalizing s with
  | nil => exact .inl ⟨s, rfl⟩
  | cons x xs ih =>
    cases hx : f x s with
    | error e s' => exact .inr ⟨[], x, xs, s, e, s', rfl, rfl, hx⟩
    | ok _ s' =>
      rcases ih s' with ⟨s'', hs⟩ | ⟨before, y, after, s₁, e, s₂, rfl, hbefore, hy⟩
      · refine .inl ⟨s'', ?_⟩
        rw [forM_cons_run, hx]
        exact hs
      · refine .inr ⟨x :: before, y, after, s₁, e, s₂, rfl, ?_, hy⟩
        rw [forM_cons_run, hx]
        exact hbefore

end Refusal

variable {ε σ : Type}

/-- A sink that also keeps a record of the lines that it is given. -/
def recorded (sink : LineSink ε σ) : LineSink ε (σ × List String) := fun line s =>
  match sink line s.1 with
  | .ok () s' => .ok () (s', s.2 ++ [line])
  | .error e s' => .error e (s', s.2 ++ [line])

variable {sink : LineSink ε σ} {s s' s₁ : σ} {e : ε} {line : String} {told before after : List String}

theorem recorded_of_taken (seen : List String) (h : (told.forM sink : EStateM ε σ Unit) s = .ok () s') :
    (told.forM (recorded sink) : EStateM ε (σ × List String) Unit) (s, seen) =
      .ok () (s', seen ++ told) := by
  induction told generalizing s seen with
  | nil =>
    cases h
    rw [List.append_nil]
    rfl
  | cons line told ih =>
    rw [forM_cons_run] at h
    cases hline : sink line s with
    | error e s₁ =>
      rw [hline] at h
      cases h
    | ok _ s₁ =>
      rw [hline] at h
      simp only [forM_cons_run, recorded, hline]
      rw [ih _ h, List.append_assoc, List.singleton_append]

theorem recorded_of_refused (hbefore : (before.forM sink : EStateM ε σ Unit) s = .ok () s₁)
    (hline : sink line s₁ = .error e s') :
    ((before ++ line :: after).forM (recorded sink) : EStateM ε (σ × List String) Unit) (s, []) =
      .error e (s', before ++ [line]) := by
  refine forM_of_refused (recorded_of_taken [] hbefore) ?_
  simp only [recorded, hline, List.nil_append]

/-- A stream is read to its end, whatever becomes of its lines. -/
theorem unread_drain (sink : LineSink ε σ) (refusal : Option ε) (s : σ) (stream : List UInt8) :
    (drain sink refusal s stream).unread = [] := by
  induction hn : stream.length using Nat.strongRecOn generalizing refusal s stream with
  | ind n ih =>
    rw [drain]
    split
    · assumption
    · rename_i hne
      have hrest := hn ▸ firstLine_length_lt Utf8.lineFeed hne
      simp only
      split
      · exact ih _ hrest _ _ _ rfl
      · split <;> exact ih _ hrest _ _ _ rfl

/-- What a sink is told of a stream. -/
def streamLines (stream : List UInt8) : List String := (terminated Utf8.lineFeed stream).map streamLine

/-- Draining is handing over the lines of the stream. -/
theorem drain_eq (sink : LineSink ε σ) (s : σ) (stream : List UInt8) :
    drain sink none s stream =
      match ((streamLines stream).forM sink : EStateM ε σ Unit) s with
      | .ok () s' => ⟨none, s', []⟩
      | .error e s' => ⟨some e, s', []⟩ := by
  have hunread := unread_drain sink none s stream
  rw [streamLines, ← lines_eq_terminated, drain_run]
  generalize drain sink none s stream = d at hunread ⊢
  obtain ⟨refusal, s', unread⟩ := d
  cases hunread
  cases refusal <;> rfl

theorem drain_taken {stream : List UInt8}
    (h : ((streamLines stream).forM sink : EStateM ε σ Unit) s = .ok () s') :
    drain sink none s stream = ⟨none, s', []⟩ ∧
      drain (recorded sink) none (s, []) stream = ⟨none, (s', streamLines stream), []⟩ := by
  rw [drain_eq, drain_eq, h, recorded_of_taken [] h]
  exact ⟨rfl, rfl⟩

theorem drain_refused {stream : List UInt8} (htold : streamLines stream = before ++ line :: after)
    (hbefore : (before.forM sink : EStateM ε σ Unit) s = .ok () s₁)
    (hline : sink line s₁ = .error e s') :
    drain sink none s stream = ⟨some e, s', []⟩ ∧
      drain (recorded sink) none (s, []) stream = ⟨some e, (s', before ++ [line]), []⟩ := by
  rw [drain_eq, drain_eq, htold, forM_of_refused hbefore hline, recorded_of_refused hbefore hline]
  exact ⟨rfl, rfl⟩

/-- A sink that fails for the first time on some line is told the lines up to this one and no other,
and its error is what the draining ends with. If it takes all lines, they are what it has been told,
and there is no error. The whole stream is read in either case. -/
theorem drain_stops_at_refusal (sink : LineSink ε σ) (s : σ) (stream : List UInt8) :
    let told := streamLines stream
    let d := drain (recorded sink) none (s, []) stream
    drain sink none s stream = ⟨d.refusal, d.state.1, d.unread⟩ ∧ d.unread = [] ∧
    (∀ s' calls, d.refusal = none ∧ d.state = (s', calls) ↔
      calls = told ∧ (told.forM sink : EStateM ε σ Unit) s = .ok () s') ∧
    ∀ e s' calls, d.refusal = some e ∧ d.state = (s', calls) ↔
      ∃ before line after s₁, told = before ++ line :: after ∧ calls = before ++ [line] ∧
        (before.forM sink : EStateM ε σ Unit) s = .ok () s₁ ∧ sink line s₁ = .error e s' := by
  intro told d
  have htaken : ∀ {s'}, (told.forM sink : EStateM ε σ Unit) s = .ok () s' →
      d = ⟨none, (s', told), []⟩ := fun h => (drain_taken h).2
  have hrefused : ∀ {before line after s₁ e s'}, told = before ++ line :: after →
      (before.forM sink : EStateM ε σ Unit) s = .ok () s₁ → sink line s₁ = .error e s' →
      d = ⟨some e, (s', before ++ [line]), []⟩ :=
    fun htold hbefore hline => (drain_refused htold hbefore hline).2
  refine ⟨?_, unread_drain _ _ _ _, fun s' calls => ⟨?_, ?_⟩, fun e s' calls => ⟨?_, ?_⟩⟩
  · rcases taken_or_refused sink told s with ⟨s', h⟩ |
      ⟨before, line, after, s₁, e, s', htold, hbefore, hline⟩
    · rw [htaken h, (drain_taken h).1]
    · rw [hrefused htold hbefore hline, (drain_refused htold hbefore hline).1]
  · rintro ⟨hnone, hstate⟩
    rcases taken_or_refused sink told s with ⟨s'', h⟩ |
      ⟨before, line, after, s₁, e, s'', htold, hbefore, hline⟩
    · rw [htaken h] at hstate
      cases hstate
      exact ⟨rfl, h⟩
    · rw [hrefused htold hbefore hline] at hnone
      cases hnone
  · rintro ⟨rfl, h⟩
    rw [htaken h]
    exact ⟨rfl, rfl⟩
  · rintro ⟨hsome, hstate⟩
    rcases taken_or_refused sink told s with ⟨s'', h⟩ |
      ⟨before, line, after, s₁, e', s'', htold, hbefore, hline⟩
    · rw [htaken h] at hsome
      cases hsome
    · rw [hrefused htold hbefore hline] at hsome hstate
      cases hsome
      cases hstate
      exact ⟨before, line, after, s₁, htold, rfl, hbefore, hline⟩
  · rintro ⟨before, line, after, s₁, htold, rfl, hbefore, hline⟩
    rw [hrefused htold hbefore hline]
    exact ⟨rfl, rfl⟩

/-- A line of text, without the carriage returns at its end. -/
def lineText (cs : List Char) : String := .ofList (dropTrailing (· = '\r') cs)

theorem streamLines_eq_decoded (stream : List UInt8) :
    streamLines stream = (terminated '\n' (Utf8.decodeLossy stream)).map lineText := by
  rw [← lines_eq_terminated, Utf8.lines_decodeLossy, List.map_map, streamLines, ← lines_eq_terminated]
  rfl

/-- A sink that takes everything is told the lines of the decoded stream. They are at the same time the
lines of the stream, each decoded by itself, so malformed bytes change no line but their own. Of a
stream that is well formed the lines are those of its text. -/
theorem drain_decodes_stream {sink : LineSink ε σ} (htakes : ∀ line s, ∃ s', sink line s = .ok () s')
    (s : σ) (stream : List UInt8) :
    let d := drain (recorded sink) none (s, []) stream
    d.refusal = none ∧ d.unread = [] ∧
    d.state.2 = (terminated '\n' (Utf8.decodeLossy stream)).map lineText ∧
    d.state.2 = (terminated Utf8.lineFeed stream).map (fun bytes => lineText (Utf8.decodeLossy bytes)) ∧
    ∀ text, stream = Utf8.encode text → d.state.2 = (terminated '\n' text).map lineText := by
  intro d
  have hd : d.refusal = none ∧ d.unread = [] ∧ d.state.2 = streamLines stream := by
    rcases taken_or_refused sink (streamLines stream) s with ⟨s', h⟩ |
      ⟨before, line, after, s₁, e, s', _, _, hline⟩
    · have htaken : d = ⟨none, (s', streamLines stream), []⟩ := (drain_taken h).2
      rw [htaken]
      exact ⟨rfl, rfl, rfl⟩
    · obtain ⟨s'', hok⟩ := htakes line s₁
      rw [hok] at hline
      cases hline
  obtain ⟨hrefusal, hunread, hlines⟩ := hd
  refine ⟨hrefusal, hunread, hlines.trans (streamLines_eq_decoded stream), hlines, ?_⟩
  rintro text rfl
  rw [hlines, streamLines_eq_decoded, Utf8.decodeLossy_encode]

/-- A sequence that is cut off by a line feed or by the end of the stream, and a byte that begins none. -/
theorem drain_decodes_stream_sample :
    let keep : LineSink Failure (List String) := fun line told => .ok () (told ++ [line])
    (drain (recorded keep) none ([], [])
      [0x61, 0xe2, 0x82, 0x0d, 0x0d, 0x0a, 0x0a, 0xff, 0x0d, 0x62, 0xf0, 0x9f]).state.2 =
        ["a\uFFFD", "", "\uFFFD\rb\uFFFD"] := by
  intro keep
  have htakes : ∀ line told, ∃ told', keep line told = .ok () told' :=
    fun line told => ⟨told ++ [line], rfl⟩
  obtain ⟨_, _, hlines, _⟩ := drain_decodes_stream htakes []
    [0x61, 0xe2, 0x82, 0x0d, 0x0d, 0x0a, 0x0a, 0xff, 0x0d, 0x62, 0xf0, 0x9f]
  exact hlines.trans (by decide +kernel)

end GlslFlatten
