import GlslFlatten.Proofs.Metering
import GlslFlatten.Proofs.WalkEnd

/-!
Expansions into a sink with room for some lines only. Whatever an expansion does besides writing
lines, it does not look at what the sink holds, so it goes the same way until a line is refused. The
registry that is there by then is found on the walk.
-/

namespace GlslFlatten

open Reporting

namespace Expansion

instance : Reporting (Progress Sink) where
  report s := s.out
  withReport s r := { s with out := r }
  report_withReport _ _ := rfl
  withReport_withReport _ _ _ := rfl

variable {t : Tree} {descend : String → Origin → Expand Sink Unit}

theorem metered_note (text : String) : Metered (note text : Expand Sink Unit) :=
  .modify (fun _ => rfl) fun _ _ => rfl

theorem metered_leave : Metered (leave : Expand Sink Unit) := .modify (fun _ => rfl) fun _ _ => rfl

theorem metered_register (p : Path) (name : String) (includer : Option Nat) :
    Metered (register p name includer : Expand Sink Nat) := .modifyGet (fun _ => rfl) fun _ _ => rfl

theorem metered_enter (p : Path) (origin : Option Origin) :
    Metered (enter p origin : Expand Sink Unit) := by
  refine .get_bind (fun s => ?_) fun _ _ => rfl
  cases s.context.enter p origin with
  | ok context => exact .modify (fun _ => rfl) fun _ _ => rfl
  | error failure => exact .throw failure

theorem metered_locate (t : Tree) (path : String) (origin : Option Origin) :
    Metered (locate (Sink.output t) path origin) := by
  refine .get_bind (fun s => ?_) fun _ _ => rfl
  split
  · exact .pure _
  · exact .throw _

theorem metered_load (t : Tree) (loc : Location) : Metered (load (Sink.output t) loc) := by
  refine .get_bind (fun s => ?_) fun _ _ => rfl
  split
  · exact .pure _
  · exact .throw _

theorem metered_emit (t : Tree) (line : FlatLine) : Metered (emit (Sink.output t) line) :=
  .write line.text fun s => by
    rcases hw : s.out.write line.text with ⟨_ | _, out⟩ <;> simp [emit, Sink.output, withReport, hw]

theorem metered_copyLine (hd : ∀ path asked, Metered (descend path asked)) (file : OpenFile)
    (number : Nat) (line : String) :
    Metered (copyLine (Sink.output t) descend file number line) := by
  unfold copyLine
  cases Directive.parse line number with
  | error defect => exact .throw _
  | ok found =>
    cases found with
    | none => exact metered_emit t _
    | some directive =>
      exact .bind (metered_note _) fun _ => .bind (hd _ _) fun _ => metered_emit t _

theorem metered_copyLines (hd : ∀ path asked, Metered (descend path asked)) (file : OpenFile)
    (limit : Nat) (reader : Reader) (number : Nat) :
    Metered (copyLines (Sink.output t) descend file limit reader number) := by
  induction limit generalizing reader number with
  | zero => exact .throw _
  | succ limit ih =>
    refine .bind (metered_load t file.loc) fun content => ?_
    split
    · exact .pure ()
    · split
      · exact .throw _
      · exact .bind (metered_copyLine hd file number _) fun _ => ih _ _

theorem metered_copyFile (hd : ∀ path asked, Metered (descend path asked)) (file : OpenFile) :
    Metered (copyFile (Sink.output t) descend file) := by
  refine .bind (metered_note _) fun _ => .bind ?_ fun _ => .bind ?_ fun _ => metered_leave
  · unfold head
    split
    · exact metered_emit t _
    · exact .pure ()
  · exact .bind (metered_load t file.loc) fun content => metered_copyLines hd file _ _ _

theorem metered_expandFile (hd : ∀ path asked, Metered (descend path asked)) (path : String)
    (origin : Option Origin) : Metered (expandFile (Sink.output t) descend path origin) := by
  rw [expandFile_eq]
  refine .bind (metered_locate t path origin) fun loc => .get_bind (fun s => ?_) fun _ _ => rfl
  refine .bind (metered_enter _ _) fun _ => .bind (metered_register _ _ _) fun index => ?_
  exact metered_copyFile hd _

theorem metered_expandWithin (t : Tree) (levels : Nat) (path : String) (origin : Option Origin) :
    Metered (expandWithin (Sink.output t) levels path origin) := by
  induction levels generalizing path origin with
  | zero => exact .throw _
  | succ levels ih => exact metered_expandFile (fun target asked => ih target (some asked)) path origin

end Expansion

theorem metered_expand (t : Tree) (source : String) : Metered (expand (Sink.output t) source) :=
  .get_bind (fun _ => Expansion.metered_expandWithin t _ source none) fun _ _ => rfl

open Traversal Expansion in
/-- Whatever the sink refuses, the files registered by then are the first of those that are registered
when nothing is refused. -/
theorem extends_of_unlimited {t : Tree} {c : Context} {source : String} {out full : Sink}
    (hroom : full.room = none) :
    (endState (expand (Sink.output t) source { out, context := c })).context.registry.Extends
      (endState (expand (Sink.output t) source { out := full, context := c })).context.registry := by
  cases hr : Source.resolve t c.root source with
  | error failure =>
    have hx : ∀ out, expand (Sink.output t) source { out, context := c } =
        .error failure { out, context := c } := fun _ => expand_of_unresolved hr
    rw [hx, hx]
    exact .refl _
  | ok loc =>
    obtain ⟨m, hrun, hfinal, -, hcontext, -⟩ := expand_reaches_end hroom hr rfl
    obtain ⟨m', hrun', hregistry⟩ :=
      registry_of_expand (o := Sink.output t) (s := { out, context := c }) (fun _ => rfl) hr
    -- The walk knows nothing of sinks, so both expansions have come along the same one.
    have hbehind : Run t m' m := hfinal.reached hrun hrun'
    rw [endState_eq_remains, hregistry, hcontext, State.registry_ending]
    exact extends_of_run hbehind

/-- A sink with room for some lines takes the first of those that an unlimited sink takes. If it takes
them all, the expansion ends as it would have, else with the failure of the sink, and nothing that
would have gone wrong later is told. -/
theorem expand_cuts_sink (t : Tree) (c : Context) (source : String) (before : List String) :
    let full := expand (Sink.output t) source { out := ⟨before, none⟩, context := c }
    ∃ written, (endState full).out.lines = before ++ written ∧ ∀ room,
      let cut := expand (Sink.output t) source { out := ⟨before, some room⟩, context := c }
      (endState cut).out.lines = before ++ written.take room ∧
      (written.length ≤ room →
        failure? cut = failure? full ∧ (endState cut).context = (endState full).context) ∧
      (room < written.length → failure? cut = some (.system .sinkFull) ∧
        (endState cut).context.registry.Extends (endState full).context.registry) := by
  intro full
  obtain ⟨⟨-, written, hwritten⟩, hcuts⟩ := metered_expand t source ⟨⟨before, none⟩, c, []⟩ rfl
  replace hwritten : before ++ written = (endState full).out.lines := hwritten
  refine ⟨written, hwritten.symm, fun room => ?_⟩
  intro cut
  have hlimited : (⟨⟨before, some room⟩, c, []⟩ : Progress Sink) =
      limited (before.length + room) ⟨⟨before, none⟩, c, []⟩ := by
    simp [limited, Sink.limited, report, withReport]
  have hcut : Cut (before.length + room) full cut := by
    simp only [cut, hlimited]
    exact hcuts _ (Nat.le_add_right _ _)
  have hfits : (endState full).out.lines.length ≤ before.length + room ↔ written.length ≤ room := by
    rw [← hwritten, List.length_append, Nat.add_le_add_iff_left]
  refine ⟨?_, ?_, ?_⟩
  · calc (endState cut).out.lines = (endState full).out.lines.take (before.length + room) := hcut.lines
      _ = before ++ written.take room := by rw [← hwritten, List.take_length_add_append]
  · intro hroom
    rcases hcut with ⟨-, hr⟩ | ⟨hover, -⟩
    · rw [hr, endState_mapState, failure?_mapState]
      exact ⟨rfl, rfl⟩
    · exact absurd (hfits.mpr hroom) (Nat.not_le.mpr hover)
  · intro hover
    rcases hcut with ⟨hroom, -⟩ | ⟨-, s, hr, -⟩
    · exact absurd (hfits.mp hroom) (Nat.not_le.mpr hover)
    · refine ⟨?_, extends_of_unlimited rfl⟩
      rw [hr, failure?]

/-- Seven lines are written before the file includes itself. With room for one line less, the marker
in front of that directive is refused, and the directive is not reached. -/
theorem expand_cuts_sink_sample :
    let c : Context := { root := ⟨"/s"⟩, maxDepth := 3 }
    let withRoom (room : Option Nat) :=
      expand (Sink.output .sample) "loop" { out := ⟨["x"], room⟩, context := c }
    failure? (withRoom none) = some (.recursiveInclude "loop" "loop" 3 "loop -> loop") ∧
      failure? (withRoom (some 7)) = failure? (withRoom none) ∧
      failure? (withRoom (some 6)) = some (.system .sinkFull) := by
  intro c withRoom
  have hfull : failure? (withRoom none) = some (.recursiveInclude "loop" "loop" 3 "loop -> loop") := by
    decide +kernel
  have hwhole : (endState (withRoom none)).out.lines.length = 8 := by decide +kernel
  obtain ⟨written, hwritten, hcuts⟩ := expand_cuts_sink .sample c "loop" ["x"]
  replace hwritten : (endState (withRoom none)).out.lines = ["x"] ++ written := hwritten
  have hseven : written.length = 7 := by
    rw [hwritten, List.length_append, List.length_singleton] at hwhole
    omega
  obtain ⟨-, hfits, -⟩ := hcuts 7
  obtain ⟨-, -, hover⟩ := hcuts 6
  exact ⟨hfull, (hfits (by omega)).1, (hover (by omega)).1⟩

end GlslFlatten
