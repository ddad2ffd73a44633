import GlslFlatten.Proofs.BatchRun
import GlslFlatten.Proofs.FileLines

/-!
Reports with room for some lines only. A run goes as it would with an unlimited report until a line
does not fit, and there it ends with the failure of the report, even while a validator is heard.
-/

namespace GlslFlatten

namespace Batch

open Reporting

instance : Reporting State where
  report s := s.report
  withReport s r := { s with report := r }
  report_withReport _ _ := rfl
  withReport_withReport _ _ _ := rfl

instance : Reporting Hearing where
  report heard := heard.report
  withReport heard r := { heard with report := r }
  report_withReport _ _ := rfl
  withReport_withReport _ _ _ := rfl

theorem metered_logAll (records : List Log.Record) : Metered (logAll records) :=
  .modify (fun _ => rfl) fun _ _ => rfl

theorem metered_report (line : String) : Metered (Batch.report line) := .write line fun _ => rfl

theorem metered_fault (what source : String) (failure : Failure) :
    Metered (fault what source failure) :=
  .bind (metered_logAll _) fun _ => .bind (metered_report _) fun _ => .pure _

theorem metered_reportExpansion (source : String) (failure : Failure) :
    Metered (reportExpansion source failure) := by
  unfold reportExpansion
  cases failure.diagnostics? with
  | none => exact metered_fault _ _ _
  | some diagnostics =>
    exact .bind (.forM fun d _ => metered_report _) fun _ => .bind (metered_report _) fun _ => .pure _

theorem metered_hear (registry : Registry) (line : String) : Metered (hear registry line) := by
  rw [hear_eq]
  refine .bind ?_ fun _ => .forM fun text _ => ?_
  · unfold Hearing.count
    -- What is written does not matter for the count, and is not to be computed here.
    generalize registry.translate line = translated
    exact .modify (fun _ => rfl) fun _ _ => rfl
  · exact .write text fun _ => rfl

theorem metered_deliver (reply : Reply) (registry : Registry) :
    Metered (reply.deliver (hear registry)) := by
  have hdeliver : reply.deliver (hear registry) =
      reply.told.forM (hear registry) >>= fun _ => reply.failure?.elim (pure ()) throw := by
    funext heard
    rw [Reply.deliver_run, bind_run]
    cases (reply.told.forM (hear registry) : EStateM Failure Hearing Unit) heard with
    | error e heard' => rfl
    | ok u heard' => cases reply.failure? <;> rfl
  rw [hdeliver]
  refine .bind (.forM fun line _ => metered_hear registry line) fun _ => ?_
  cases reply.failure? with
  | none => exact .pure ()
  | some failure => exact .throw failure

/-- A refused line ends the answer of a validator as a failure of its own does. What tells the two
apart is the line about the fault, which is refused in its turn. -/
theorem conclude_of_filled {heard : Hearing} {whole : Sink} {n : Nat}
    (h : heard.report = whole.filled n) (source : String) (output : Path) (reply : Reply) (s : State) :
    ∃ s', conclude source output reply s (.error (.system .sinkFull) heard) =
      .error (.system .sinkFull) s' ∧ s'.report = whole.filled n := by
  simp only [conclude, conclude.told, fault, bind_run, logAll_run, report, h, Sink.write_filled]
  exact ⟨_, rfl, rfl⟩

theorem metered_validate (validator : Validator) (source : String) (output : Path)
    (registry : Registry) : Metered (validate validator source output registry) := by
  intro s hs
  let reply := validator s.tree output
  have hlimited : ∀ n, validate validator source output registry (limited n s) =
      conclude source output reply s (reply.deliver (hear registry) (limited n { report := s.report })) :=
    fun n => validate_eq validator source output registry (limited n s)
  obtain ⟨hgrows, hcut⟩ := metered_deliver reply registry { report := s.report } hs
  rw [validate_eq]
  cases hheard : reply.deliver (hear registry) { report := s.report } with
  | ok u heard =>
    rw [hheard] at hgrows hcut
    refine ⟨hgrows, fun n hn => ?_⟩
    rw [hlimited]
    rcases hcut n hn with ⟨hfits, hr⟩ | ⟨hfull, heard', hr, hheard'⟩
    · exact .inl ⟨hfits, by rw [hr]; rfl⟩
    · obtain ⟨s', hrefused, hs'⟩ := conclude_of_filled hheard' source output reply s
      rw [hr, hrefused]
      exact .inr ⟨hfull, s', rfl, hs'⟩
  | error failure heard =>
    rw [hheard] at hgrows hcut
    -- The answer ends with a fault of its own, which may be what no longer fits.
    obtain ⟨hgrows', hcut'⟩ := metered_fault "Validation" source failure
      (conclude.told output reply s heard.report) hgrows.unlimited
    refine ⟨hgrows.trans hgrows', fun n hn => ?_⟩
    rw [hlimited]
    rcases hcut n hn with ⟨hfits, hr⟩ | ⟨hfull, heard', hr, hheard'⟩
    · rw [hr]
      exact hcut' n hfits
    · obtain ⟨s', hrefused, hs'⟩ := conclude_of_filled hheard' source output reply s
      rw [hr, hrefused]
      exact .of_filled hgrows' hfull hs'

theorem metered_judge (config : Config) (validator : Validator) (p : Pass) :
    Metered (judge config validator p) := by
  unfold judge
  cases (p.flattened config).result with
  | error failure => exact metered_reportExpansion p.source failure
  | ok registry => exact metered_validate validator p.source (p.output config) registry

theorem metered_processSource (config : Config) (validator : Validator) (source : String) :
    Metered (processSource config validator source) := by
  intro s hs
  have hjudged : Metered (judge config validator ⟨source, s.tree⟩ >>= fun status =>
      (pure ⟨source, status⟩ : Run Outcome)) := .bind (metered_judge _ _ _) fun _ => .pure _
  obtain ⟨hgrows, hcut⟩ := hjudged (s.flattened config source) hs
  rw [processSource_eq]
  refine ⟨hgrows, fun n hn => ?_⟩
  rw [processSource_eq]
  exact hcut n hn

variable {config : Config} {validator : Validator} {s : State}

/-- A report that stops after some lines holds those, and the run fails with its error if there would
have been more; no outcome hides it. -/
theorem run_cuts_report {sources : List String} {t : Tree}
    (hsources : Source.discover s.tree config = .ok sources) (hprepared : Prepared config s.tree t) :
    ∃ summary full, run config validator { s with report := {} } = .ok summary full ∧
      ∀ room, ∃ cut, run config validator { s with report := { room := some room } } =
          (if full.report.lines.length ≤ room then .ok summary cut
            else .error (.system .sinkFull) cut) ∧
        cut.report.lines = full.report.lines.take room := by
  let s₀ : State := { s with tree := t, report := {} }
  have hrun : ∀ report, run config validator { s with report } =
      sources.mapM (processSource config validator) { s with report, tree := t } :=
    fun report => run_of_prepared (s := { s with report }) hsources hprepared
  obtain ⟨full, hfull, -⟩ := @processSources_run config validator s₀ rfl sources
  have hmetered : Metered (sources.mapM (processSource config validator)) :=
    .mapM fun source _ => metered_processSource config validator source
  obtain ⟨-, hcut⟩ := hmetered s₀ rfl
  refine ⟨_, full, (hrun _).trans hfull, fun room => ?_⟩
  rw [hrun]
  rw [hfull] at hcut
  rcases hcut room (Nat.zero_le _) with ⟨hfits, hr⟩ | ⟨hover, cut, hr, hlines⟩
  · replace hfits : full.report.lines.length ≤ room := hfits
    refine ⟨limited room full, ?_, ?_⟩
    · rw [if_pos hfits]
      exact hr
    · exact (List.take_of_length_le hfits).symm
  · replace hover : room < full.report.lines.length := hover
    refine ⟨cut, ?_, ?_⟩
    · rw [if_neg (Nat.not_le.mpr hover)]
      exact hr
    · exact congrArg Sink.lines hlines

/-- The line that does not fit is an includer line, told while the validator is heard. -/
theorem run_cuts_report_sample :
    let config : Config := { root := ⟨"/s"⟩, buildDir := ⟨"/s/out"⟩, extensions := ["n"] }
    let failing : Validator := .canned [("main", ["ERROR: 0:1: x", "ERROR: 2:1: y"])]
      [("main", .validator "crashed" [])]
    ∃ cut, run config failing { tree := .sample, report := { room := some 3 } } =
        .error (.system .sinkFull) cut ∧ cut.report.lines.length = 3 := by
  intro config failing
  have hprepared : Prepared config .sample (Tree.sample.makeDirs config.buildDir).2 :=
    ⟨by decide +kernel, ["s", "out"], ["s"], by decide +kernel, by decide +kernel, by decide⟩
  obtain ⟨summary, full, hfull, hcuts⟩ := @run_cuts_report config failing { tree := .sample } ["main"] _
    (by decide +kernel) hprepared
  have hwhole : (endState (run config failing { tree := .sample })).report.lines.length = 5 := by
    decide +kernel
  replace hwhole : full.report.lines.length = 5 := by
    rw [← hwhole, hfull]
    rfl
  obtain ⟨cut, hrun, hlines⟩ := hcuts 3
  rw [hwhole, if_neg (by decide)] at hrun
  exact ⟨cut, hrun, by rw [hlines, List.length_take, hwhole]; rfl⟩

end Batch

end GlslFlatten
