import GlslFlatten.Batch
import GlslFlatten.Proofs.Delivery
import GlslFlatten.Proofs.ErrorLines
import GlslFlatten.Proofs.Metering

/-!
Batch runs whose report has room for everything. What befalls a source, and what the report says of
it, is a function of the tree that the source finds, and of its name.
-/

namespace GlslFlatten

namespace Batch

open Diagnostic

/-- What befell a source, and what the report says of it. -/
structure Verdict where
  status : Status
  texts : List String

namespace Verdict

def fault (source : String) (failure : Failure) : Verdict :=
  ⟨.fault failure.message, [faultLine source failure]⟩

def ofExpansion (source : String) (failure : Failure) : Verdict :=
  match failure.diagnostics? with
  | some diagnostics =>
    ⟨.expansionFailed diagnostics,
      diagnostics.map (fun d => errorMark ++ d.text) ++ [summaryLine diagnostics.length]⟩
  | none => fault source failure

/-- The number of lines of which translation leaves something. -/
def errorCount (registry : Registry) (lines : List String) : Nat :=
  lines.countP fun line => decide (registry.translate line ≠ [])

def ofReply (source : String) (registry : Registry) (reply : Reply) : Verdict :=
  let texts := reply.told.flatMap registry.translate
  match reply.failure? with
  | some failure => ⟨.fault failure.message, texts ++ [faultLine source failure]⟩
  | none =>
    let errors := errorCount registry reply.told
    ⟨if errors = 0 then .clean else .validationFailed errors, texts⟩

end Verdict

/-- A source, and the tree in which it is processed. -/
structure Pass where
  source : String
  tree : Tree

namespace Pass

variable (config : Config) (validator : Validator) (p : Pass)

def output : Path := config.outputPath p.source

def flattened : Flattened := flatten p.tree config p.source (p.output config)

def expands : Bool := (p.flattened config).result matches .ok _

def verdict : Verdict :=
  match (p.flattened config).result with
  | .error failure => .ofExpansion p.source failure
  | .ok registry => .ofReply p.source registry (validator (p.flattened config).tree (p.output config))

def outcome : Outcome := ⟨p.source, (p.verdict config validator).status⟩

end Pass

/-- The passes over sources: each finds the tree that the one before has left. -/
def passes (config : Config) : Tree → List String → List Pass
  | _, [] => []
  | t, source :: sources =>
    ⟨source, t⟩ :: passes config (Pass.flattened config ⟨source, t⟩).tree sources

theorem map_source_passes (config : Config) (t : Tree) (sources : List String) :
    (passes config t sources).map Pass.source = sources := by
  induction sources generalizing t with
  | nil => rfl
  | cons source sources ih => exact congrArg (source :: ·) (ih _)

variable {config : Config} {validator : Validator} {s : State}

theorem report_run (h : s.report.room = none) (line : String) :
    report line s = .ok () { s with report := s.report.accept [line] } := by
  simp [report, Sink.write_of_room h]

theorem reports_run {α : Type} (f : α → String) (xs : List α) (h : s.report.room = none) :
    (List.forM xs fun x => report (f x) : Run Unit) s =
      .ok () { s with report := s.report.accept (xs.map f) } := by
  induction xs generalizing s with
  | nil =>
    rw [List.map_nil, Sink.accept_nil]
    rfl
  | cons x xs ih =>
    rw [forM_cons_run, report_run h]
    simp only
    rw [ih (by simpa using h)]
    simp

theorem logAll_run (records : List Log.Record) (s : State) :
    logAll records s = .ok () { s with log := s.log ++ records.map .record } := rfl

theorem fault_run (h : s.report.room = none) (what source : String) (failure : Failure) :
    ∃ log, fault what source failure s = .ok (.fault failure.message)
      { s with log, report := s.report.accept [faultLine source failure] } := by
  refine ⟨s.log ++
    [.record ⟨.warn, .batch, what ++ " of " ++ source ++ " failed: " ++ failure.message⟩], ?_⟩
  simp only [fault, bind_run, logAll_run, report_run, h, pure_run]
  rfl

theorem reportExpansion_run (h : s.report.room = none) (source : String) (failure : Failure) :
    ∃ log, reportExpansion source failure s = .ok (Verdict.ofExpansion source failure).status
      { s with log, report := s.report.accept (Verdict.ofExpansion source failure).texts } := by
  unfold reportExpansion Verdict.ofExpansion
  cases failure.diagnostics? with
  | none => exact fault_run h "Expansion" source failure
  | some diagnostics =>
    refine ⟨s.log, ?_⟩
    simp only [bind_run, reports_run _ _ h, pure_run]
    rw [report_run (by simpa using h)]
    simp

/-- Writes a translated line. -/
def Hearing.write : LineSink Failure Hearing := fun text heard =>
  match heard.report.write text with
  | (.ok (), report) => .ok () { heard with report := report }
  | (.error e, report) => .error (.system e) { heard with report := report }

theorem Hearing.writes_run (texts : List String) {heard : Hearing} (h : heard.report.room = none) :
    (List.forM texts Hearing.write : EStateM Failure Hearing Unit) heard =
      .ok () { heard with report := heard.report.accept texts } := by
  induction texts generalizing heard with
  | nil =>
    rw [Sink.accept_nil]
    rfl
  | cons text texts ih =>
    rw [forM_cons_run, Hearing.write, Sink.write_of_room h]
    simp only
    rw [ih (by simpa using h), Sink.accept_accept]
    rfl

/-- Counts a line as an error if translation leaves something of it. -/
def Hearing.count (registry : Registry) (line : String) (heard : Hearing) : Hearing :=
  { heard with errors := if registry.translate line = [] then heard.errors else heard.errors + 1 }

theorem hear_eq (registry : Registry) (line : String) : hear registry line =
    modify (Hearing.count registry line) >>= fun _ =>
      List.forM (registry.translate line) Hearing.write := by
  funext heard
  rw [bind_run, modify_run]
  unfold hear
  rfl

theorem hear_run (registry : Registry) (line : String) {heard : Hearing}
    (h : heard.report.room = none) : hear registry line heard =
      .ok () ⟨heard.errors + Verdict.errorCount registry [line],
        heard.report.accept (registry.translate line)⟩ := by
  have hcount : (heard.count registry line).errors =
      heard.errors + Verdict.errorCount registry [line] := by
    by_cases hnil : registry.translate line = [] <;>
      simp [Hearing.count, Verdict.errorCount, hnil]
  simp only [hear_eq, bind_run, modify_run]
  rw [Hearing.writes_run _ (show (heard.count registry line).report.room = none from h), hcount]
  simp only [Hearing.count]

theorem hears_run (registry : Registry) (lines : List String) {heard : Hearing}
    (h : heard.report.room = none) : (List.forM lines (hear registry) : EStateM _ _ _) heard =
      .ok () ⟨heard.errors + Verdict.errorCount registry lines,
        heard.report.accept (lines.flatMap registry.translate)⟩ := by
  induction lines generalizing heard with
  | nil =>
    rw [List.flatMap_nil, Sink.accept_nil]
    rfl
  | cons line lines ih =>
    rw [forM_cons_run, hear_run registry line h]
    simp only
    rw [ih (by simpa using h), Sink.accept_accept, List.flatMap_cons, Nat.add_assoc]
    have hcount : Verdict.errorCount registry (line :: lines) =
        Verdict.errorCount registry [line] + Verdict.errorCount registry lines := by
      rw [← List.singleton_append]
      exact List.countP_append
    rw [hcount]

/-- What comes of an answer that has been delivered. -/
def conclude (source : String) (output : Path) (reply : Reply) (s : State) :
    EStateM.Result Failure Hearing Unit → EStateM.Result Failure State Status
  | .ok () heard =>
    .ok (if heard.errors = 0 then .clean else .validationFailed heard.errors) (told heard.report)
  | .error failure heard => fault "Validation" source failure (told heard.report)
where
  told (report : Sink) : State :=
    { s with report, validated := s.validated ++ [output], log := s.log ++ reply.log output }

theorem validate_eq (validator : Validator) (source : String) (output : Path) (registry : Registry)
    (s : State) : validate validator source output registry s =
      conclude source output (validator s.tree output) s
        ((validator s.tree output).deliver (hear registry) { report := s.report }) := by
  simp only [validate, bind_run, get_run, set_run]
  cases (validator s.tree output).deliver (hear registry) { report := s.report } <;> rfl

theorem validate_run (h : s.report.room = none) (source : String) (output : Path)
    (registry : Registry) :
    let v := Verdict.ofReply source registry (validator s.tree output)
    ∃ log, validate validator source output registry s = .ok v.status
      { s with log, report := s.report.accept v.texts, validated := s.validated ++ [output] } := by
  have hheard := @hears_run registry (validator s.tree output).told { report := s.report } h
  rw [validate_eq, Reply.deliver_of_taken hheard]
  unfold Verdict.ofReply
  cases (validator s.tree output).failure? with
  | none =>
    refine ⟨s.log ++ (validator s.tree output).log output, ?_⟩
    simp only [conclude, Nat.zero_add]
    rfl
  | some failure =>
    have hroom : (s.report.accept ((validator s.tree output).told.flatMap registry.translate)).room =
        none := h
    obtain ⟨log, hlog⟩ := fault_run (s := conclude.told output (validator s.tree output) s
      (s.report.accept ((validator s.tree output).told.flatMap registry.translate)))
      hroom "Validation" source failure
    refine ⟨log, ?_⟩
    rw [← Sink.accept_accept]
    exact hlog

/-- What is done with a source once it is flattened. -/
def judge (config : Config) (validator : Validator) (p : Pass) : Run Status :=
  match (p.flattened config).result with
  | .error failure => reportExpansion p.source failure
  | .ok registry => validate validator p.source (p.output config) registry

theorem judge_run (h : s.report.room = none) {p : Pass} (ht : s.tree = (p.flattened config).tree) :
    ∃ log, judge config validator p s = .ok (p.verdict config validator).status
      { s with
        log
        report := s.report.accept (p.verdict config validator).texts
        validated := s.validated ++ if p.expands config then [p.output config] else [] } := by
  unfold judge Pass.verdict Pass.expands
  cases (p.flattened config).result with
  | error failure =>
    obtain ⟨log, hlog⟩ := reportExpansion_run h p.source failure
    refine ⟨log, hlog.trans ?_⟩
    simp
  | ok registry =>
    obtain ⟨log, hlog⟩ := @validate_run validator s h p.source (p.output config) registry
    rw [← ht]
    exact ⟨log, hlog⟩

/-- The state in which a source is judged. -/
def State.flattened (config : Config) (s : State) (source : String) : State :=
  let flattened := (Pass.mk source s.tree).flattened config
  { s with
    tree := flattened.tree
    log := s.log ++ [.record ⟨.info, .batch, "Processing " ++ source⟩] ++
      flattened.log.map .record }

theorem processSource_eq (config : Config) (validator : Validator) (source : String) (s : State) :
    processSource config validator source s =
      (judge config validator ⟨source, s.tree⟩ >>= fun status => pure ⟨source, status⟩)
        (s.flattened config source) := by
  unfold processSource judge
  simp only [bind_run, logAll_run, get_run, modify_run]
  rw [show flatten s.tree config source (config.outputPath source) =
    (Pass.mk source s.tree).flattened config from rfl]
  cases hresult : ((Pass.mk source s.tree).flattened config).result <;> rfl

/-- A pass always ends with an outcome. -/
theorem processSource_run (h : s.report.room = none) (source : String) :
    let p : Pass := ⟨source, s.tree⟩
    ∃ s', processSource config validator source s = .ok (p.outcome config validator) s' ∧
      s'.tree = (p.flattened config).tree ∧
      s'.report = s.report.accept (p.verdict config validator).texts ∧
      s'.validated = s.validated ++ if p.expands config then [p.output config] else [] := by
  intro p
  obtain ⟨log, hlog⟩ := @judge_run config validator (s.flattened config source) h p rfl
  rw [processSource_eq, bind_run, hlog]
  exact ⟨_, rfl, rfl, rfl, rfl⟩

/-- Passes follow one another whatever becomes of the sources. -/
theorem processSources_run (h : s.report.room = none) (sources : List String) :
    let ps := passes config s.tree sources
    ∃ s', sources.mapM (processSource config validator) s =
        .ok (ps.map (Pass.outcome config validator)) s' ∧
      s'.report = s.report.accept (ps.flatMap fun p => (p.verdict config validator).texts) ∧
      s'.validated = s.validated ++ (ps.filter (Pass.expands config)).map (Pass.output config) := by
  induction sources generalizing s with
  | nil => exact ⟨s, rfl, by simp [passes], by simp [passes]⟩
  | cons source sources ih =>
    obtain ⟨s₁, hfirst, htree, hreport, hvalidated⟩ :=
      @processSource_run config validator s h source
    obtain ⟨s₂, hrest, hreport', hvalidated'⟩ := ih (s := s₁) (by rw [hreport]; exact h)
    refine ⟨s₂, ?_, ?_, ?_⟩
    · rw [List.mapM_cons, bind_run, hfirst]
      simp only
      rw [bind_run, hrest, htree]
      rfl
    · rw [hreport', hreport, htree, Sink.accept_accept]
      rfl
    · rw [hvalidated', hvalidated, htree, passes, List.filter_cons, List.append_assoc]
      split <;> rfl

/-- The build directory can be used: it has been made in `t`, and is not the root. -/
structure Prepared (config : Config) (t t' : Tree) : Prop where
  made : t.makeDirs config.buildDir = (.ok (), t')
  apart : ∃ build root, t'.realPath config.buildDir = .ok build ∧
    t'.realPath config.root = .ok root ∧ build ≠ root

theorem prepare_run {t : Tree} (h : Prepared config s.tree t) :
    prepare config s = .ok () { s with tree := t } := by
  obtain ⟨build, root, hbuild, hroot, hne⟩ := h.apart
  simp only [prepare, h.made, hbuild, hroot, if_neg hne]

theorem of_prepare {s' : State} (h : prepare config s = .ok () s') :
    ∃ t, Prepared config s.tree t ∧ s' = { s with tree := t } := by
  rcases hmade : s.tree.makeDirs config.buildDir with ⟨made, t⟩
  simp only [prepare, hmade] at h
  split at h
  · cases h
  split at h
  · cases h
  · cases h
  · rename_i build root hbuild hroot
    split at h
    · cases h
    · rename_i hne
      cases h
      exact ⟨t, ⟨hmade, build, root, hbuild, hroot, hne⟩, rfl⟩

theorem run_eq (config : Config) (validator : Validator) (s : State) : run config validator s =
    match Source.discover s.tree config with
    | .error failure => .error failure s
    | .ok sources =>
      match prepare config s with
      | .error failure s' => .error failure s'
      | .ok _ s' => sources.mapM (processSource config validator) s' := by
  unfold run
  rw [bind_run, get_run]
  cases hsources : Source.discover s.tree config with
  | error failure =>
    simp only [hsources]
    rfl
  | ok sources =>
    simp only [hsources, bind_run]
    cases prepare config s <;> rfl

theorem run_of_prepared {sources : List String} {t : Tree}
    (hsources : Source.discover s.tree config = .ok sources) (hprepared : Prepared config s.tree t) :
    run config validator s = sources.mapM (processSource config validator) { s with tree := t } := by
  simp only [run_eq, hsources, prepare_run hprepared]

theorem run_eq_ok_iff {summary : Summary} {s' : State} : run config validator s = .ok summary s' ↔
    ∃ sources t, Source.discover s.tree config = .ok sources ∧ Prepared config s.tree t ∧
      sources.mapM (processSource config validator) { s with tree := t } = .ok summary s' := by
  constructor
  · intro h
    rw [run_eq] at h
    split at h
    · cases h
    rename_i sources hsources
    split at h
    · cases h
    · rename_i s₁ hprepare
      obtain ⟨t, ht, rfl⟩ := of_prepare hprepare
      exact ⟨sources, t, hsources, ht, h⟩
  · rintro ⟨sources, t, hsources, ht, h⟩
    rw [run_of_prepared hsources ht, h]

/-- What a run that ends well does: the sources are passed over in the tree with the build directory. -/
theorem of_run {summary : Summary} {s' : State} (h : s.report.room = none)
    (hrun : run config validator s = .ok summary s') :
    ∃ sources t, Source.discover s.tree config = .ok sources ∧ Prepared config s.tree t ∧
      let ps := passes config t sources
      summary = ps.map (Pass.outcome config validator) ∧
        s'.report = s.report.accept (ps.flatMap fun p => (p.verdict config validator).texts) ∧
        s'.validated = s.validated ++ (ps.filter (Pass.expands config)).map (Pass.output config) := by
  obtain ⟨sources, t, hsources, ht, hpasses⟩ := run_eq_ok_iff.mp hrun
  obtain ⟨s₁, hps, hreport, hvalidated⟩ :=
    @processSources_run config validator { s with tree := t } h sources
  rw [hps] at hpasses
  cases hpasses
  exact ⟨sources, t, hsources, ht, rfl, hreport, hvalidated⟩

end Batch

end GlslFlatten
