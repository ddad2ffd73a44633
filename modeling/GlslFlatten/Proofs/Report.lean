import GlslFlatten.CommandLine
import GlslFlatten.Proofs.BatchRun
import GlslFlatten.Proofs.Discovery
import GlslFlatten.Proofs.TidyRuns

/-!
The report and the outcomes. What is written about a source fits its status, so a run that ends well
has written nothing exactly if every source is clean, and the exit code says the same.
-/

namespace GlslFlatten

open Text Diagnostic

namespace Batch

variable (config : Config) (validator : Validator) (p : Pass)

/-- What the validator answers in a pass. -/
def Pass.reply : Reply := validator (p.flattened config).tree (p.output config)

/-- The translation of everything that the validator has told in a pass. -/
structure Translated (errors : Nat) (texts : List String) : Prop where
  translation : ∃ registry, (p.flattened config).result = .ok registry ∧
    texts = (p.reply config validator).told.flatMap registry.translate
  marked : texts.countP isMarked = errors
  indented : ∀ text ∈ texts, isMarked text = true ∨
    ∃ name, text = "       (included from " ++ name ++ ")"

/-- What the report says of a source whose status is known. -/
inductive Fits : Status → List String → Prop
  | clean : Fits .clean []
  | expansionFailed (first last : Diagnostic) : last.file = first.file →
      last.line = first.line + 1 → last.token = "" → last.message = "compilation terminated" →
      Fits (.expansionFailed [first, last]) ["ERROR: " ++ first.text, "ERROR: " ++ last.text,
        "ERROR: 2 compilation errors.  No code generated."]
  | validationFailed {errors : Nat} {texts : List String} :
      Translated config validator p errors texts → 0 < errors → Fits (.validationFailed errors) texts
  | unexpanded (message : String) :
      Fits (.fault message) ["ERROR: " ++ p.source ++ ": " ++ message]
  | unvalidated {errors : Nat} {texts : List String} (message : String) :
      Translated config validator p errors texts →
      Fits (.fault message) (texts ++ ["ERROR: " ++ p.source ++ ": " ++ message])

variable {config validator p}

theorem exists_terminating_of_diagnostics? {f : Failure} {ds : List Diagnostic}
    (h : f.diagnostics? = some ds) :
    ∃ file line token message, ds = terminating file line token message := by
  cases f <;> simp only [Failure.diagnostics?, reduceCtorEq, Option.some.injEq] at h <;>
    exact ⟨_, _, _, _, h.symm⟩

theorem fits_ofExpansion (failure : Failure) :
    let v := Verdict.ofExpansion p.source failure
    Fits config validator p v.status v.texts := by
  intro v
  cases hd : failure.diagnostics? with
  | none =>
    have hv : v = .fault p.source failure := by simp only [v, Verdict.ofExpansion, hd]
    rw [hv]
    exact .unexpanded failure.message
  | some ds =>
    obtain ⟨file, line, token, message, rfl⟩ := exists_terminating_of_diagnostics? hd
    have hv : v = ⟨.expansionFailed (terminating file line token message),
        (terminating file line token message).map (fun d => errorMark ++ d.text) ++
          [summaryLine 2]⟩ := by
      simp only [v, Verdict.ofExpansion, hd]
      rfl
    rw [hv]
    have hsummary : summaryLine 2 = "ERROR: 2 compilation errors.  No code generated." := by
      decide +kernel
    rw [hsummary]
    exact .expansionFailed _ _ rfl rfl rfl rfl

theorem Verdict.flatMap_translate_eq_nil_iff {registry : Registry} {lines : List String} :
    lines.flatMap registry.translate = [] ↔ errorCount registry lines = 0 := by
  rw [List.flatMap_eq_nil_iff, errorCount, List.countP_eq_zero]
  simp

theorem translated_of_result {registry : Registry} (h : (p.flattened config).result = .ok registry) :
    let told := (p.reply config validator).told
    Translated config validator p (Verdict.errorCount registry told)
      (told.flatMap registry.translate) where
  translation := ⟨registry, h, rfl⟩
  marked := registry.countP_isMarked_flatMap _
  indented := by
    intro text ht
    obtain ⟨line, _, hline⟩ := List.mem_flatMap.mp ht
    rcases registry.translate_shape line with hnil | ⟨first, chain, hshape, hmarked, _⟩
    · rw [hnil] at hline
      cases hline
    · rw [hshape] at hline
      rcases List.mem_cons.mp hline with rfl | hchain
      · exact .inl hmarked
      · obtain ⟨file, _, rfl⟩ := List.mem_map.mp hchain
        exact .inr ⟨file.name, rfl⟩

theorem fits_verdict (p : Pass) : Fits config validator p (p.verdict config validator).status
    (p.verdict config validator).texts := by
  cases hr : (p.flattened config).result with
  | error failure =>
    have hv : p.verdict config validator = .ofExpansion p.source failure := by
      simp only [Pass.verdict, hr]
    rw [hv]
    exact fits_ofExpansion failure
  | ok registry =>
    have hv : p.verdict config validator =
        .ofReply p.source registry (p.reply config validator) := by
      simp only [Pass.verdict, hr]
      rfl
    rw [hv]
    have htranslated := @translated_of_result config validator p registry hr
    unfold Verdict.ofReply
    cases (p.reply config validator).failure? with
    | some failure => exact .unvalidated failure.message htranslated
    | none =>
      simp only
      by_cases hzero : Verdict.errorCount registry (p.reply config validator).told = 0
      · rw [if_pos hzero, Verdict.flatMap_translate_eq_nil_iff.mpr hzero]
        exact .clean
      · rw [if_neg hzero]
        exact .validationFailed htranslated (Nat.pos_of_ne_zero hzero)

/-- Nothing is written about a clean source, and something about every other one. -/
theorem Fits.clean_iff {status : Status} {texts : List String}
    (h : Fits config validator p status texts) : status = .clean ↔ texts = [] := by
  cases h with
  | clean => simp
  | expansionFailed first last => simp
  | validationFailed htranslated hpos =>
    constructor
    · intro hclean
      cases hclean
    · rintro rfl
      have hmarked := htranslated.marked
      rw [List.countP_nil] at hmarked
      omega
  | unexpanded message => simp
  | unvalidated message _ => simp

theorem lines_accept_eq_iff (sink : Sink) (texts : List String) :
    (sink.accept texts).lines = sink.lines ↔ texts = [] := by
  rw [Sink.accept, List.append_right_eq_self, List.flatMap_eq_nil_iff]
  constructor
  · intro h
    cases texts with
    | nil => rfl
    | cons text texts => exact absurd (h text List.mem_cons_self) (splitAt_ne_nil _ _)
  · rintro rfl
    exact List.forall_mem_nil _

/-- Passes over any sources end with success exactly if nothing is said of any of them. -/
theorem isSuccess_iff (ps : List Pass) :
    Summary.isSuccess (ps.map (Pass.outcome config validator)) = true ↔
      (ps.flatMap fun p => (p.verdict config validator).texts) = [] := by
  rw [Summary.isSuccess, List.all_map, List.all_eq_true, List.flatMap_eq_nil_iff]
  refine forall₂_congr fun p _ => ?_
  rw [← (fits_verdict p).clean_iff]
  exact decide_eq_true_iff

theorem singleLine_translate {registry : Registry} (h : ∀ f ∈ registry.files, SingleLine f.name)
    (line : String) : ∀ text ∈ registry.translate line, SingleLine text := by
  rcases registry.translate_shape line with hnil | ⟨first, chain, hshape, _, hsub, hfirst⟩
  · rw [hnil]
    exact List.forall_mem_nil _
  · rw [hshape]
    refine List.forall_mem_cons.mpr ⟨hfirst h, fun text ht => ?_⟩
    obtain ⟨file, hm, rfl⟩ := List.mem_map.mp ht
    have hopen : SingleLine "       (included from " := by decide +kernel
    have hclose : SingleLine ")" := by decide +kernel
    exact (hopen.append (h file (hsub hm))).append hclose

section Tidy

variable (hroot : SingleLine config.root.text) (hbuild : SingleLine config.buildDir.text)

include hroot hbuild

theorem flattened_tidy (htree : p.tree.Tidy) (hsource : SingleLine p.source) :
    (p.flattened config).tree.Tidy ∧ TidyResult (p.flattened config).result :=
  flatten_tidy htree hroot hsource (Path.singleLine_join hbuild hsource)

theorem tidy_passes {t : Tree} (ht : t.Tidy) {sources : List String}
    (hs : ∀ source ∈ sources, SingleLine source) :
    ∀ p ∈ passes config t sources, p.tree.Tidy ∧ SingleLine p.source := by
  induction sources generalizing t with
  | nil => exact List.forall_mem_nil _
  | cons source sources ih =>
    obtain ⟨hsource, hrest⟩ := List.forall_mem_cons.mp hs
    refine List.forall_mem_cons.mpr ⟨⟨ht, hsource⟩, ih ?_ hrest⟩
    exact (flattened_tidy (p := ⟨source, t⟩) hroot hbuild ht hsource).1

theorem singleLine_texts (htree : p.tree.Tidy) (hsource : SingleLine p.source)
    (hvalidator : ∀ failure, (p.reply config validator).failure? = some failure →
      SingleLine failure.message) :
    ∀ text ∈ (p.verdict config validator).texts, SingleLine text := by
  have hmark : SingleLine errorMark := by decide +kernel
  have hblank : SingleLine ": " := by decide +kernel
  have hfault : ∀ failure : Failure, SingleLine failure.message →
      SingleLine (faultLine p.source failure) :=
    fun failure hf => ((hmark.append hsource).append hblank).append hf
  have hflattened := (flattened_tidy hroot hbuild htree hsource).2
  unfold Pass.verdict
  cases hr : (p.flattened config).result with
  | error failure =>
    rw [hr] at hflattened
    simp only [Verdict.ofExpansion]
    cases hd : failure.diagnostics? with
    | none => exact List.forall_mem_singleton.mpr (hfault failure hflattened.message)
    | some ds =>
      have hend : SingleLine " compilation errors.  No code generated." := by decide +kernel
      refine List.forall_mem_append.mpr ⟨?_, List.forall_mem_singleton.mpr ?_⟩
      · intro text ht
        obtain ⟨d, hm, rfl⟩ := List.mem_map.mp ht
        exact hmark.append (hflattened.diagnostics ds hd d hm)
      · exact (hmark.append (.toString ds.length)).append hend
  | ok registry =>
    rw [hr] at hflattened
    have htranslated : ∀ text ∈ (p.reply config validator).told.flatMap registry.translate,
        SingleLine text := by
      intro text ht
      obtain ⟨line, _, hline⟩ := List.mem_flatMap.mp ht
      exact singleLine_translate hflattened line text hline
    change ∀ text ∈ (Verdict.ofReply p.source registry (p.reply config validator)).texts, _
    unfold Verdict.ofReply
    cases hfailure : (p.reply config validator).failure? with
    | none => exact htranslated
    | some failure =>
      exact List.forall_mem_append.mpr ⟨htranslated,
        List.forall_mem_singleton.mpr (hfault failure (hvalidator failure hfailure))⟩

end Tidy

/-- What is written in a run, source by source. Texts without line feeds are written as they are. -/
theorem report_of_passes {t : Tree} (ht : t.Tidy) (hroot : SingleLine config.root.text)
    (hbuild : SingleLine config.buildDir.text)
    (hvalidator : ∀ t output failure, (validator t output).failure? = some failure →
      SingleLine failure.message) {sources : List String} (hs : ∀ source ∈ sources, SingleLine source) :
    let ps := passes config t sources
    (ps.flatMap fun p => (p.verdict config validator).texts).flatMap (splitAt '\n') =
      (ps.map fun p => (p.verdict config validator).texts).flatten := by
  intro ps
  rw [SingleLine.flatMap_splitAt]
  · rfl
  · intro text hm
    obtain ⟨p, hp, htext⟩ := List.mem_flatMap.mp hm
    obtain ⟨htree, hsource⟩ := tidy_passes hroot hbuild ht hs p hp
    exact singleLine_texts hroot hbuild htree hsource (fun failure hf => hvalidator _ _ failure hf)
      text htext

theorem singleLine_discover {t : Tree} (ht : t.Tidy) {sources : List String}
    (h : Source.discover t config = .ok sources) : ∀ source ∈ sources, SingleLine source := by
  intro source hm
  obtain ⟨root, hroot, hdir⟩ := Source.of_discover h
  obtain ⟨name, e, rfl, he⟩ := Source.exists_child?_of_mem_discover hroot hdir h hm
  cases name with
  | text s => exact ht.names _ _ he s (by simp)
  | foreign n =>
    obtain ⟨before, after, hsplit, _⟩ := List.lookup_eq_some_iff.mp he
    exact ht.foreign ((root, n), e) (by simp [hsplit])

/-- The report of a run that has ended well, and its outcomes. -/
structure Agrees (config : Config) (validator : Validator) (s s' : State) (summary : Summary) :
    Prop where
  success : summary.isSuccess = true ↔ s'.report.lines = s.report.lines
  parts : s.tree.Tidy → SingleLine config.root.text → SingleLine config.buildDir.text →
    (∀ t output failure, (validator t output).failure? = some failure → SingleLine failure.message) →
    ∃ sources t, Prepared config s.tree t ∧
      let ps := passes config t sources
      summary = ps.map (Pass.outcome config validator) ∧
        ∃ parts, s'.report.lines = s.report.lines ++ parts.flatten ∧
          List.Forall₂ (fun p => Fits config validator p (p.outcome config validator).status) ps parts

theorem agrees_of_run {s s' : State} {summary : Summary} (h : s.report.room = none)
    (hrun : run config validator s = .ok summary s') : Agrees config validator s s' summary := by
  obtain ⟨sources, t, hsources, hprepared, rfl, hreport, _⟩ := of_run h hrun
  constructor
  · rw [hreport, lines_accept_eq_iff, isSuccess_iff]
  · intro htree hroot hbuild hvalidator
    have ht : t.Tidy := by
      have hmade := htree.makeDirs hbuild
      rwa [hprepared.made] at hmade
    refine ⟨sources, t, hprepared, rfl,
      (passes config t sources).map fun p => (p.verdict config validator).texts, ?_, ?_⟩
    · rw [hreport, Sink.accept, report_of_passes ht hroot hbuild hvalidator
        (singleLine_discover htree hsources)]
    · rw [List.forall₂_map_right_iff, List.forall₂_same]
      exact fun p _ => fits_verdict p

end Batch

theorem Tree.tidy_sample : Tree.Tidy .sample := by
  have hnames : Tree.sample.entries.all (·.1.all (! ·.toList.contains '\n')) = true := by
    decide +kernel
  refine Tree.tidy_of_entries (List.forall_mem_nil _) (fun x hx => ⟨fun name hm => ?_, ?_, ?_⟩)
    (List.forall_mem_nil _)
  · have := List.all_eq_true.mp (List.all_eq_true.mp hnames x hx) name hm
    simpa [SingleLine] using this
  all_goals
    simp only [Tree.sample, List.mem_cons, List.not_mem_nil, or_false] at hx
    rcases hx with rfl | rfl | rfl | rfl | rfl <;> simp [Entry.refusal?]

theorem Sink.text_eq_empty_iff (s : Sink) : s.text = "" ↔ s.lines = [] := by
  unfold Sink.text
  constructor
  · intro h
    cases hl : s.lines with
    | nil => rfl
    | cons line lines =>
      rw [hl] at h
      have := congrArg String.toList h
      simp at this
  · intro h
    rw [h]
    rfl

namespace CommandLine

open Batch

/-- The batch that the command runs, apart from what it says in the log. -/
theorem batch_eq_ok {launch : Launcher} {o : Options} {s s' : State} {summary : Summary}
    (h : batch launch o s = .ok summary s') : ∃ s₁,
      Batch.run o.config (Validator.ofProgram launch o.validator) s = .ok summary s₁ ∧
        s'.report = s₁.report := by
  have hbatch : batch launch o s =
      if s.tree.isDir o.root then
        (Batch.run o.config (Validator.ofProgram launch o.validator) >>= fun summary =>
          logAll [⟨.info, .program, toString summary.length ++ " sources processed, " ++
            toString summary.failures.length ++ " failed"⟩] >>= fun _ => pure summary) s
      else .error (.rootNotDirectory o.root) s := by
    unfold batch
    rw [bind_run, get_run]
    simp only
    cases s.tree.isDir o.root <;> rfl
  rw [hbatch] at h
  split at h
  · rw [bind_run] at h
    split at h
    · rename_i summary₁ s₁ hrun
      cases h
      exact ⟨s₁, hrun, rfl⟩
    · cases h
  · cases h

/-- The exit code of a run is 0 if it ends well and says nothing, and 1 otherwise. -/
theorem code_runOptions (host : Host) (t : Tree) (setting : Option String) (o : Options) :
    let finished := runOptions host t setting o
    (finished.code = 0 ↔
        (∃ summary s', batch host.launch o { tree := t } = .ok summary s') ∧ finished.stdout = "") ∧
      (finished.code = 0 ∨ finished.code = 1) := by
  intro finished
  cases hbatch : batch host.launch o { tree := t } with
  | error failure s' =>
    have hcode : finished.code = 1 := by simp only [finished, runOptions, hbatch]
    simp [hcode]
  | ok summary s' =>
    obtain ⟨s₁, hrun, hreport⟩ := batch_eq_ok hbatch
    have hagrees := (agrees_of_run rfl hrun).success
    have hcode : finished.code = if summary.isSuccess then 0 else 1 := by
      simp only [finished, runOptions, hbatch]
    have hout : finished.stdout = s₁.report.text := by
      simp only [finished, runOptions, hbatch, hreport]
    rw [hcode, hout, Sink.text_eq_empty_iff]
    have hempty : summary.isSuccess = true ↔ s₁.report.lines = [] := hagrees
    rw [← hempty]
    cases summary.isSuccess <;> simp

/-- A run that ends well succeeds exactly if it says nothing, and what it says of each source fits the
status of the source. The exit code of the command tells the same, on any host. -/
theorem report_agrees :
    (∀ {config : Config} {validator : Validator} {s s' : State} {summary : Summary},
      s.report.room = none → Batch.run config validator s = .ok summary s' →
        Agrees config validator s s' summary) ∧
      ∀ (host : Host) (t : Tree) (setting : Option String) (args : List String) (o : Options),
        host.request args = .run o →
          let finished := command host t setting args
          (finished.code = 0 ↔ (∃ summary s', batch host.launch o { tree := t } = .ok summary s') ∧
              finished.stdout = "") ∧
            (finished.code = 0 ∨ finished.code = 1) := by
  refine ⟨fun hroom hrun => agrees_of_run hroom hrun, fun host t setting args o hargs => ?_⟩
  have hcommand : command host t setting args = runOptions host t setting o := by
    unfold command
    rw [hargs]
  rw [hcommand]
  exact code_runOptions host t setting o

/-- A source that includes itself, and one that a silent program is given. -/
theorem report_agrees_sample :
    let config : Config := { root := ⟨"/s"⟩, buildDir := ⟨"/s/out"⟩, extensions := ["oop"] }
    let t : Tree := {
      entries := [(["s"], .directory), (["s", "a.frag.glsl"], .file (Utf8.bytes "x\n"))]
      workdir := [] }
    let host : Host := {
      request := fun args => .run { root := ⟨args.headD ""⟩ }
      launch := fun _ _ _ => .ok { ending := "exit status: 0" }
      rendered := fun _ _ _ => "" }
    let finished := command host t none ["/s"]
    (∃ summary s', Batch.run config (.canned [] []) { tree := .sample } = .ok summary s' ∧
        summary.isSuccess = false ∧ s'.report.lines ≠ [] ∧
        ∃ parts : List (List String),
          s'.report.lines = parts.flatten ∧ parts.length = summary.length) ∧
      (∃ summary s', batch host.launch { root := ⟨"/s"⟩ } { tree := t } = .ok summary s') ∧
        finished.stdout = "" ∧
        finished.tree.content? ["s", "build", "a.frag.glsl"] = some (Utf8.bytes "x\n") := by
  intro config t host finished
  refine ⟨?_, ?_⟩
  · have hsome : (result? (Batch.run config (.canned [] []) { tree := .sample })).any
        (fun x => !x.1.isSuccess) = true := by decide +kernel
    obtain ⟨summary, s', hrun, hends⟩ := of_any_result? hsome
    have hfails : summary.isSuccess = false := by simpa using hends
    have hagrees := report_agrees.1 rfl hrun
    refine ⟨summary, s', hrun, hfails, ?_, ?_⟩
    · intro hempty
      rw [hagrees.success.mpr hempty] at hfails
      cases hfails
    · obtain ⟨sources, t, _, hsummary, parts, hlines, hfits⟩ := hagrees.parts Tree.tidy_sample
        (by decide +kernel) (by decide +kernel) (by simp [Validator.canned, Reply.failure?])
      exact ⟨parts, hlines, by rw [← hfits.length_eq, hsummary, List.length_map]⟩
  · obtain ⟨hzero, hwritten⟩ : finished.code = 0 ∧ finished.tree.content? ["s", "build", "a.frag.glsl"] =
        some (Utf8.bytes "x\n") := by decide +kernel
    obtain ⟨hends, hempty⟩ := (report_agrees.2 host t none ["/s"] { root := ⟨"/s"⟩ } rfl).1.mp hzero
    exact ⟨hends, hempty, hwritten⟩

end CommandLine

end GlslFlatten
