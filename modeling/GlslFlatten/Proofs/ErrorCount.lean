import GlslFlatten.Proofs.BatchRun
import GlslFlatten.Proofs.FileLines

/-!
Errors of a validator and the status of a source. Every error counts, with a position or without one,
whether its file is known or not; a mark with nothing behind it is no error.
-/

namespace GlslFlatten.Batch

open ValidatorLine Diagnostic

variable {config : Config} {validator : Validator} {source : String} {s : State}

theorem Verdict.errorCount_eq (registry : Registry) {lines : List String}
    (h : ∀ line ∈ lines, '\n' ∉ line.toList) : errorCount registry lines = lines.countP isError := by
  refine List.countP_congr fun line hm => ?_
  rw [decide_eq_true_eq, registry.translate_ne_nil_iff (h line hm)]

/-- If the source is expanded and the validator ends well, the errors among the lines decide. -/
theorem processSource_counts_errors {registry : Registry} (hroom : s.report.room = none)
    (hexpanded : (flatten s.tree config source (config.outputPath source)).result = .ok registry)
    {reply : Reply} (hreply : reply = validator
      (flatten s.tree config source (config.outputPath source)).tree (config.outputPath source))
    (hends : reply.failure? = none) (hlines : ∀ line ∈ reply.told, '\n' ∉ line.toList) :
    let errors := reply.told.countP isError
    ∃ s', processSource config validator source s =
        .ok ⟨source, if errors = 0 then .clean else .validationFailed errors⟩ s' ∧
      s'.report = s.report.accept (reply.told.flatMap registry.translate) := by
  intro errors
  obtain ⟨s', hrun, _, hreport, _⟩ := @processSource_run config validator s hroom source
  have hverdict : (Pass.mk source s.tree).verdict config validator =
      ⟨if errors = 0 then .clean else .validationFailed errors,
        reply.told.flatMap registry.translate⟩ := by
    unfold Pass.verdict
    have hresult : ((Pass.mk source s.tree).flattened config).result = .ok registry := hexpanded
    rw [hresult]
    change Verdict.ofReply source registry (validator _ _) = _
    simp only [Pass.flattened, Pass.output]
    rw [← hreply, Verdict.ofReply, hends, Verdict.errorCount_eq registry hlines]
  rw [Pass.outcome, hverdict] at hrun
  rw [hverdict] at hreport
  exact ⟨s', hrun, hreport⟩

/-- A position, a file number that is unknown, a text, and leading blanks. The warning and the mark
alone do not count. -/
theorem processSource_counts_errors_sample :
    let config : Config := { root := ⟨"/s"⟩, buildDir := ⟨"/"⟩ }
    let lines := ["  ERROR: 0:1: 'x' : bad", "ERROR: 9:1: y", "WARNING: 0:1: z", "ERROR: ", "ERROR: 2 errors"]
    ∃ s', processSource config (.canned [("lib", lines)] []) "lib" { tree := .sample } =
      .ok ⟨"lib", .validationFailed 3⟩ s' := by
  intro config lines
  obtain ⟨registry, hexpanded⟩ :
      ∃ registry, (flatten .sample config "lib" (config.outputPath "lib")).result = .ok registry :=
    ⟨⟨[⟨⟨"/s/lib"⟩, "lib", none⟩]⟩, by decide +kernel⟩
  have hreply : Reply.lines lines none = Validator.canned [("lib", lines)] []
      (flatten .sample config "lib" (config.outputPath "lib")).tree (config.outputPath "lib") := by
    decide +kernel
  obtain ⟨s', hrun, _⟩ := @processSource_counts_errors config (.canned [("lib", lines)] []) "lib"
    { tree := .sample } registry rfl hexpanded _ hreply rfl (by decide +kernel)
  have hcount : lines.countP isError = 3 := by decide +kernel
  exact ⟨s', by rw [hrun, Reply.told, hcount]; rfl⟩

/-- The mark with its blank and nothing else leaves the source clean. -/
theorem processSource_drops_bare_mark :
    let config : Config := { root := ⟨"/s"⟩, buildDir := ⟨"/"⟩ }
    isMarked (unindented "ERROR: ") = true ∧
      ∃ s', processSource config (.canned [("lib", ["ERROR: "])] []) "lib" { tree := .sample } =
        .ok ⟨"lib", .clean⟩ s' := by
  intro config
  obtain ⟨s', hrun, _⟩ :=
    @processSource_run config (.canned [("lib", ["ERROR: "])] []) { tree := .sample } rfl "lib"
  have hstatus : ((Pass.mk "lib" .sample).verdict config
      (.canned [("lib", ["ERROR: "])] [])).status = .clean := by decide +kernel
  rw [Pass.outcome, hstatus] at hrun
  exact ⟨by decide +kernel, s', hrun⟩

end GlslFlatten.Batch
