import GlslFlatten.Proofs.BatchRun
import GlslFlatten.Proofs.Discovery
import GlslFlatten.Proofs.FileLines
import GlslFlatten.Proofs.FileOutput

/-!
A batch run reaches every source. None of them stops it, whatever is wrong with it and whatever the
validator answers.
-/

namespace GlslFlatten

/-- What stops a walk is wrong with a line, and never the length of the walk. -/
theorem Traversal.step_ne_unending {t : Tree} {m : State} {failure : Failure}
    (h : step t m = .error failure) (p : Path) : failure ≠ .unending p := by
  rintro rfl
  unfold step at h
  split at h
  · split at h <;> cases h
  · cases h
  · cases h
  · cases h
  · rename_i d _
    cases hr : Source.resolve t m.context.root d.path with
    | error e =>
      rw [hr] at h
      rcases Source.resolve_error hr with ⟨_, rfl⟩ | ⟨_, _, rfl⟩ <;> simp [Expansion.blame] at h
    | ok loc =>
      simp only [hr, Context.enter] at h
      split at h
      · rename_i hentered
        cases h
        split at hentered
        · cases hentered
        · split at hentered <;> cases hentered
      · cases h

/-- Closing the output does not make an expansion endless. -/
theorem flatten.of_close_unending {output path : Path} {s : Progress FileSink}
    {result : Except Failure Registry} (h : (close output s result).result = .error (.unending path)) :
    result = .error (.unending path) := by
  unfold close at h
  split at h
  · exact h
  · cases h

/-- An expansion into a file that it does not read comes to its end by itself. -/
theorem expand_ne_unending {t made : Tree} {target : Location} {output : Path} {source : String}
    {context : Context} (hcreate : t.create output = .ok (target, made))
    (hsafe : ∀ e ∈ (Expansion.remains (expand FileSink.output source
      { out := { tree := made, target }, context })).context.registry.files,
        e.path.same target.path = false) (path : Path) (s : Progress FileSink) :
    expand FileSink.output source { out := { tree := made, target }, context } ≠
      .error (.unending path) s := by
  intro hx
  cases hr : Source.resolve made context.root source with
  | error e =>
    have hfails := expand_of_unresolved (o := FileSink.output)
      (s := { out := { tree := made, target }, context }) hr
    rw [hx] at hfails
    cases hfails
    rcases Source.resolve_error hr with ⟨_, he⟩ | ⟨_, _, he⟩ <;> cases he
  | ok loc =>
    have hends := expand_ends (s := { out := { tree := made, target }, context })
      (FileSink.serves made target context.root) (FileSink.keeps_created hcreate) rfl hr
      (by exact hsafe)
    rw [hx] at hends
    obtain ⟨m, _, _, ⟨hstep, _⟩ | ⟨⟨e, he⟩, _⟩⟩ := hends
    · exact Traversal.step_ne_unending hstep path rfl
    · cases he

namespace Batch

open Text

variable {config : Config} {validator : Validator} {s : State}

/-- No file that is opened on a pass is the one that the pass writes. -/
def Pass.Apart (config : Config) (p : Pass) : Prop := ∀ context target made,
  Context.start p.tree config = .ok context → p.tree.create (p.output config) = .ok (target, made) →
    let ended := Expansion.remains
      (expand FileSink.output p.source { out := { tree := made, target }, context })
    ∀ e ∈ ended.context.registry.files, e.path.same target.path = false

/-- A pass that does not read what it writes comes to its end by itself. -/
theorem Pass.Apart.ends {p : Pass} (h : p.Apart config) (path : Path) :
    (p.flattened config).result ≠ .error (.unending path) := by
  intro hresult
  rw [flattened, flatten] at hresult
  cases hcontext : Context.start p.tree config with
  | error failure =>
    rw [hcontext] at hresult
    cases hresult
    unfold Context.start at hcontext
    split at hcontext <;> cases hcontext
  | ok context =>
    cases hcreate : p.tree.create (p.output config) with
    | error e => simp [hcontext, hcreate] at hresult
    | ok created =>
      obtain ⟨target, made⟩ := created
      have hsafe := h context target made hcontext hcreate
      simp only [hcontext, hcreate] at hresult
      cases hx : expand FileSink.output p.source { out := { tree := made, target }, context } with
      | ok u s =>
        rw [hx] at hresult
        cases flatten.of_close_unending hresult
      | error failure s =>
        rw [hx] at hresult
        cases flatten.of_close_unending hresult
        exact expand_ne_unending hcreate hsafe path s hx

/-- If the root can be listed and the build directory can be used, every source has an outcome, in the
order of the names, and the validator is given those that could be flattened. A source goes by the text
of its name, which other names have as well if they are not UTF-8. A pass ends by itself if it does not
read its own output. -/
theorem run_covers_sources {root : Location} {t : Tree} (hroom : s.report.room = none)
    (hdistinct : s.tree.Distinct) (hroot : s.tree.locate config.root = .ok root)
    (hdir : s.tree.isDirectory root = true) (hprepared : Prepared config s.tree t) :
    ∃ summary s', ∃ names : List FileName, run config validator s = .ok summary s' ∧
      names.Nodup ∧ (∀ name, name ∈ names ↔
        (∃ e, s.tree.child? root name = some e ∧ e.isRegular = true) ∧
          ∃ extension ∈ config.extensions, ∃ front ≠ "", name.shown = front ++ extension) ∧
      (summary.map Outcome.source).Perm (names.map FileName.shown) ∧
      (summary.map fun outcome => Utf8.bytes outcome.source).Pairwise (· ≤ ·) ∧
      ((∀ n, .foreign n ∉ names) →
        (summary.map fun outcome => Utf8.bytes outcome.source).Pairwise (· < ·)) ∧
      let ps := passes config t (summary.map Outcome.source)
      summary = ps.map (Pass.outcome config validator) ∧
        s'.validated = s.validated ++ (ps.filter (Pass.expands config)).map (Pass.output config) ∧
        ∀ p ∈ ps, p.Apart config → ∀ path, (p.flattened config).result ≠ .error (.unending path) := by
  obtain ⟨sources, hsources⟩ : ∃ sources, Source.discover s.tree config = .ok sources :=
    ⟨_, Source.discover_eq_of_locate hroot hdir⟩
  obtain ⟨s', hrun, _, hvalidated⟩ :=
    @processSources_run config validator { s with tree := t } hroom sources
  have hsame : ((passes config t sources).map (Pass.outcome config validator)).map Outcome.source =
      sources := by
    rw [List.map_map]
    exact map_source_passes config t sources
  have hbytes : ((passes config t sources).map (Pass.outcome config validator)).map
      (fun outcome => Utf8.bytes outcome.source) = sources.map Utf8.bytes := by
    conv_rhs => rw [← hsame, List.map_map]
    rfl
  have hlisted : ∀ name, name ∈ Source.names s.tree config root ↔
      Source.Listed s.tree config root name := fun _ => Source.mem_names_iff hdistinct
  refine ⟨_, s', Source.names s.tree config root,
    run_eq_ok_iff.mpr ⟨sources, t, hsources, hprepared, hrun⟩,
    Source.nodup_names hdistinct config root, hlisted, ?_, ?_, fun htext => ?_, ?_⟩
  · rw [hsame]
    exact (Source.perm_discover hroot hdir hsources).1
  · rw [hbytes]
    exact Source.pairwise_discover hroot hdir hsources
  · rw [hbytes]
    exact Source.strict_discover hdistinct hroot hdir hsources
      fun n hn => htext n ((hlisted _).mpr hn)
  · rw [hsame]
    exact ⟨rfl, hvalidated, fun p _ hp => hp.ends⟩

/-- One source includes itself, and for the other one the validator fails. -/
theorem run_covers_sources_sample :
    let config : Config := { root := ⟨"/s"⟩, buildDir := ⟨"/s/out"⟩, extensions := ["n", "oop", "p"] }
    let failing : Validator := .canned [] [("main", .validator "crashed" [])]
    ∃ summary s', run config failing { tree := .sample } = .ok summary s' ∧
      "main" ∈ summary.map Outcome.source ∧ "loop" ∈ summary.map Outcome.source ∧
      "lib" ∉ summary.map Outcome.source := by
  intro config failing
  obtain ⟨t, hprepared⟩ : ∃ t, Prepared config .sample t :=
    ⟨(Tree.sample.makeDirs config.buildDir).2, by decide +kernel,
      ["s", "out"], ["s"], by decide +kernel, by decide +kernel, by decide⟩
  obtain ⟨summary, s', names, hrun, _, hnames, hperm, _⟩ :=
    @run_covers_sources config failing { tree := .sample } ["s"] t rfl
      ⟨by decide +kernel, by decide⟩ (by decide +kernel) (by decide +kernel) hprepared
  have hsources : ∀ source, source ∈ summary.map Outcome.source ↔
      ∃ name ∈ names, name.shown = source := fun source => by rw [hperm.mem_iff, List.mem_map]
  refine ⟨summary, s', hrun, (hsources _).mpr ⟨.text "main", ?_, rfl⟩,
    (hsources _).mpr ⟨.text "loop", ?_, rfl⟩, fun hlib => ?_⟩
  · exact (hnames _).mpr ⟨⟨_, rfl, rfl⟩, "n", by decide, "mai", by decide, rfl⟩
  · exact (hnames _).mpr ⟨⟨_, rfl, rfl⟩, "p", by decide, "loo", by decide, rfl⟩
  · obtain ⟨name, hname, hlib⟩ := (hsources _).mp hlib
    obtain ⟨_, extension, hext, hends⟩ := (hnames name).mp hname
    have hnone : config.extensions.all (!Source.hasExtension "lib" ·) = true := by decide +kernel
    have := List.all_eq_true.mp hnone extension hext
    rw [Source.hasExtension_iff.mpr (hlib ▸ hends)] at this
    cases this

/-- Two names that are not UTF-8 and read the same: their order is not strict, and nothing is found under
the text. And a source that can be expanded, while the device at its output refuses what is written: the
validator does not see it. -/
theorem run_repeats_texts_and_skips_unwritten :
    let config : Config := { root := ⟨"/s"⟩, buildDir := ⟨"/s/out"⟩, extensions := [".n"] }
    let twins : Tree := {
      entries := [(["s"], .directory)]
      workdir := []
      foreign := [((["s"], ⟨[0xfe, 0x2e, 0x6e], by decide, by decide⟩), .file []),
        ((["s"], ⟨[0xff, 0x2e, 0x6e], by decide, by decide⟩), .file [])] }
    let full : Tree := {
      entries := [(["s"], .directory), (["s", "a.n"], .file (Utf8.bytes "x\n")),
        (["s", "out"], .directory), (["s", "out", "a.n"], .link "/full"),
        (["full"], .device (some .noSpace))]
      workdir := [] }
    let lost : Outcome := ⟨"\ufffd.n", .fault "File not found: /s/\ufffd.n"⟩
    let unwritten : Outcome :=
      ⟨"a.n", .fault "Failed to write output file: /s/out/a.n: No space left on device (os error 28)"⟩
    (∃ s', run config (.canned [] []) { tree := twins } = .ok [lost, lost] s') ∧
    (∃ s', run config (.canned [] []) { tree := full } = .ok [unwritten] s' ∧ s'.validated = []) ∧
    ∃ s', expand (Sink.output full) "a.n"
      { out := {}, context := { root := ⟨"/s"⟩, maxDepth := config.maxDepth } } = .ok () s' := by
  intro config twins full lost unwritten
  refine ⟨?_, ?_, ?_⟩
  · have hsources : Source.discover twins config = .ok [lost.source, lost.source] := by
      have htexts : (Source.names twins config ["s"]).map FileName.shown = [lost.source, lost.source] := by
        decide +kernel
      have hroot : twins.locate config.root = .ok ["s"] := by decide +kernel
      rw [Source.discover_eq_of_locate hroot (by decide +kernel), htexts]
      simp [List.mergeSort]
    have hprepared : Prepared config twins (twins.put ["s", "out"] .directory) :=
      ⟨by decide +kernel, ["s", "out"], ["s"], by decide +kernel, by decide +kernel, by decide⟩
    have hpasses : (result? ([lost.source, lost.source].mapM (processSource config (.canned [] []))
        { tree := twins.put ["s", "out"] .directory })).any (fun x =>
          decide (x.1 = [lost, lost])) = true := by
      decide +kernel
    obtain ⟨summary, s', h, hends⟩ := of_any_result? hpasses
    obtain rfl : summary = [lost, lost] := of_decide_eq_true hends
    exact ⟨s', (run_of_prepared (s := { tree := twins }) hsources hprepared).trans h⟩
  · have hrun : (result? (run config (.canned [] []) { tree := full })).any (fun x =>
        decide (x.1 = [unwritten] ∧ x.2.validated = [])) = true := by
      decide +kernel
    obtain ⟨summary, s', h, hends⟩ := of_any_result? hrun
    obtain ⟨rfl, hvalidated⟩ := of_decide_eq_true hends
    exact ⟨s', h, hvalidated⟩
  · have hexpanded : (result? (expand (Sink.output full) "a.n"
        { out := {}, context := { root := ⟨"/s"⟩, maxDepth := config.maxDepth } })).any (fun _ => true) =
        true := by
      decide +kernel
    obtain ⟨_, s', h, _⟩ := of_any_result? hexpanded
    exact ⟨s', h⟩

end Batch

end GlslFlatten
