import GlslFlatten.Proofs.Halting
import GlslFlatten.Proofs.Rediscovery
import GlslFlatten.Proofs.Refilling

/-!
Sources do not influence one another. As long as no flattened file is asked for in a directive, what
befalls a source, what the report says of it and what is in its flattened file do not depend on which
sources come before it, nor on what is in the flattened files when the run begins.
-/

namespace GlslFlatten

namespace Tree

variable {outs : Location → Prop} {t : Tree} {p : Path} {loc dir root : Location} {name : String}
  {content : List UInt8}

/-- The content of the file to which a path leads. -/
def read? (t : Tree) (p : Path) : Option (List UInt8) :=
  match t.locate p with
  | .ok loc => t.content? loc
  | .error _ => none

theorem Creatable.read? (h : t.Creatable p dir name) (hr : t.isRegular (dir ++ [name]) = true) :
    t.read? (p.join ⟨name⟩) = t.content? (dir ++ [name]) := by
  rw [Tree.read?, locate_eq_ok.mpr (h.find_file hr (by simp))]

/-- The name of a file directly in the root means that file only. -/
theorem avoids_of_child (hw : t.WellFormed) {e : Entry} (hfile : t.get? (root ++ [name]) = some e)
    (hlinks : ∀ target, e ≠ .link target) (hout : ¬ outs (root ++ [name])) :
    t.Avoids outs root.path name := by
  intro t' hs loc hr
  have hplain := hw.plain _ _ hfile
  have hlink : ∀ above, above <+: root ++ [name] → ∀ target, t'.get? above ≠ some (.link target) := by
    intro above habove target hlink
    by_cases hne : above = root ++ [name]
    · rw [hne, hs.others _ hout, hfile] at hlink
      exact hlinks target (Option.some.inj hlink)
    · have hd := hs.isDirectory (hw.isDirectory_of_prefix hfile habove hne)
      rw [isDirectory, hlink] at hd
      cases hd
  rw [Source.eq_concat_of_locate (fun s hm => hplain s (List.mem_append_left _ hm))
    (hplain name (by simp)) hlink hr]
  exact hout

end Tree

/-- The answer depends on nothing but the path of the flattened file and its content. -/
def Validator.Local (v : Validator) : Prop := ∀ t t' p, t.read? p = t'.read? p → v t p = v t' p

namespace Batch

open Traversal

variable {config : Config} {validator : Validator} {c : Context} {t t₀ t' : Tree} {build : Location}
  {sources ls : List String} {source : String} {s : State}

/-- The files into which the sources are flattened. -/
def Outputs (build : Location) (sources : List String) (loc : Location) : Prop :=
  ∃ source ∈ sources, loc = build ++ [source]

/-- No flattened file is directly in the root. -/
theorem not_outputs_of_ne {root : Location} (hne : build ≠ root) (name : String) :
    ¬ Outputs build sources (root ++ [name]) := by
  rintro ⟨source, _, heq⟩
  exact hne (List.append_inj_left' heq rfl).symm

/-- The sources can be flattened, and none of the flattened files is read for that. -/
structure Flattenable (config : Config) (c : Context) (t : Tree) (build : Location)
    (sources : List String) : Prop where
  context : Context.start t config = .ok c
  root : ∃ root, t.realPath config.root = .ok root ∧ t.isDirectory root = true
  plain : build.Plain
  creatable : ∀ source ∈ sources, t.Creatable config.buildDir build source
  free : ∀ loc, Outputs build sources loc → t.Free loc
  avoids : ∀ source ∈ sources, t.Avoids (Outputs build sources) c.root source
  away : ∀ source ∈ sources, ∀ loc, Source.resolve t c.root source = .ok loc →
    KeepsAway (Outputs build sources) t (start c loc)

namespace Flattenable

/-- A pass ends in the same way in all the trees that differ in flattened files only, and it changes
nothing but its own one. -/
theorem flattened (h : Flattenable config c t build sources) (hm : source ∈ sources) :
    ∃ e, t.Written (build ++ [source]) e ∧ ∀ t', t.SameBut (Outputs build sources) t' →
      let after := (Pass.mk source t').flattened config
      after.result = ((Pass.mk source t).flattened config).result ∧
        after.tree.get? (build ++ [source]) = some e ∧
        (∀ loc ≠ build ++ [source], after.tree.get? loc = t'.get? loc) ∧
        t.SameBut (Outputs build sources) after.tree := by
  have hout : Outputs build sources (build ++ [source]) := ⟨source, hm, rfl⟩
  have hcreatable := h.creatable source hm
  obtain ⟨root, hroot, hrootDir⟩ := h.root
  obtain ⟨result, e, hwritten, hsame⟩ := flatten_const hcreatable h.plain hout h.free hroot hrootDir
    h.context (h.avoids source hm) (h.away source hm)
  refine ⟨e, hwritten, fun t' hs => ?_⟩
  obtain ⟨hresult, hentry⟩ := hsame t' hs
  obtain ⟨hworkdir, hforeign, hothers⟩ :=
    flatten_elsewhere (hcreatable.of_sameBut hs) (hs.after _ hout) source
  exact ⟨hresult.trans (hsame t (.refl h.free)).1.symm, hentry, hothers,
    hs.replace hworkdir hforeign hothers hout hwritten hentry⟩

/-- What is said of a source is the same, too. -/
theorem verdict (h : Flattenable config c t build sources) (hlocal : validator.Local)
    (hm : source ∈ sources) (hs : t.SameBut (Outputs build sources) t') :
    (Pass.mk source t').verdict config validator = (Pass.mk source t).verdict config validator := by
  obtain ⟨e, hwritten, hsame⟩ := h.flattened hm
  have hread : ∀ {t'}, t.SameBut (Outputs build sources) t' →
      let after := ((Pass.mk source t').flattened config).tree
      after.read? (config.outputPath source) = after.content? (build ++ [source]) ∧
        after.get? (build ++ [source]) = some e := by
    intro t' hs
    obtain ⟨_, hentry, _, hs'⟩ := hsame t' hs
    refine ⟨((h.creatable source hm).of_sameBut hs').read? ?_, hentry⟩
    simp only [Tree.isRegular, hentry, Option.any_some, hwritten.isRegular]
  have hresult := (hsame t' hs).1
  have hanswer : validator ((Pass.mk source t').flattened config).tree (config.outputPath source) =
      validator ((Pass.mk source t).flattened config).tree (config.outputPath source) := by
    obtain ⟨hread', hentry'⟩ := hread hs
    obtain ⟨hread, hentry⟩ := hread (.refl h.free)
    apply hlocal
    rw [hread', hread, Tree.content?, Tree.content?, hentry', hentry]
  unfold Pass.verdict
  rw [hresult]
  cases ((Pass.mk source t).flattened config).result with
  | error failure => rfl
  | ok registry => exact congrArg (Verdict.ofReply source registry) hanswer

end Flattenable

/-- What is left when sources have been processed, each of them as if it were the only one: the report
is the concatenation of theirs, and only their flattened files have changed. -/
structure Separately (config : Config) (validator : Validator) (t : Tree) (build : Location)
    (ls : List String) (s s' : State) : Prop where
  report : s'.report = s.report.accept
    (ls.flatMap fun source => ((Pass.mk source t).verdict config validator).texts)
  files : ∀ source ∈ ls, ∃ e, t.Written (build ++ [source]) e ∧
    s'.tree.get? (build ++ [source]) = some e ∧
      ((Pass.mk source t).flattened config).tree.get? (build ++ [source]) = some e
  others : ∀ loc, ¬ Outputs build ls loc → s'.tree.get? loc = s.tree.get? loc

/-- The outcomes of sources, each of them as if it were the only one. -/
def outcomes (config : Config) (validator : Validator) (t : Tree) (ls : List String) : Summary :=
  ls.map fun source => (Pass.mk source t).outcome config validator

theorem Flattenable.processSources (h : Flattenable config c t build sources) (hlocal : validator.Local)
    (hls : ls ⊆ sources) (hroom : s.report.room = none)
    (hs : t.SameBut (Outputs build sources) s.tree) :
    ∃ s', ls.mapM (processSource config validator) s = .ok (outcomes config validator t ls) s' ∧
      Separately config validator t build ls s s' ∧ t.SameBut (Outputs build sources) s'.tree := by
  -- A pass leaves a tree that differs in flattened files only, so the others find what they need.
  induction ls generalizing s with
  | nil => exact ⟨s, rfl, ⟨by simp, by simp, fun _ _ => rfl⟩, hs⟩
  | cons source rest ih =>
    obtain ⟨hm, hrest⟩ := List.cons_subset.mp hls
    obtain ⟨s₁, hfirst, htree, hreport, _⟩ := @processSource_run config validator s hroom source
    obtain ⟨e, hwritten, hsame⟩ := h.flattened hm
    obtain ⟨_, hentry, hothers, hs₁⟩ := hsame s.tree hs
    rw [← htree] at hentry hothers hs₁
    obtain ⟨s₂, hmapM, hseparately, hs₂⟩ := ih hrest (s := s₁) (by rw [hreport]; exact hroom) hs₁
    have hverdict := h.verdict hlocal hm hs
    refine ⟨s₂, ?_, ⟨?_, fun other hother => ?_, fun loc hloc => ?_⟩, hs₂⟩
    · rw [List.mapM_cons, bind_run, hfirst]
      simp only
      rw [bind_run, hmapM, Pass.outcome, hverdict]
      rfl
    · rw [hseparately.report, hreport, Sink.accept_accept, hverdict]
      rfl
    · -- The last pass over a source decides what is in its file.
      by_cases hagain : other ∈ rest
      · exact hseparately.files other hagain
      · obtain rfl := (List.mem_cons.mp hother).resolve_right hagain
        have hkept : ¬ Outputs build rest (build ++ [other]) := by
          rintro ⟨later, hlater, heq⟩
          cases List.append_cancel_left heq
          exact hagain hlater
        exact ⟨e, hwritten, (hseparately.others _ hkept).trans hentry, (hsame t (.refl h.free)).2.1⟩
    · have hrest : ¬ Outputs build rest loc := by
        rintro ⟨later, hlater, rfl⟩
        exact hloc ⟨later, List.mem_cons_of_mem _ hlater, rfl⟩
      rw [hseparately.others loc hrest]
      refine hothers loc ?_
      rintro rfl
      exact hloc ⟨source, List.mem_cons_self, rfl⟩

/-- A run whose set-up succeeds, with flattened files that no directive asks for. -/
structure Apart (config : Config) (c : Context) (t₀ t : Tree) (build : Location)
    (sources : List String) : Prop where
  wellFormed : t₀.WellFormed
  discovered : Source.discover t₀ config = .ok sources
  prepared : Prepared config t₀ t
  located : t.locate config.buildDir = .ok build
  context : Context.start t config = .ok c
  outputs : ∀ source ∈ sources, t.AbsentOrFile (config.outputPath source) ∧
    ∀ target, t.get? (build ++ [source]) ≠ some (.link target)
  /-- A text that stands for a name that is not UTF-8 is looked up like the target of a directive. -/
  lossy : ∀ root n, t₀.locate config.root = .ok root → Source.Listed t₀ config root (.foreign n) →
    t.Avoids (Outputs build sources) c.root (FileName.foreign n).shown
  /-- Of the directives that are met while a source is expanded. -/
  directives : ∀ source ∈ sources, ∀ loc, Source.resolve t c.root source = .ok loc →
    ∀ m, Traversal.Run t (start c loc) m → ∀ d, m.line? t = some (.directive d) →
      t.Avoids (Outputs build sources) c.root d.path

namespace Apart

variable (h : Apart config c t₀ t build sources)
include h

theorem grown : t₀.Extends t := by
  have hextends := Tree.makeDirs_extends t₀ config.buildDir
  rwa [h.prepared.made] at hextends

theorem wellFormed_made : t.WellFormed := by
  have hmade := h.wellFormed.makeDirs config.buildDir
  rwa [h.prepared.made] at hmade

/-- The root is the same directory before and after, and another one than the build directory. -/
theorem exists_root : ∃ root, t₀.locate config.root = .ok root ∧ t₀.isDirectory root = true ∧
    t.realPath config.root = .ok root ∧ t.isDirectory root = true ∧ c.root = root.path ∧
    build ≠ root := by
  obtain ⟨root, hroot₀, hrootDir₀⟩ := Source.of_discover h.discovered
  obtain ⟨build', root', hbuild', hroot', hne⟩ := h.prepared.apart
  rw [Tree.eq_of_realPath hbuild' h.located] at hne
  obtain rfl := Tree.eq_of_realPath hroot' (h.grown.locate hroot₀)
  have hcroot : c.root = root'.path := by
    have hc := h.context
    simp only [Context.start, hroot', Except.ok.injEq] at hc
    rw [← hc]
  exact ⟨root', hroot₀, hrootDir₀, hroot', h.grown.isDirectory hrootDir₀, hcroot, hne⟩

theorem output (hm : source ∈ sources) :
    t.Creatable config.buildDir build source ∧ t.Free (build ++ [source]) := by
  obtain ⟨root, hroot₀, hrootDir₀, _⟩ := h.exists_root
  obtain ⟨habsent, hlink⟩ := h.outputs source hm
  have hname := Source.plainName_of_mem_discover h.wellFormed.plain hroot₀ hrootDir₀ h.discovered hm
  exact Tree.creatable_of_absentOrFile hname h.located habsent hlink

theorem free {loc : Location} (ho : Outputs build sources loc) : t.Free loc := by
  obtain ⟨source, hm, rfl⟩ := ho
  exact (h.output hm).2

theorem avoids (hm : source ∈ sources) : t.Avoids (Outputs build sources) c.root source := by
  obtain ⟨root, hroot₀, hrootDir₀, _, _, hcroot, hne⟩ := h.exists_root
  obtain ⟨name, rfl, hlisted⟩ :=
    (Source.mem_discover_iff h.wellFormed.distinct hroot₀ hrootDir₀ h.discovered).mp hm
  cases name with
  | foreign n => exact h.lossy root n hroot₀ hlisted
  | text s =>
    obtain ⟨⟨e, hfile, hregular⟩, _⟩ := hlisted
    rw [hcroot]
    refine Tree.avoids_of_child h.wellFormed_made (h.grown.entries _ _ hfile) ?_
      (not_outputs_of_ne hne s)
    rintro target rfl
    cases hregular

theorem keepsAway (hm : source ∈ sources) {loc : Location}
    (hr : Source.resolve t c.root source = .ok loc) :
    KeepsAway (Outputs build sources) t (start c loc) where
  opened := by
    intro opened ho
    obtain rfl : opened = loc := by simpa [start, opened_openFile] using ho
    exact h.avoids hm t (.refl fun _ => h.free) opened (Source.locate_of_resolve hr)
  met := by
    intro m hrun d hd
    rw [(Sound.of_run (Context.fresh_of_start h.context).1 hr hrun).root]
    exact h.directives source hm loc hr m hrun d hd

theorem flattenable : Flattenable config c t build sources := by
  obtain ⟨root, _, _, hroot, hrootDir, _⟩ := h.exists_root
  have hbuildDir := Tree.isDirectory_of_makeDirs h.prepared.made h.located
  exact {
    context := h.context
    root := ⟨root, hroot, hrootDir⟩
    plain := h.wellFormed_made.plain _ _ (of_decide_eq_true hbuildDir)
    creatable := fun source hm => (h.output hm).1
    free := fun _ => h.free
    avoids := fun source hm => h.avoids hm
    away := fun source hm loc hr => h.keepsAway hm hr }

/-- Whatever flattened files there are, the next run finds the same sources, and nothing is to be
made. -/
theorem prepared_again (hs : t.SameBut (Outputs build sources) t') (hd : t'.Distinct) :
    Source.discover t' config = .ok sources ∧ Prepared config t' t' := by
  obtain ⟨root, hroot₀, hrootDir₀, hroot, hrootDir, _, hne⟩ := h.exists_root
  have hbuildDir := Tree.isDirectory_of_makeDirs h.prepared.made h.located
  have houtRoot := hs.not_outs_of_isDirectory hrootDir
  have houtBuild := hs.not_outs_of_isDirectory hbuildDir
  obtain ⟨build', _, hbuild, _⟩ := h.prepared.apart
  obtain rfl : build' = build := Tree.eq_of_realPath hbuild h.located
  refine ⟨Source.discover_eq h.wellFormed.distinct hd hroot₀ hrootDir₀
    (hs.locate houtRoot (h.grown.locate hroot₀)) (hs.isDirectory hrootDir) (fun name => ?_)
    h.discovered, ?_, build', root, hs.realPath houtBuild hbuild, hs.realPath houtRoot hroot, hne⟩
  · have hmade : t = (t₀.makeDirs config.buildDir).2 := by rw [h.prepared.made]
    cases name with
    | text s =>
      have hregular : t'.isRegular (root ++ [s]) = t₀.isRegular (root ++ [s]) := by
        rw [hs.isRegular (not_outputs_of_ne hne s), hmade, Tree.isRegular_makeDirs]
      simp only [← Option.any_eq_true]
      exact iff_of_eq (congrArg (· = true) hregular)
    | foreign n => simp only [Tree.child?, hs.foreign, hmade, Tree.foreign_makeDirs]
  · exact Tree.makeDirs_of_isDirectory (hs.locate houtBuild h.located) (hs.isDirectory hbuildDir)

theorem run_again (hlocal : validator.Local) (hroom : s.report.room = none)
    (hs : t.SameBut (Outputs build sources) s.tree) (hd : s.tree.Distinct) :
    ∃ s', run config validator s = .ok (outcomes config validator t sources) s' ∧
      Separately config validator t build sources s s' := by
  obtain ⟨hdiscovered, hprepared⟩ := h.prepared_again hs hd
  obtain ⟨s', hrun, hleft, _⟩ :=
    h.flattenable.processSources hlocal (List.Subset.refl sources) hroom hs
  exact ⟨s', run_eq_ok_iff.mpr ⟨sources, s.tree, hdiscovered, hprepared, hrun⟩, hleft⟩

end Apart

end Batch

end GlslFlatten
