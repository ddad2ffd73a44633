import GlslFlatten.Proofs.BatchRun
import GlslFlatten.Proofs.Discovery
import GlslFlatten.Proofs.FileOutput
import GlslFlatten.Proofs.OutputPaths
import GlslFlatten.Proofs.TreeGrowth

/-!
What a run writes. A source is flattened into the file that its output path leads to, through links as
well, and everything else that was there stays, whatever becomes of the run.
-/

namespace GlslFlatten

namespace Batch

variable {K : Tree → Prop} {config : Config} {validator : Validator}

/-- What is known of the tree, whatever the rest of the state and the failure are. -/
abbrev Keeps {α : Type} (K : Tree → Prop) (x : Run α) : Prop :=
  Preserves (fun s => K s.tree) (fun _ => True) x

theorem keeps_logAll (records : List Log.Record) : Keeps K (logAll records) := fun _ h => h

theorem keeps_report (line : String) : Keeps K (report line) := by
  intro s h
  unfold report
  split
  · exact h
  · exact ⟨h, trivial⟩

theorem keeps_fault (what source : String) (failure : Failure) : Keeps K (fault what source failure) :=
  .bind (keeps_logAll _) fun _ => .bind (keeps_report _) fun _ => .pure _

theorem keeps_reportExpansion (source : String) (failure : Failure) :
    Keeps K (reportExpansion source failure) := by
  unfold reportExpansion
  split
  · exact .bind (.forM fun _ _ => keeps_report _) fun _ => .bind (keeps_report _) fun _ => .pure _
  · exact keeps_fault _ _ _

theorem keeps_validate (source : String) (output : Path) (registry : Registry) :
    Keeps K (validate validator source output registry) := by
  intro s h
  rw [validate_eq]
  cases (validator s.tree output).deliver (hear registry) { report := s.report } with
  | ok _ heard => exact h
  | error failure heard => exact keeps_fault "Validation" source failure _ h

/-- A source changes the tree by being flattened, and not otherwise. -/
theorem keeps_processSource {source : String}
    (hK : ∀ t, K t → K (flatten t config source (config.outputPath source)).tree) :
    Keeps K (processSource config validator source) := by
  intro s h
  have hjudge : Keeps K (judge config validator ⟨source, s.tree⟩) := by
    unfold judge
    split
    · exact keeps_reportExpansion _ _
    · exact keeps_validate _ _ _
  rw [processSource_eq]
  exact Preserves.bind hjudge (fun _ => .pure _) _ (hK s.tree h)

/-- An entry that stays in the tree, while no path comes to lead to it that did not lead there in
`base`. -/
structure Spared (base : Tree) (loc : Location) (e : Entry) (t : Tree) : Prop where
  there : t.get? loc = some e
  reached : ∀ p, t.locate p = .ok loc → base.locate p = .ok loc

theorem Spared.flatten {base t : Tree} {loc : Location} {e : Entry} {source : String}
    (h : Spared base loc e t) (hapart : base.locate (config.outputPath source) ≠ .ok loc) :
    Spared base loc e (flatten t config source (config.outputPath source)).tree := by
  rcases flatten_differs t config source (config.outputPath source) with hsame | ⟨target, made, hc, hd⟩
  · rwa [hsame]
  · have hne : loc ≠ target := by
      rintro rfl
      rcases Tree.locate_or_vacant_of_create hc with hlocate | hvacant
      · exact hapart (h.reached _ hlocate)
      · rw [h.there] at hvacant
        cases hvacant
    refine ⟨(hd.others loc hne).trans h.there, fun p hp => h.reached p ?_⟩
    obtain ⟨hc, hfinds⟩ := Tree.locate_eq_ok_iff.mp hp
    exact Tree.locate_eq_ok_iff.mpr ⟨hc, hd.finds hne hfinds⟩

theorem tree_prepare (config : Config) (s : State) :
    (endState (prepare config s)).tree = (s.tree.makeDirs config.buildDir).2 := by
  rcases hmade : s.tree.makeDirs config.buildDir with ⟨made, t⟩
  simp only [prepare, hmade]
  split
  · rfl
  · split
    · rfl
    · rfl
    · split <;> rfl

/-- Whatever a run returns, an entry stays what it was if no output path of a source leads to it when the
build directory is there. -/
theorem get?_run {s : State} {loc : Location} {e : Entry} (hentry : s.tree.get? loc = some e)
    (hapart : ∀ sources t, Source.discover s.tree config = .ok sources → Prepared config s.tree t →
      ∀ source ∈ sources, t.locate (config.outputPath source) ≠ .ok loc) :
    (endState (run config validator s)).tree.get? loc = some e := by
  have hmade : (s.tree.makeDirs config.buildDir).2.get? loc = some e :=
    (Tree.makeDirs_extends s.tree config.buildDir).entries loc e hentry
  rw [run_eq]
  cases hsources : Source.discover s.tree config with
  | error failure => exact hentry
  | ok sources =>
    simp only
    cases hprepare : prepare config s with
    | error failure s₁ =>
      have htree := tree_prepare config s
      rw [hprepare] at htree
      exact htree ▸ hmade
    | ok _ s₁ =>
      obtain ⟨t, ht, rfl⟩ := of_prepare hprepare
      rw [ht.made] at hmade
      have hkeeps : Keeps (Spared t loc e) (sources.mapM (processSource config validator)) :=
        .mapM fun source hm => keeps_processSource fun t' ht' =>
          ht'.flatten (hapart sources t hsources ht source hm)
      exact (hkeeps { s with tree := t } ⟨hmade, fun p hp => hp⟩).endState.there

/-- Whatever a run returns, an entry stays what it was, unless the output path of a source leads to it
when the build directory is there. -/
theorem run_spares {s : State} {loc : Location} {e : Entry} (hentry : s.tree.get? loc = some e) :
    (endState (run config validator s)).tree.get? loc = some e ∨
      ∃ sources t, Source.discover s.tree config = .ok sources ∧ Prepared config s.tree t ∧
        ∃ source ∈ sources, t.locate (config.outputPath source) = .ok loc := by
  by_cases hout : ∃ sources t, Source.discover s.tree config = .ok sources ∧
      Prepared config s.tree t ∧ ∃ source ∈ sources, t.locate (config.outputPath source) = .ok loc
  · exact .inr hout
  · exact .inl (get?_run hentry fun sources t hsources ht source hm hl =>
      hout ⟨sources, t, hsources, ht, source, hm, hl⟩)

/-- The only source is one that another file includes, and is not touched itself. -/
theorem run_spares_sample :
    let config : Config := { root := ⟨"/s"⟩, buildDir := ⟨"/s/out"⟩, extensions := ["ib"] }
    ∃ e, Tree.sample.get? ["s", "lib"] = some e ∧
      (endState (run config (.canned [] []) { tree := .sample })).tree.get? ["s", "lib"] = some e := by
  intro config
  have hdiscover : Source.discover .sample config = .ok ["lib"] := by decide +kernel
  have helsewhere : (Tree.sample.makeDirs config.buildDir).2.locate (config.outputPath "lib") ≠
      .ok ["s", "lib"] := by decide +kernel
  refine ⟨_, rfl, (run_spares rfl).resolve_right ?_⟩
  rintro ⟨sources, t, hsources, ht, source, hm, hl⟩
  have hsame : sources = ["lib"] := Except.ok.inj (hsources.symm.trans hdiscover)
  rw [hsame, List.mem_singleton] at hm
  subst hm
  rw [ht.made] at helsewhere
  exact helsewhere hl

/-- A link in the build directory that leads back to a source: the source is empty after the run, which
finds nothing wrong. -/
theorem run_empties_linked_source :
    let config : Config := { root := ⟨"/s"⟩, buildDir := ⟨"/s/out"⟩, extensions := [".frag"] }
    let t : Tree := {
      entries := [(["s"], .directory), (["s", "a.frag"], .file (Text.Utf8.bytes "void main\n")),
        (["s", "out"], .directory), (["s", "out", "a.frag"], .link "../a.frag")]
      workdir := [] }
    ∃ s', run config (.canned [] []) { tree := t } = .ok [⟨"a.frag", .clean⟩] s' ∧
      s'.tree.content? ["s", "a.frag"] = some [] := by
  intro config t
  have hrun : (result? (run config (.canned [] []) { tree := t })).any (fun x =>
      decide (x.1 = [⟨"a.frag", .clean⟩] ∧ x.2.tree.content? ["s", "a.frag"] = some [])) = true := by
    decide +kernel
  obtain ⟨summary, s', h, hends⟩ := of_any_result? hrun
  obtain ⟨rfl, hempty⟩ := of_decide_eq_true hends
  exact ⟨s', h, hempty⟩

/-- While the build directory holds no links, an output lies in it under the name of the source. -/
theorem output_of_locate {s : State} {t : Tree} {dir loc : Location} {sources : List String}
    {source : String} (hplain : s.tree.Plain) (hsources : Source.discover s.tree config = .ok sources)
    (hm : source ∈ sources) (hdir : t.realPath config.buildDir = .ok dir)
    (hlinks : ∀ name target, t.get? (dir ++ [name]) ≠ some (.link target))
    (hl : t.locate (config.outputPath source) = .ok loc) : loc = dir ++ [source] := by
  obtain ⟨root, hroot, hisdir⟩ := Source.of_discover hsources
  have hname := Source.plainName_of_mem_discover hplain hroot hisdir hsources hm
  exact Tree.locate_join hname hdir (hlinks source) hl

/-- While the build directory holds no links, nothing is lost that is directly in the root, sources or
not. -/
theorem run_spares_root {s : State} {root : Location} {name : String} {e : Entry}
    (hplain : s.tree.Plain) (hroot : s.tree.locate config.root = .ok root)
    (hentry : s.tree.get? (root ++ [name]) = some e)
    (hlinks : ∀ t dir, Prepared config s.tree t → t.realPath config.buildDir = .ok dir →
      ∀ name target, t.get? (dir ++ [name]) ≠ some (.link target)) :
    (endState (run config validator s)).tree.get? (root ++ [name]) = some e := by
  refine get?_run hentry fun sources t hsources ht source hm hl => ?_
  obtain ⟨dir, root', hdir, hroot', hne⟩ := ht.apart
  have hextends := Tree.makeDirs_extends s.tree config.buildDir
  rw [ht.made] at hextends
  obtain rfl : root' = root := Tree.eq_of_realPath hroot' (hextends.locate hroot)
  have hsame := output_of_locate hplain hsources hm hdir (hlinks t dir ht hdir) hl
  exact hne (List.append_inj_left' hsame rfl).symm

end Batch

end GlslFlatten
