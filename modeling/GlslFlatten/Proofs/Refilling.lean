import GlslFlatten.Proofs.FileOutput
import GlslFlatten.Proofs.FreshWalk
import GlslFlatten.Proofs.OutputPaths
import GlslFlatten.Proofs.Variants

/-!
Flattening into a file of a directory. Whatever was in that file before, or in files like it that the
expansion does not ask for, the result is the same, and so is what is in the file afterwards.
-/

namespace GlslFlatten

namespace Tree

variable {outs : Location → Prop} {t t' : Tree} {p : Path} {dir : Location} {name : String}

/-- A path that leads to nothing, or to a regular file. -/
def AbsentOrFile (t : Tree) (p : Path) : Prop :=
  (∃ dir name, t.find .opening p = .ok (.vacant dir name)) ∨ t.isFile p = true

/-- In the directory `dir`, to which `p` leads, there can be a file `name`. -/
structure Creatable (t : Tree) (p : Path) (dir : Location) (name : String) : Prop where
  located : t.locate p = .ok dir
  directory : t.isDirectory dir = true
  plain : PlainName name
  short : tooLong name = false
  checked : checkText (p.join ⟨name⟩) = .ok ()

/-- A file that is there, or that is absent and not a link, has a name that can be used. -/
theorem creatable_of_absentOrFile (hname : PlainName name) (hdir : t.locate p = .ok dir)
    (hp : t.AbsentOrFile (p.join ⟨name⟩))
    (hlink : ∀ target, t.get? (dir ++ [name]) ≠ some (.link target)) :
    t.Creatable p dir name ∧ t.Free (dir ++ [name]) := by
  obtain ⟨hchecked, hfinds⟩ := locate_eq_ok_iff.mp hdir
  obtain ⟨front, hsegments, hfront⟩ := leads_of_join hname.not_isAbsolute
    (text_ne_of_checkName (checkName_of_checkText hchecked)) hfinds
  rw [hname.segments] at hsegments
  have hlast : ∀ {found}, t.find .opening (p.join ⟨name⟩) = .ok found →
      checkText (p.join ⟨name⟩) = .ok () ∧ ∃ m, Leads t .opening m dir [name] found := by
    intro found hfind
    obtain ⟨hchecked, hleads⟩ := find_eq_ok_iff.mp hfind
    rw [hsegments] at hleads
    obtain ⟨m, mid, hmid, hlast⟩ := hleads.split (by simp)
    obtain rfl : mid = dir := Found.entry.inj (hmid.unique hfront)
    exact ⟨hchecked, m, hlast⟩
  have hadmits : ∀ {m found}, Leads t .opening m dir [name] found →
      Admits t .opening dir name [] ∧ (found = .vacant dir name ∧ t.get? (dir ++ [name]) = none ∨
        found = .entry (dir ++ [name])) := by
    intro m found hl
    cases hl with
    | skip _ hskip _ => exact absurd hskip (by simp [hname.1])
    | up _ _ => exact absurd rfl hname.2.1
    | vacant ha hv => exact ⟨ha, .inl ⟨rfl, hv⟩⟩
    | link _ hl _ => exact absurd hl (hlink _)
    | into ha _ _ hrest =>
      cases hrest
      exact ⟨ha, .inr rfl⟩
  rcases hp with ⟨dir', name', hfind⟩ | hfile
  · obtain ⟨hchecked, m, hl⟩ := hlast hfind
    obtain ⟨ha, hfound⟩ := hadmits hl
    refine ⟨⟨hdir, ha.directory, hname, ha.short, hchecked⟩, .inl ?_⟩
    exact (hfound.resolve_right (by simp)).2
  · obtain ⟨loc, hl, hregular⟩ := isFile_iff.mp hfile
    obtain ⟨hchecked, m, hl⟩ := hlast (locate_eq_ok.mp hl)
    obtain ⟨ha, hfound⟩ := hadmits hl
    obtain rfl := Found.entry.inj (hfound.resolve_left (by simp))
    exact ⟨⟨hdir, ha.directory, hname, ha.short, hchecked⟩, .inr hregular⟩

namespace Creatable

theorem of_sameBut (h : t.Creatable p dir name) (hs : t.SameBut outs t') :
    t'.Creatable p dir name :=
  { h with
    located := hs.locate (hs.not_outs_of_isDirectory h.directory) h.located
    directory := hs.isDirectory h.directory }

theorem find_of_leads (h : t.Creatable p dir name) {aim : Aim} (haim : aim ≠ .resolving)
    {found : Found} (hl : Admits t aim dir name [] → ∀ m, Leads t aim m dir [name] found) :
    t.find aim (p.join ⟨name⟩) = .ok found := by
  obtain ⟨hchecked, hfinds⟩ := locate_eq_ok_iff.mp h.located
  obtain ⟨front, hsegments, hfront⟩ := leads_of_join h.plain.not_isAbsolute
    (text_ne_of_checkName (checkName_of_checkText hchecked)) hfinds
  rw [h.plain.segments] at hsegments
  obtain ⟨m, hm⟩ := hfront.append
  have hne : name ≠ "" := by
    rintro rfl
    exact absurd h.plain.1 (by decide)
  refine find_eq_ok_iff.mpr ⟨h.checked, ?_⟩
  rw [hsegments]
  exact hm haim ⟨name, by simp, hne⟩
    (hl ⟨h.directory, h.plain.1, h.plain.2.1, by simp, h.short, by simp [inReach, haim]⟩ m)

/-- A file that is there is found. -/
theorem find_file (h : t.Creatable p dir name) (hregular : t.isRegular (dir ++ [name]) = true)
    {aim : Aim} (haim : aim ≠ .resolving) :
    t.find aim (p.join ⟨name⟩) = .ok (.entry (dir ++ [name])) := by
  rcases isRegular_iff.mp hregular with ⟨content, hc⟩ | ⟨e, he⟩
  · exact h.find_of_leads haim fun ha _ => .into ha hc (by simp) .done
  · exact h.find_of_leads haim fun ha _ => .into ha he (by simp) .done

/-- A file can be created where there is none, or over one that can be opened. -/
theorem create (h : t.Creatable p dir name) (hfree : t.Free (dir ++ [name]))
    (hopen : ∀ e, t.get? (dir ++ [name]) ≠ some (.sealed e)) :
    t.create (p.join ⟨name⟩) = .ok (dir ++ [name], t.put (dir ++ [name]) (.file [])) := by
  rcases hfree with hn | hregular
  · have hfind : t.find .creating (p.join ⟨name⟩) = .ok (.vacant dir name) :=
      h.find_of_leads (by simp) fun ha _ => .vacant ha hn
    simp [Tree.create, hfind, bind, Except.bind]
  · obtain ⟨content, hc⟩ := (isRegular_iff.mp hregular).resolve_right fun ⟨e, he⟩ => hopen e he
    simp [Tree.create, h.find_file hregular (by simp : Aim.creating ≠ .resolving), hc, bind,
      Except.bind]

theorem create_sealed (h : t.Creatable p dir name) {e : IoError}
    (he : t.get? (dir ++ [name]) = some (.sealed e)) : t.create (p.join ⟨name⟩) = .error e := by
  have hregular := isRegular_iff.mpr (.inr ⟨e, he⟩)
  simp [Tree.create, h.find_file hregular (by simp : Aim.creating ≠ .resolving), he, bind,
    Except.bind]

end Creatable

end Tree

section Flatten

open Traversal Expansion

variable {t made : Tree} {config : Config} {c : Context} {source : String} {output : Path}
  {loc target : Location}

/-- A source that is no file gives an error, and the output is empty. -/
theorem flatten_of_unresolved (hc : Context.start t config = .ok c)
    (hm : t.create output = .ok (target, made)) (hfile : made.get? target = some (.file []))
    {failure : Failure} (hr : Source.resolve made c.root source = .error failure) :
    (flatten t config source output).result = .error failure ∧
      (flatten t config source output).tree.content? target = some [] := by
  have hx := expand_of_unresolved (o := FileSink.output)
    (s := { out := { tree := made, target }, context := c }) hr
  obtain ⟨f, hflush, hcontent⟩ := (FileSink.keeps_created hm).content? hfile
  simp only [flatten, hc, hm, hx, flatten.close, hflush]
  exact ⟨trivial, hcontent⟩

/-- Nothing changes apart from the file that is flattened into. -/
theorem flatten_elsewhere {dir : Location} {name : String}
    (h : t.Creatable config.buildDir dir name) (hfree : t.Free (dir ++ [name])) (source : String) :
    let after := (flatten t config source (config.outputPath name)).tree
    after.workdir = t.workdir ∧ after.foreign = t.foreign ∧
      ∀ other ≠ dir ++ [name], after.get? other = t.get? other := by
  intro after
  rcases flatten_differs t config source (config.outputPath name) with hsame | ⟨found, made, hm, hd⟩
  · simp [after, hsame]
  · have hopen : ∀ e, t.get? (dir ++ [name]) ≠ some (.sealed e) := fun e he => by
      cases hm.symm.trans (h.create_sealed he)
    obtain rfl : found = dir ++ [name] :=
      congrArg Prod.fst (Except.ok.inj (hm.symm.trans (h.create hfree hopen)))
    exact ⟨hd.workdir, hd.foreign, hd.others⟩

/-- An expansion that does not read its own output ends like the walk, and so does the output. -/
theorem flatten_of_resolved (hc : Context.start t config = .ok c)
    (hm : t.create output = .ok (target, made)) (hfile : made.get? target = some (.file []))
    (hr : Source.resolve made c.root source = .ok loc)
    (hapart : ∀ m, Run made (start c loc) m → FileSink.Elsewhere target m.top.file.loc.path) :
    ∃ m, Run made (start c loc) m ∧ (∀ next, ¬ Step made m next) ∧
      (flatten t config source output).result = (step made m).map (fun _ => m.context.registry) ∧
      (flatten t config source output).tree.content? target = some (FlatLine.bytes m.lines) := by
  have hends := expand_ends_of_guards (s := { out := { tree := made, target }, context := c })
    (FileSink.serves made target c.root) (FileSink.keeps_created hm) rfl hr fun m hrun _ =>
      hapart m hrun
  simp only [flatten, hc, hm]
  cases hx : expand FileSink.output source { out := { tree := made, target }, context := c } with
  | ok u s =>
    rw [hx] at hends
    obtain ⟨m, hrun, hend, houter, hcontext, hkeeps⟩ := hends
    obtain ⟨f, hflush, hcontent⟩ := hkeeps.content? hfile
    have hstep : step made m = .ok none := by simp [step, hend, houter]
    simp only [flatten.close, hflush]
    refine ⟨m, hrun, fun next hs => ?_, ?_, hcontent⟩
    · rw [Step, hstep] at hs
      cases hs
    · rw [hstep]
      exact congrArg (fun context => Except.ok context.registry) hcontext
  | error failure s =>
    rw [hx] at hends
    obtain ⟨m, hrun, _, hstuck⟩ := hends
    have hfits : ∀ e, ¬ FileSink.Refuses made target e := fun e => by
      simp [FileSink.Refuses, hfile]
    obtain ⟨hstep, hkeeps⟩ := hstuck.resolve_right fun hrefused => by
      obtain ⟨_, _, e, _, hrefuses⟩ := hrefused
      exact hfits e hrefuses
    obtain ⟨f, hflush, hcontent⟩ := hkeeps.content? hfile
    simp only [flatten.close, hflush]
    refine ⟨m, hrun, fun next hs => ?_, ?_, hcontent⟩
    · rw [Step, hstep] at hs
      cases hs
    · rw [hstep]
      rfl

end Flatten

section Variants

open Traversal

variable {outs : Location → Prop} {t : Tree} {config : Config} {c : Context} {source name : String}
  {dir root : Location}

/-- Whatever files there are at `outs`, the same context is started, as the root is none of them. -/
theorem start_of_sameBut {t' : Tree} (hroot : t.realPath config.root = .ok root)
    (hrootDir : t.isDirectory root = true) (hc : Context.start t config = .ok c)
    (hs : t.SameBut outs t') : Context.start t' config = .ok c := by
  have hroot' := hs.realPath (hs.not_outs_of_isDirectory hrootDir) hroot
  rw [← hc, Context.start, Context.start, hroot, hroot']

/-- An output that cannot be opened stays as it is. -/
theorem flatten_of_sealed {t' : Tree} (hdir : t.Creatable config.buildDir dir name)
    (hc : Context.start t' config = .ok c) (hs : t.SameBut outs t') (ho : outs (dir ++ [name]))
    {e : IoError} (he : t.get? (dir ++ [name]) = some (.sealed e)) :
    let after := flatten t' config source (config.outputPath name)
    after.result = .error (.outputUncreatable (config.outputPath name) e) ∧
      after.tree.get? (dir ++ [name]) = some (.sealed e) := by
  have he' := (hs.refused _ ho e).mpr he
  have hcreate : t'.create (config.outputPath name) = .error e :=
    (hdir.of_sameBut hs).create_sealed he'
  simp only [flatten, hc, hcreate]
  exact ⟨trivial, he'⟩

/-- Whatever files there are at `outs`, flattening gives the same result and the same text. -/
theorem flatten_const_of_open (hdir : t.Creatable config.buildDir dir name) (hplain : dir.Plain)
    (ho : outs (dir ++ [name])) (hfree : ∀ loc, outs loc → t.Free loc)
    (hopen : ∀ e, t.get? (dir ++ [name]) ≠ some (.sealed e))
    (hroot : t.realPath config.root = .ok root) (hrootDir : t.isDirectory root = true)
    (hc : Context.start t config = .ok c) (hsource : t.Avoids outs c.root source)
    (hmet : ∀ loc, Source.resolve t c.root source = .ok loc → KeepsAway outs t (start c loc)) :
    ∃ result bytes, ∀ t', t.SameBut outs t' →
      (flatten t' config source (config.outputPath name)).result = result ∧
        (flatten t' config source (config.outputPath name)).tree.content? (dir ++ [name]) =
          some bytes := by
  have hfresh := (Context.fresh_of_start hc).1
  have htop : dir ++ [name] ≠ [] := by simp
  have hstart : ∀ t', t.SameBut outs t' → Context.start t' config = .ok c ∧
      t'.create (config.outputPath name) =
        .ok (dir ++ [name], t'.put (dir ++ [name]) (.file [])) := fun t' hs =>
    ⟨start_of_sameBut hroot hrootDir hc hs,
      (hdir.of_sameBut hs).create (hs.after _ ho) fun e he => hopen e ((hs.refused _ ho e).mp he)⟩
  cases hr : Source.resolve t c.root source with
  | error failure =>
    refine ⟨.error failure, [], fun t' hs => ?_⟩
    obtain ⟨hc', hm'⟩ := hstart t' hs
    exact flatten_of_unresolved hc' hm' (Tree.get?_put_self t' htop _)
      (((hs.put ho htop hopen []).resolve_eq hsource).trans hr)
  | ok loc =>
    have haway := hmet loc hr
    have hfollows : ∀ t', t.SameBut outs t' → ∃ m, Run t (start c loc) m ∧
        (∀ next, ¬ Step t m next) ∧
        (flatten t' config source (config.outputPath name)).result =
          (step t m).map (fun _ => m.context.registry) ∧
        (flatten t' config source (config.outputPath name)).tree.content? (dir ++ [name]) =
          some (FlatLine.bytes m.lines) := by
      intro t' hs
      obtain ⟨hc', hm'⟩ := hstart t' hs
      have hmade := hs.put ho htop hopen []
      have hr' := (hmade.resolve_eq hsource).trans hr
      obtain ⟨m, hrun, hend, hresult, hcontent⟩ := flatten_of_resolved hc' hm'
        (Tree.get?_put_self t' htop _) hr' fun m hrun => by
          have hne := haway.not_outs_top hfree ((haway.run_iff hmade).mp hrun)
          have hp := (Sound.of_run hfresh hr' hrun).known m.top List.mem_cons_self
          rw [FileSink.Elsewhere, Bool.eq_false_iff, ne_eq,
            Location.same_path_iff hp.plain (hplain.concat hdir.plain)]
          exact fun he => hne (he ▸ ho)
      have hrun' := (haway.run_iff hmade).mp hrun
      rw [haway.step_eq hmade hrun'] at hresult
      refine ⟨m, hrun', fun next hstep => hend next ?_, hresult, hcontent⟩
      exact (haway.step_eq hmade hrun').trans hstep
    obtain ⟨m, hrun, hend, _⟩ := hfollows t (.refl hfree)
    refine ⟨(step t m).map fun _ => m.context.registry, FlatLine.bytes m.lines, fun t' hs => ?_⟩
    obtain ⟨m', hrun', hend', hresult, hcontent⟩ := hfollows t' hs
    obtain rfl := end_unique hrun' hrun hend' hend
    exact ⟨hresult, hcontent⟩

theorem flatten_const (hdir : t.Creatable config.buildDir dir name) (hplain : dir.Plain)
    (ho : outs (dir ++ [name])) (hfree : ∀ loc, outs loc → t.Free loc)
    (hroot : t.realPath config.root = .ok root) (hrootDir : t.isDirectory root = true)
    (hc : Context.start t config = .ok c) (hsource : t.Avoids outs c.root source)
    (hmet : ∀ loc, Source.resolve t c.root source = .ok loc → KeepsAway outs t (start c loc)) :
    ∃ result e, t.Written (dir ++ [name]) e ∧ ∀ t', t.SameBut outs t' →
      (flatten t' config source (config.outputPath name)).result = result ∧
        (flatten t' config source (config.outputPath name)).tree.get? (dir ++ [name]) = some e := by
  by_cases hopen : ∃ e, t.get? (dir ++ [name]) = some (.sealed e)
  · obtain ⟨e, he⟩ := hopen
    exact ⟨_, .sealed e, .refused e he, fun t' hs =>
      flatten_of_sealed hdir (start_of_sameBut hroot hrootDir hc hs) hs ho he⟩
  · have hopen := not_exists.mp hopen
    obtain ⟨result, bytes, hsame⟩ :=
      flatten_const_of_open hdir hplain ho hfree hopen hroot hrootDir hc hsource hmet
    refine ⟨result, .file bytes, .text bytes hopen, fun t' hs => ?_⟩
    obtain ⟨hresult, hcontent⟩ := hsame t' hs
    exact ⟨hresult, Tree.get?_of_content? hcontent⟩

end Variants

end GlslFlatten
