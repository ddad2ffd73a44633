import GlslFlatten.Flatten
import GlslFlatten.Proofs.TidyTrees

/-!
Expansions in trees whose names hold no line feeds. The files are registered under single lines, and a
failure is told in single lines.
-/

namespace GlslFlatten

open Text

namespace Context

/-- The names of the root, of the open files and of the registered ones hold no line feed. -/
structure Tidy (c : Context) : Prop where
  root : SingleLine c.root.text
  stack : ∀ p ∈ c.stack, SingleLine p.text
  names : ∀ f ∈ c.registry.files, SingleLine f.name

namespace Tidy

variable {c c' : Context} {p : Path} {origin : Option Origin}

theorem enter (h : c.Tidy) (hp : SingleLine p.text) (he : c.enter p origin = .ok c') : c'.Tidy := by
  have hc' : c' = { c with stack := c.stack ++ [p] } := by
    cases origin with
    | none => simpa [Context.enter] using he.symm
    | some o =>
      simp only [Context.enter] at he
      split at he
      · cases he
      · split at he
        · cases he
        · exact (Except.ok.inj he).symm
  rw [hc']
  exact ⟨h.root, List.forall_mem_append.mpr ⟨h.stack, List.forall_mem_singleton.mpr hp⟩, h.names⟩

/-- A refusal names the file, the one that asks for it and those that are open. -/
theorem refused (h : c.Tidy) (hp : SingleLine p.text)
    (horigin : ∀ asked, origin = some asked → SingleLine asked.name) {failure : Failure}
    (he : c.enter p origin = .error failure) : failure.Tidy := by
  have hname : ∀ q : Path, SingleLine q.text → SingleLine (c.nameOf q) :=
    fun q hq => Source.singleLine_displayName hq c.root
  cases origin with
  | none => cases he
  | some asked =>
    have hasked := horigin asked rfl
    simp only [Context.enter] at he
    split at he
    · cases he
      refine Failure.tidy_recursiveInclude (hname p hp) hasked _ ?_
      have harrow : SingleLine " -> " := by decide
      refine harrow.intercalate (List.forall_mem_append.mpr ⟨?_, List.forall_mem_singleton.mpr (hname p hp)⟩)
      intro text ht
      obtain ⟨q, hq, rfl⟩ := List.mem_map.mp ht
      exact hname q (h.stack q hq)
    · split at he
      · cases he
        exact Failure.tidy_depthExceeded (hname p hp) hasked _ _
      · cases he

theorem register (h : c.Tidy) {name : String} (hn : SingleLine name) (p : Path)
    (includer : Option Nat) : (c.register p name includer).2.Tidy := by
  refine ⟨h.root, h.stack, ?_⟩
  cases hi : c.registry.indexOf? p with
  | some i =>
    rw [Context.register, Registry.register_of_indexOf? hi]
    exact h.names
  | none =>
    have hfiles : (c.register p name includer).2.registry.files =
        c.registry.files ++ [⟨p, name, includer⟩] := Registry.files_register_of_new hi name includer
    rw [hfiles]
    exact List.forall_mem_append.mpr ⟨h.names, List.forall_mem_singleton.mpr hn⟩

theorem leave (h : c.Tidy) : c.leave.Tidy :=
  ⟨h.root, fun p hp => h.stack p (List.dropLast_subset _ hp), h.names⟩

end Tidy

theorem tidy_of_start {t : Tree} {config : Config} (h : t.Tidy)
    (hroot : SingleLine config.root.text) :
    match start t config with
    | .ok c => c.Tidy
    | .error failure => failure.Tidy := by
  unfold start
  cases hl : t.realPath config.root with
  | ok loc => exact ⟨(h.realPath hroot hl).path, List.forall_mem_nil _, List.forall_mem_nil _⟩
  | error e =>
    exact Failure.tidy_rootUnavailable hroot (Tree.singleLine_of_own (Tree.own_of_realPath hl))

end Context

theorem FileSink.Keeps.tidy {made : Tree} {target : Location} {bs : List UInt8} {f : FileSink}
    (h : FileSink.Keeps made target bs f) (hm : made.Tidy) : f.tree.Tidy := by
  rcases h.kept with ⟨refusal, hv, hf⟩ | ⟨⟨content, hc⟩, written, hf, _⟩
  · refine hm.of_differs h.differs (hm.names _ _ hv) fun e he => ?_
    cases hf.symm.trans he
    exact hm.refusals _ _ hv e rfl
  · refine hm.of_differs h.differs (hm.names _ _ hc) fun e he => ?_
    cases hf.symm.trans he

theorem FileSink.Refuses.singleLine {made : Tree} {target : Location} {e : IoError}
    (h : FileSink.Refuses made target e) (hm : made.Tidy) : SingleLine e.text :=
  hm.refusals _ _ h e rfl

theorem Tree.Tidy.resolved {t : Tree} (h : t.Tidy) {root : Path} {path : String} {loc : Location}
    (hr : Source.resolve t root path = .ok loc) : loc.Tidy := by
  rcases Tree.isRegular_iff.mp (Source.isRegular_of_resolve hr) with ⟨_, hget⟩ | ⟨_, hget⟩
  · exact h.names _ _ hget
  · exact h.names _ _ hget

namespace Expansion

/-- What is asked for, and who asks for it. -/
def AsksTidy (path : String) (origin : Option Origin) : Prop :=
  SingleLine path ∧ ∀ asked, origin = some asked → SingleLine asked.name

theorem tidy_blame {t : Tree} {root : Path} {path : String} {origin : Option Origin} {e : Failure}
    (hroot : SingleLine root.text) (h : AsksTidy path origin)
    (he : Source.resolve t root path = .error e) : (blame path origin e).Tidy := by
  have hpath := Source.singleLine_underRoot hroot h.1
  rcases Source.resolve_error he with ⟨_, rfl⟩ | ⟨_, _, rfl⟩
  · cases origin with
    | none => exact Failure.tidy_sourceNotFound hpath
    | some asked => exact Failure.tidy_includeNotFound h.1 (h.2 asked rfl) _
  · have hunlocatable := Failure.tidy_unlocatable hpath (e := .nameTooLong) (by decide +kernel)
    cases origin <;> exact hunlocatable

/-- An expansion into a file of the tree. -/
theorem invariant_tidy {made : Tree} {target : Location} (hm : made.Tidy) :
    Invariant FileSink.output
      (fun s => (∃ bs, FileSink.Keeps made target bs s.out) ∧ s.context.Tidy) Failure.Tidy AsksTidy
      (fun file => file.loc.Tidy ∧ SingleLine file.name) where
  log := fun _ h => h
  emit := by
    rintro line s ⟨⟨bs, hs⟩, hc⟩
    have hputs := hs.puts line.parts
    simp only [emit, FileSink.output, FileSink.writeLine]
    cases hr : (line.parts.forM fun part => FileSink.put (Utf8.bytes part) : FileSink.Writing Unit)
        s.out with
    | ok u f =>
      rw [hr] at hputs
      exact ⟨⟨_, hputs⟩, hc⟩
    | error e f =>
      rw [hr] at hputs
      exact ⟨⟨⟨_, hputs.1⟩, hc⟩, Failure.tidy_system (hputs.2.singleLine hm)⟩
  unresolved := fun ⟨_, hc⟩ ha hr => tidy_blame hc.root ha hr
  refused := by
    rintro s path origin loc failure ⟨⟨bs, hs⟩, hc⟩ ha hr he
    exact hc.refused ((hs.tidy hm).resolved hr).path ha.2 he
  opened := by
    rintro s path origin loc c ⟨⟨bs, hs⟩, hc⟩ ha hr he
    have hloc := (hs.tidy hm).resolved hr
    have hname : SingleLine (s.context.nameOf loc.path) :=
      Source.singleLine_displayName hloc.path s.context.root
    exact ⟨⟨⟨bs, hs⟩, (hc.enter hloc.path he).register hname _ _⟩, hloc, hname⟩
  left := fun ⟨hk, hc⟩ => ⟨hk, hc.leave⟩
  unopened := fun ⟨⟨_, hs⟩, _⟩ hf hload =>
    Failure.tidy_unreadable hf.1.path ((hs.tidy hm).singleLine_load hload)
  endless := fun hf => Failure.tidy_unending hf.1.path
  bottomless := fun ha => Failure.tidy_unending ha.1
  line := by
    intro file bytes number hf hb
    unfold Line.read
    cases hd : Utf8.decode? bytes with
    | none => exact Failure.tidy_unreadable hf.1.path (by decide +kernel)
    | some cs =>
      have hline := singleLine_trimEnd hb hd
      cases hp : Directive.parse (trimEnd (.ofList cs)) number with
      | error defect =>
        simp only [hp]
        exact Failure.tidy_invalidDirective hf.2 (Directive.singleLine_of_parse_error hline hp) _
      | ok found =>
        cases found with
        | none => simp only [hp]
        | some directive =>
          simp only [hp]
          refine ⟨Directive.singleLine_of_parse_ok hline hp, ?_⟩
          rintro asked hasked
          cases hasked
          exact hf.2

end Expansion

/-- The registered names, or the failure, are told in single lines. -/
def TidyResult : Except Failure Registry → Prop
  | .ok registry => ∀ f ∈ registry.files, SingleLine f.name
  | .error failure => failure.Tidy

theorem close_tidy {made : Tree} {target : Location} {output : Path} {s : Progress FileSink}
    {result : Except Failure Registry} (hm : made.Tidy) (houtput : SingleLine output.text)
    (hs : ∃ bs, FileSink.Keeps made target bs s.out) (hresult : TidyResult result) :
    (flatten.close output s result).tree.Tidy ∧ TidyResult (flatten.close output s result).result := by
  obtain ⟨bs, hs⟩ := hs
  have hflush := hs.flush
  unfold flatten.close
  cases hf : FileSink.flush s.out with
  | ok u f =>
    rw [hf] at hflush
    exact ⟨hflush.1.tidy hm, hresult⟩
  | error e f =>
    rw [hf] at hflush
    exact ⟨hflush.1.tidy hm, Failure.tidy_outputUnwritable houtput (hflush.2.singleLine hm)⟩

/-- What a flattening says, and what it leaves in the tree. -/
theorem flatten_tidy {t : Tree} {config : Config} {source : String} {output : Path} (h : t.Tidy)
    (hroot : SingleLine config.root.text) (hsource : SingleLine source)
    (houtput : SingleLine output.text) :
    (flatten t config source output).tree.Tidy ∧
      TidyResult (flatten t config source output).result := by
  have hstart := Context.tidy_of_start h hroot
  cases hcontext : Context.start t config with
  | error failure =>
    rw [hcontext] at hstart
    simpa only [flatten, hcontext] using ⟨h, hstart⟩
  | ok context =>
    rw [hcontext] at hstart
    cases hcreate : t.create output with
    | error e =>
      simpa only [flatten, hcontext, hcreate] using
        ⟨h, Failure.tidy_outputUncreatable houtput (h.singleLine_create hcreate)⟩
    | ok created =>
      obtain ⟨target, made⟩ := created
      have hm : made.Tidy := (h.create houtput hcreate).2
      have hasks : Expansion.AsksTidy source none := ⟨hsource, by simp⟩
      have hx := (Expansion.invariant_tidy hm).expand hasks
        { out := { tree := made, target }, context } ⟨⟨_, FileSink.keeps_created hcreate⟩, hstart⟩
      simp only [flatten, hcontext, hcreate]
      cases hr : expand FileSink.output source { out := { tree := made, target }, context } with
      | ok _ s =>
        rw [hr] at hx
        exact close_tidy hm houtput hx.1 hx.2.names
      | error failure s =>
        rw [hr] at hx
        exact close_tidy hm houtput hx.1.1 hx.2

end GlslFlatten
