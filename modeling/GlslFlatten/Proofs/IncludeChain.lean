import GlslFlatten.Diagnostic.Translation
import GlslFlatten.Proofs.FreshWalk
import GlslFlatten.Proofs.Simulation

/-!
The include chain of a file. An entry of the registry keeps one includer only, but a file that is met
for the first time is met below files that are open for the first time as well, or else some file that
was closed before would not have been expanded in full. So the includers of includers are the files
that were open then.
-/

namespace GlslFlatten

namespace Traversal

variable {t : Tree} {c : Context} {loc : Location} {m m' : State}

/-- A walk from `m₀` comes to `m₁`, where a file is open that was not open at any point before. -/
def FirstOpens (t : Tree) (m₀ m₁ : State) : Prop :=
  m₁ = m₀ ∨ ∃ m, Run t m₀ m ∧ Step t m m₁ ∧
    ∀ m', Run t m₀ m' → Run t m' m → m₁.top.file.loc ∉ m'.opened

theorem FirstOpens.run {m₀ m₁ : State} (h : FirstOpens t m₀ m₁) : Run t m₀ m₁ := by
  rcases h with rfl | ⟨m, hr, hs, _⟩
  · exact .refl
  · exact hr.tail hs

/-- Every file that is reached from `file` has a number. -/
def Settled (t : Tree) (root : Path) (r : Registry) (file : Location) : Prop :=
  ∀ g, Relation.ReflTransGen (t.Includes root) file g → ∃ i, r.indexOf? g.path = some i

theorem Settled.mono {root : Path} {r r' : Registry} {file : Location} (h : Settled t root r file)
    (he : r.Extends r') : Settled t root r' file := by
  intro g hg
  obtain ⟨i, hi⟩ := h g hg
  exact ⟨i, he.indexOf? hi⟩

/-- The targets of all directives that are done are settled. -/
def Frame.Done (t : Tree) (root : Path) (r : Registry) (f : Frame) : Prop :=
  ∀ i < f.done, ∀ d target, t.line? f.file.loc i = some (.directive d) →
    Source.resolve t root d.path = .ok target → Settled t root r target

theorem Frame.Done.mono {root : Path} {r r' : Registry} {f : Frame} (h : f.Done t root r)
    (he : r.Extends r') : f.Done t root r' :=
  fun i hi d target hl hr => (h i hi d target hl hr).mono he

/-- A file whose lines are all done is settled. -/
theorem Frame.Done.settled {root : Path} {r : Registry} {f : Frame} (h : f.Done t root r)
    (hk : f.Known root r) (hend : t.line? f.file.loc f.done = none) :
    Settled t root r f.file.loc := by
  intro g hg
  rcases Relation.ReflTransGen.cases_head hg with rfl | ⟨target, ⟨i, d, hl, hr⟩, hg⟩
  · exact ⟨_, hk.index⟩
  · exact h i (Tree.lt_of_line? hl hend) d target hl hr g hg

/-- An open file is open for the first time, and its chain is the files that are open below it,
unless it has been closed before and is settled. -/
def Traced (t : Tree) (root : Path) (r : Registry) : List Frame → Prop
  | [] => True
  | f :: outer => (Settled t root r f.file.loc ∨
      r.Chain f.file.index (outer.map (·.file.index))) ∧ Traced t root r outer

theorem Traced.mono {root : Path} {r r' : Registry} {frames : List Frame}
    (h : Traced t root r frames) (he : r.Extends r') : Traced t root r' frames := by
  induction frames with
  | nil => trivial
  | cons f outer ih =>
    refine ⟨?_, ih h.2⟩
    rcases h.1 with hs | hc
    · exact .inl (hs.mono he)
    · exact .inr (hc.mono he)

structure Recorded (t : Tree) (c : Context) (loc : Location) (m : State) : Prop where
  sound : Sound t c loc m
  done : ∀ f ∈ m.frames, f.Done t c.root m.context.registry
  registered : ∀ g : Location, g.Plain → ∀ i, m.context.registry.indexOf? g.path = some i →
    g ∈ m.opened ∨ Settled t c.root m.context.registry g
  traced : Traced t c.root m.context.registry m.frames
  origins : ∀ k < m.context.registry.size, ∃ m₁, FirstOpens t (start c loc) m₁ ∧ Run t m₁ m ∧
    m₁.top.file.index = k ∧ m.context.registry.Chain k (m₁.outer.map (·.file.index))

theorem Recorded.start {source : String} (hc : c.Fresh)
    (hr : Source.resolve t c.root source = .ok loc) : Recorded t c loc (start c loc) := by
  have hs := Sound.start hc hr
  have hsize : (Traversal.start c loc).context.registry.files =
      [⟨loc.path, Source.displayName c.root loc.path, none⟩] := by
    change (c.registry.register loc.path _ none).2.files = _
    rw [Registry.files_register_of_new] <;> simp [hc.registry, Registry.indexOf?, Context.nameOf]
  have hindex : (Traversal.start c loc).top.file.index = 0 := hs.source_index rfl
  refine ⟨hs, ?_, ?_, ⟨.inr ?_, trivial⟩, ?_⟩
  · intro f hf i hi
    obtain rfl := List.mem_singleton.mp hf
    cases hi
  · intro g hg i hi
    obtain ⟨e, he, hp⟩ := hs.proper.of_indexOf? hg hi
    rw [Registry.get?, hsize] at he
    obtain rfl := List.mem_singleton.mp (List.mem_of_getElem? he)
    have := Location.path_injective (Source.plain_of_resolve hc.absolute hr) hg hp
    exact .inl (by simp [Traversal.start, opened_openFile, this])
  · rw [hindex]
    exact .first hs.first rfl
  · intro k hk
    rw [Registry.size, hsize] at hk
    obtain rfl : k = 0 := by simpa using hk
    exact ⟨_, .inl rfl, .refl, hindex, .first hs.first rfl⟩

/-- What is known of numbered files stays known as long as no file is added. -/
theorem Recorded.origins_step (h : Recorded t c loc m) (hs : Step t m m') :
    ∀ k < m.context.registry.size, ∃ m₁, FirstOpens t (Traversal.start c loc) m₁ ∧ Run t m₁ m' ∧
      m₁.top.file.index = k ∧ m'.context.registry.Chain k (m₁.outer.map (·.file.index)) := by
  intro k hk
  obtain ⟨m₁, hf, hr, hi, hc⟩ := h.origins k hk
  exact ⟨m₁, hf, hr.tail hs, hi, hc.mono (extends_of_step hs)⟩

theorem Recorded.copy (hc : c.Fresh) (h : Recorded t c loc m) {text : String}
    (hl : m.line? t = some (.copied text)) : Recorded t c loc (m.copy text) := by
  obtain ⟨htop, houter⟩ := List.forall_mem_cons.mp h.done
  refine ⟨h.sound.step hc (step_copied hl), List.forall_mem_cons.mpr ⟨?_, houter⟩, h.registered,
    ⟨h.traced.1, h.traced.2⟩, h.origins_step (step_copied hl)⟩
  intro i hi d target hl' hr
  rcases Nat.lt_succ_iff_lt_or_eq.mp hi with hlt | rfl
  · exact htop i hlt d target hl' hr
  · cases hl.symm.trans hl'

theorem Recorded.resume (hc : c.Fresh) (h : Recorded t c loc m) {includer : Frame}
    {outer : List Frame} (hl : m.line? t = none) (ho : m.outer = includer :: outer) :
    Recorded t c loc (m.resume includer outer) := by
  have hs := step_end hl ho
  have hframes : m.frames = m.top :: includer :: outer := by rw [State.frames, ho]
  have hdone := h.done
  have hlinked := h.sound.linked
  have htraced := h.traced
  rw [hframes] at hdone hlinked htraced
  obtain ⟨htop, hincluder, houter⟩ := by simpa only [List.forall_mem_cons] using hdone
  obtain ⟨d, hasks, htarget⟩ := (List.isChain_cons_cons.mp hlinked).1
  have hsettled := htop.settled (h.sound.known _ List.mem_cons_self) hl
  refine ⟨h.sound.step hc hs, List.forall_mem_cons.mpr ⟨?_, houter⟩, ?_,
    ⟨htraced.2.1, htraced.2.2⟩, h.origins_step hs⟩
  · intro i hi d' target hl' hr
    rcases Nat.lt_succ_iff_lt_or_eq.mp hi with hlt | rfl
    · exact hincluder i hlt d' target hl' hr
    · cases hasks.symm.trans hl'
      cases htarget.symm.trans hr
      exact hsettled
  · intro g hg i hi
    rcases h.registered g hg i hi with hm | hm
    · simp only [State.opened, hframes, List.map_cons, List.mem_cons] at hm
      rcases hm with rfl | hm
      · exact .inr hsettled
      · exact .inl (List.mem_cons.mpr hm)
    · exact .inr hm

/-- A file that has no number yet is met below files that are open for the first time. -/
theorem Recorded.chain_top (h : Recorded t c loc m) {d : Directive} {target : Location}
    (hl : m.line? t = some (.directive d)) (hr : Source.resolve t c.root d.path = .ok target)
    (hnew : m.context.registry.indexOf? target.path = none) :
    m.context.registry.Chain m.top.file.index (m.outer.map (·.file.index)) := by
  rcases h.traced.1 with hs | hc
  · obtain ⟨i, hi⟩ := hs target (.single ⟨m.top.done, d, hl, hr⟩)
    rw [hnew] at hi
    cases hi
  · exact hc

theorem not_mem_opened_of_new (h : Sound t c loc m') (hr : Run t m' m) {target : Location}
    (hnew : m.context.registry.indexOf? target.path = none) : target ∉ m'.opened := by
  intro hm
  obtain ⟨f, hf, rfl⟩ := List.mem_map.mp hm
  rw [(extends_of_run hr).indexOf? (h.known f hf).index] at hnew
  cases hnew

theorem opened_of_outer (h : m'.outer = m.frames) : m'.opened = m'.top.file.loc :: m.opened := by
  simp [State.opened, State.frames, h]

theorem Recorded.done_open (h : Recorded t c loc m) (hs : Step t m m') (ho : m'.outer = m.frames)
    (hd : m'.top.done = 0) : ∀ f ∈ m'.frames, f.Done t c.root m'.context.registry := by
  rw [State.frames, ho]
  refine List.forall_mem_cons.mpr ⟨?_, fun f hf => (h.done f hf).mono (extends_of_step hs)⟩
  intro i hi
  rw [hd] at hi
  cases hi

/-- A file that is opened again has been closed before, and nothing new is recorded. -/
theorem Recorded.reopen (h : Recorded t c loc m) (hsound : Sound t c loc m') (hs : Step t m m')
    (ho : m'.outer = m.frames) (hd : m'.top.done = 0) (hopen : m'.top.file.loc ∉ m.opened)
    (hreg : m'.context.registry = m.context.registry) : Recorded t c loc m' := by
  have hk := hsound.known _ List.mem_cons_self
  refine ⟨hsound, h.done_open hs ho hd, ?_, ?_, ?_⟩
  · intro g hg i hi
    rw [hreg] at hi ⊢
    rcases h.registered g hg i hi with hm | hm
    · exact .inl (opened_of_outer ho ▸ List.mem_cons_of_mem _ hm)
    · exact .inr hm
  · rw [State.frames, ho]
    refine ⟨.inl ?_, h.traced.mono (extends_of_step hs)⟩
    rw [hreg]
    exact (h.registered _ hk.plain _ (hreg ▸ hk.index)).resolve_left hopen
  · have := h.origins_step hs
    rwa [← hreg] at this

/-- A file that is opened for the first time gets the next number, and its chain is the open files. -/
theorem Recorded.openNew {source : String} (hc : c.Fresh)
    (hr : Source.resolve t c.root source = .ok loc) (hrun : Run t (Traversal.start c loc) m)
    (h : Recorded t c loc m) (hsound : Sound t c loc m') (hs : Step t m m')
    (ho : m'.outer = m.frames) (hd : m'.top.done = 0) {name : String}
    (hreg : m'.context.registry = (m.context.registry.register m'.top.file.loc.path name
      (some m.top.file.index)).2)
    (hnew : m.context.registry.indexOf? m'.top.file.loc.path = none)
    (htop : m.context.registry.Chain m.top.file.index (m.outer.map (·.file.index))) :
    Recorded t c loc m' := by
  have hk := hsound.known _ List.mem_cons_self
  have hget := Registry.get?_register_of_new hnew name (some m.top.file.index)
  have hindex : m'.top.file.index = m.context.registry.size := by
    have := hreg ▸ hk.index
    rw [Registry.indexOf?_register_of_new hnew] at this
    exact (Option.some.inj this).symm
  rw [← hreg] at hget
  have hchain : m'.context.registry.Chain m'.top.file.index (m'.outer.map (·.file.index)) := by
    rw [ho, hindex]
    exact .next ((hget _).trans (if_pos rfl)) rfl htop.lt_size (htop.mono (extends_of_step hs))
  have hfirst : FirstOpens t (Traversal.start c loc) m' := by
    refine .inr ⟨m, hrun, hs, fun m'' hrun' hlater => ?_⟩
    exact not_mem_opened_of_new (Sound.of_run hc hr hrun') hlater hnew
  refine ⟨hsound, h.done_open hs ho hd, ?_, ?_, ?_⟩
  · intro g hg i hi
    obtain ⟨e, he, hp⟩ := hsound.proper.of_indexOf? hg hi
    rw [hget] at he
    rw [opened_of_outer ho]
    split at he
    · obtain rfl := Option.some.inj he
      exact .inl (by simp [Location.path_injective hk.plain hg hp])
    · rcases h.registered g hg i (h.sound.proper.indexOf?_of_get? hg he hp) with hm | hm
      · exact .inl (List.mem_cons_of_mem _ hm)
      · exact .inr (hm.mono (extends_of_step hs))
  · rw [State.frames, ho]
    exact ⟨.inr (ho ▸ hchain), h.traced.mono (extends_of_step hs)⟩
  · intro k hlt
    by_cases hold : k < m.context.registry.size
    · exact h.origins_step hs k hold
    · have hsize : m'.context.registry.size = m.context.registry.size + 1 := by
        rw [hreg, Registry.size, Registry.files_register_of_new hnew, List.length_append]
        rfl
      obtain rfl : k = m'.top.file.index := by omega
      exact ⟨m', hfirst, .refl, rfl, hchain⟩

theorem Recorded.step {source : String} (hc : c.Fresh)
    (hsource : Source.resolve t c.root source = .ok loc) (hrun : Run t (Traversal.start c loc) m)
    (h : Recorded t c loc m) (hs : Step t m m') : Recorded t c loc m' := by
  have hsound := h.sound.step hc hs
  rcases step_cases hs with ⟨text, hl, rfl⟩ | ⟨d, target, context, hl, hr, he, rfl⟩ |
    ⟨includer, outer, hl, ho, rfl⟩
  case inl => exact h.copy hc hl
  case inr.inl =>
    obtain ⟨hopen, _, rfl⟩ := Context.of_enter_some he
    cases hi : m.context.registry.indexOf? target.path with
    | some i =>
      exact h.reopen hsound hs rfl rfl (h.sound.nested.fresh hopen)
        (congrArg Prod.snd (Registry.register_of_indexOf? hi _ _))
    | none =>
      have htop := h.chain_top hl (h.sound.root ▸ hr) hi
      exact h.openNew hc hsource hrun hsound hs rfl rfl rfl hi htop
  case inr.inr => exact h.resume hc hl ho

theorem Recorded.run {source : String} (hc : c.Fresh)
    (hr : Source.resolve t c.root source = .ok loc) (hrun : Run t (Traversal.start c loc) m) :
    Recorded t c loc m := by
  induction hrun with
  | refl => exact .start hc hr
  | tail hrun hs ih => exact ih.step hc hr hrun hs

/-- The entries behind the numbers of frames. -/
theorem entries_of_frames {root : Path} {r : Registry} {fs : List Frame} (hp : r.Proper)
    (hn : ∀ e ∈ r.files, e.name = Source.displayName root e.path) (hk : ∀ f ∈ fs, f.Known root r) :
    ((fs.map (·.file.index)).filterMap r.get?).map (·.path) = fs.map (·.file.loc.path) := by
  induction fs with
  | nil => rfl
  | cons f fs ih =>
    obtain ⟨hf, hfs⟩ := List.forall_mem_cons.mp hk
    obtain ⟨e, he, hpath, _⟩ := hf.get? hp hn
    simp only [List.map_cons, List.filterMap_cons, he, hpath, ih hfs]

end Traversal

namespace Registry

/-- Some line of the file of one entry is a directive that means the file of the other. -/
def Includes (t : Tree) (root : Path) (includer included : RegisteredFile) : Prop :=
  ∃ file target : Location, includer.path = file.path ∧ included.path = target.path ∧
    t.Includes root file target

open Text in
theorem translate_of_error {r : Registry} {line : String} {parsed : ValidatorLine} {k number : Nat}
    {file : RegisteredFile} (hp : ValidatorLine.parse? (trim line) = some parsed)
    (hs : parsed.severity = .error) (hposition : parsed.position = some ⟨k, number⟩)
    (hk : r.get? k = some file) :
    r.translate line = ("ERROR: " ++ file.name ++ parsed.afterIndex) ::
      (r.includeChain k).map includedFrom := by
  simp only [translate, hp, hs, hposition, hk]
  rfl

end Registry

section Chain

open Traversal

/-- An entry `file` and its chain, as the files that are open at a point of a walk, innermost first. -/
structure Depicts (t : Tree) (root : Path) (loc : Location) (r : Registry) (k : Nat)
    (file : RegisteredFile) (m : State) : Prop where
  paths : (file :: r.includeChain k).map (·.path) = m.opened.map Location.path
  plain : ∀ l ∈ m.opened, l.Plain
  distinct : m.opened.Nodup
  linked : m.opened.IsChain fun inner outer => t.Includes root outer inner
  bottom : m.opened.getLast? = some loc
  entries : ∀ e ∈ file :: r.includeChain k, ∃ i, r.get? i = some e
  names : ∀ e ∈ r.files, e.name = Source.displayName root e.path
  proper : r.Proper
  first : r.get? 0 = some ⟨loc.path, Source.displayName root loc.path, none⟩

variable {t : Tree} {root : Path} {loc : Location} {r : Registry} {k : Nat} {file : RegisteredFile}
  {m : State}

theorem Depicts.nodup (h : Depicts t root loc r k file m) :
    ((file :: r.includeChain k).map (·.path)).Nodup := by
  rw [h.paths]
  refine List.Nodup.map_on (fun l hl l' hl' he => ?_) h.distinct
  exact Location.path_injective (h.plain l hl) (h.plain l' hl') he

theorem Depicts.getLast? (h : Depicts t root loc r k file m) :
    (file :: r.includeChain k).getLast? = r.get? 0 := by
  have hmem := List.mem_of_getLast? h.bottom
  obtain ⟨e, he⟩ := Option.isSome_iff_exists.mp
    (List.getLast?_isSome.mpr (List.cons_ne_nil file (r.includeChain k)))
  have hpath : e.path = loc.path := by
    have := congrArg List.getLast? h.paths
    rw [List.getLast?_map, List.getLast?_map, he, h.bottom] at this
    exact Option.some.inj this
  obtain ⟨i, hi⟩ := h.entries e (List.mem_of_getLast? he)
  have hzero := h.proper.indexOf?_of_get? (h.plain loc hmem) h.first rfl
  have hindex := h.proper.indexOf?_of_get? (h.plain loc hmem) hi hpath
  rw [he, ← hi]
  congr 1
  exact Option.some.inj (hindex.symm.trans hzero)

theorem Depicts.isChain (h : Depicts t root loc r k file m) :
    (file :: r.includeChain k).IsChain fun e includer => Registry.Includes t root includer e := by
  have hlocs : (m.opened.map Location.path).IsChain fun p q =>
      ∃ file target : Location, q = file.path ∧ p = target.path ∧ t.Includes root file target :=
    List.isChain_map_of_isChain _ (fun inner outer hi => ⟨outer, inner, rfl, rfl, hi⟩) h.linked
  rw [← h.paths] at hlocs
  exact List.isChain_of_isChain_map _ (fun _ _ hi => hi) hlocs

/-- The lines that name the chain. -/
theorem Depicts.includedFrom (h : Depicts t root loc r k file m) :
    (r.includeChain k).map Registry.includedFrom =
      ((r.includeChain k).map (·.path)).map fun p =>
        "       (included from " ++ Source.displayName root p ++ ")" := by
  rw [List.map_map]
  apply List.map_congr_left
  intro e he
  obtain ⟨i, hi⟩ := h.entries e (List.mem_cons_of_mem _ he)
  have hname := h.names e (List.mem_of_getElem? hi)
  exact congrArg (fun name => "       (included from " ++ name ++ ")") hname

end Chain

namespace Traversal

variable {t : Tree} {c : Context} {loc : Location} {m : State}

/-- Every entry and its chain depict the point at which the file was opened for the first time. -/
theorem Recorded.depicts {source : String} (hc : c.Fresh)
    (hr : Source.resolve t c.root source = .ok loc) (h : Recorded t c loc m) {k : Nat}
    {file : RegisteredFile} (hk : m.context.registry.get? k = some file) :
    ∃ m₁, FirstOpens t (Traversal.start c loc) m₁ ∧ Run t m₁ m ∧ m₁.context.stack = m₁.paths ∧
      Depicts t c.root loc m.context.registry k file m₁ := by
  obtain ⟨m₁, hfirst, hrun, hindex, hchain⟩ := h.origins k (List.getElem?_eq_some_iff.mp hk).1
  have hs := Sound.of_run hc hr hfirst.run
  have hknown : ∀ f ∈ m₁.frames, f.Known c.root m.context.registry :=
    fun f hf => (hs.known f hf).mono (extends_of_run hrun)
  have hentries : file :: m.context.registry.includeChain k =
      (m₁.frames.map (·.file.index)).filterMap m.context.registry.get? := by
    rw [hchain.includeChain, State.frames, List.map_cons, List.filterMap_cons, hindex, hk]
  refine ⟨m₁, hfirst, hrun, hs.stack, ?_, ?_, hs.nested.distinct, ?_, hs.bottom, ?_, h.sound.names,
    h.sound.proper, h.sound.first⟩
  · rw [hentries, entries_of_frames h.sound.proper h.sound.names hknown, State.opened, List.map_map]
    rfl
  · intro l hl
    obtain ⟨f, hf, rfl⟩ := List.mem_map.mp hl
    exact (hknown f hf).plain
  · exact List.isChain_map_of_isChain _ (fun _ _ ha => ha.includes) hs.linked
  · intro e he
    rw [hentries] at he
    obtain ⟨i, _, hi⟩ := List.mem_filterMap.mp he
    exact ⟨i, hi⟩

end Traversal

open Traversal Expansion Text in
/-- The include chain of a numbered file is the stack of files that were open below it when it was
opened for the first time, nearest first, and so are the lines that are printed for an error in it. -/
theorem includeChain_eq_first_stack {σ : Type} {o : Output σ} {t : Tree} {config : Config}
    {c : Context} {source : String} {out : σ} {k : Nat} {file : RegisteredFile}
    (ho : ∀ out, o.tree out = t) (hc : Context.start t config = .ok c)
    (hk : (remains (expand o source { out, context := c })).context.registry.get? k = some file) :
    let r := (remains (expand o source { out, context := c })).context.registry
    ∃ loc m₁ m, Source.resolve t c.root source = .ok loc ∧
      FirstOpens t (start c loc) m₁ ∧ Run t m₁ m ∧ m.context.registry = r ∧
      m₁.context.stack = ((file :: r.includeChain k).map (·.path)).reverse ∧
      ((file :: r.includeChain k).map (·.path)).Nodup ∧
      (file :: r.includeChain k).getLast? = r.get? 0 ∧
      (file :: r.includeChain k).IsChain (fun e includer => Registry.Includes t c.root includer e) ∧
      ∀ line parsed number, ValidatorLine.parse? (trim line) = some parsed →
        parsed.severity = .error → parsed.position = some ⟨k, number⟩ →
        r.translate line = ("ERROR: " ++ file.name ++ parsed.afterIndex) ::
          m₁.context.stack.dropLast.reverse.map fun p =>
            "       (included from " ++ Source.displayName c.root p ++ ")" := by
  have hfresh := (Context.fresh_of_start hc).1
  intro r
  cases hr : Source.resolve t c.root source with
  | error failure =>
    have hx := expand_of_unresolved (o := o) (s := { out, context := c }) (ho out ▸ hr)
    rw [hx, remains, hfresh.registry] at hk
    simp [Registry.get?] at hk
  | ok loc =>
    obtain ⟨m, hrun, hreg⟩ := registry_of_expand (s := { out, context := c }) ho hr
    have hrecorded := Recorded.run hfresh hr hrun
    change r = m.context.registry at hreg
    change r.get? k = some file at hk
    obtain ⟨m₁, hfirst, hrun₁, hstack, hd⟩ := hrecorded.depicts hfresh hr (hreg ▸ hk)
    rw [← hreg] at hd
    have hpaths : m₁.context.stack = ((file :: r.includeChain k).map (·.path)).reverse := by
      rw [hstack, State.paths, hd.paths]
    refine ⟨loc, m₁, m, rfl, hfirst, hrun₁, hreg.symm, hpaths, hd.nodup, hd.getLast?, hd.isChain, ?_⟩
    intro line parsed number hparse hseverity hposition
    rw [Registry.translate_of_error hparse hseverity hposition hk, hd.includedFrom, hpaths]
    simp

open Traversal Expansion Text in
/-- The file with the number 2 is met below that with the number 1, and only later in the source. -/
theorem includeChain_sample :
    let c : Context := { root := ⟨"/s"⟩, maxDepth := 9 }
    let s := remains (expand (Sink.output .sample) "main" { out := {}, context := c })
    ∃ m₁, FirstOpens .sample (start c ["s", "main"]) m₁ ∧
      m₁.context.stack = [⟨"/s/main"⟩, ⟨"/s/b"⟩, ⟨"/s/lib"⟩] ∧
      s.context.registry.translate "ERROR: 2:1: 'x' : bad" = ["ERROR: lib:1: 'x' : bad",
        "       (included from b)", "       (included from main)"] := by
  intro c s
  have hc : Context.start .sample { root := ⟨"/s"⟩, maxDepth := 9 } = .ok c := by decide +kernel
  have hr : Source.resolve .sample c.root "main" = .ok ["s", "main"] := by decide +kernel
  have hk : s.context.registry.get? 2 = some ⟨⟨"/s/lib"⟩, "lib", some 1⟩ := by decide +kernel
  have hchain : (s.context.registry.includeChain 2).map (·.path) = [⟨"/s/b"⟩, ⟨"/s/main"⟩] := by
    decide +kernel
  have hparse : ValidatorLine.parse? (trim "ERROR: 2:1: 'x' : bad") =
      some ⟨.error, some ⟨2, 1⟩, ": 'x' : bad", ":1: 'x' : bad"⟩ := by decide +kernel
  obtain ⟨loc, m₁, m, hloc, hfirst, _, _, hstack, _, _, _, htranslate⟩ :=
    includeChain_eq_first_stack (fun _ => rfl) hc hk
  cases hr.symm.trans hloc
  change m₁.context.stack = (_ :: (s.context.registry.includeChain 2).map (·.path)).reverse at hstack
  rw [hchain] at hstack
  refine ⟨m₁, hfirst, hstack, ?_⟩
  have := htranslate _ _ _ hparse rfl rfl
  rw [hstack] at this
  exact this.trans (by decide +kernel)

end GlslFlatten
