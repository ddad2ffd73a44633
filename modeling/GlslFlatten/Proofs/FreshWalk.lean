import GlslFlatten.Proofs.OpenFiles
import Mathlib.Data.List.Chain
import Mathlib.Data.List.Nodup

/-!
Walks that begin in an empty context. Every open file is asked for by the line that its includer has
come to, and the numbers of the registry belong to the locations of files.
-/

namespace GlslFlatten

structure Context.Fresh (c : Context) : Prop where
  absolute : c.root.isAbsolute = true
  registry : c.registry = {}
  stack : c.stack = []

theorem Context.fresh_of_start {t : Tree} {config : Config} {c : Context}
    (h : Context.start t config = .ok c) : c.Fresh ∧ c.maxDepth = config.maxDepth := by
  unfold Context.start at h
  split at h
  · rename_i loc hl
    cases h
    exact ⟨⟨Location.isAbsolute_path loc, rfl, rfl⟩, rfl⟩
  · cases h

namespace Traversal

variable {t : Tree} {c : Context} {loc : Location} {m m' : State} {f : Frame}

/-- A frame tells the location, the name and the number of its file. -/
structure Frame.Known (root : Path) (r : Registry) (f : Frame) : Prop where
  plain : f.file.loc.Plain
  name : f.file.name = Source.displayName root f.file.loc.path
  index : r.indexOf? f.file.loc.path = some f.file.index

namespace Frame.Known

variable {root : Path} {r r' : Registry}

theorem mono (h : f.Known root r) (he : r.Extends r') : f.Known root r' :=
  ⟨h.plain, h.name, he.indexOf? h.index⟩

theorem next (h : f.Known root r) : f.next.Known root r := ⟨h.plain, h.name, h.index⟩

theorem get? (h : f.Known root r) (hp : r.Proper)
    (hn : ∀ e ∈ r.files, e.name = Source.displayName root e.path) :
    ∃ e, r.get? f.file.index = some e ∧ e.path = f.file.loc.path ∧ e.name = f.file.name := by
  obtain ⟨e, he, hpath⟩ := hp.of_indexOf? h.plain h.index
  refine ⟨e, he, hpath, ?_⟩
  rw [hn e (List.mem_of_getElem? he), hpath, h.name]

end Frame.Known

theorem extends_of_step (hs : Step t m m') : m.context.registry.Extends m'.context.registry := by
  rcases step_cases hs with ⟨text, hl, rfl⟩ | ⟨d, target, context, hl, hr, he, rfl⟩ |
    ⟨includer, outer, hl, ho, rfl⟩
  · exact .refl _
  · rw [← Context.registry_enter he]
    exact Context.extends_register context _ _ _
  · exact .refl _

theorem extends_of_run (hr : Run t m m') : m.context.registry.Extends m'.context.registry := by
  induction hr with
  | refl => exact .refl _
  | tail _ hs ih => exact ih.trans (extends_of_step hs)

/-- The line that `outer` has come to asks for the file of `inner`. -/
def Asks (t : Tree) (root : Path) (inner outer : Frame) : Prop :=
  ∃ d, t.line? outer.file.loc outer.done = some (.directive d) ∧
    Source.resolve t root d.path = .ok inner.file.loc

theorem Asks.includes {root : Path} {inner outer : Frame} (h : Asks t root inner outer) :
    t.Includes root outer.file.loc inner.file.loc := by
  obtain ⟨d, hl, hr⟩ := h
  exact ⟨outer.done, d, hl, hr⟩

theorem linked_of_file {root : Path} {g : Frame} {outer : List Frame} (hf : g.file = f.file)
    (h : (f :: outer).IsChain (Asks t root)) : (g :: outer).IsChain (Asks t root) := by
  obtain ⟨hhead, htail⟩ := List.isChain_cons.mp h
  refine List.isChain_cons.mpr ⟨fun y hy => ?_, htail⟩
  obtain ⟨d, hl, hr⟩ := hhead y hy
  exact ⟨d, hl, hf ▸ hr⟩

/-- Whatever the context holds, a file that is opened is one that the line before asks for. -/
theorem linked_of_step (h : m.frames.IsChain (Asks t m.context.root)) (hs : Step t m m') :
    m'.frames.IsChain (Asks t m.context.root) := by
  rcases step_cases hs with ⟨text, hl, rfl⟩ | ⟨d, target, context, hl, hr, he, rfl⟩ |
    ⟨includer, outer, hl, ho, rfl⟩
  · exact linked_of_file (f := m.top) rfl h
  · refine List.isChain_cons.mpr ⟨fun f hf => ?_, h⟩
    obtain rfl : m.top = f := Option.some.inj hf
    exact ⟨d, hl, hr⟩
  · rw [State.frames, ho] at h
    exact linked_of_file (f := includer) rfl h.tail

/-- The outermost file stays open to the end. -/
theorem bottom_of_step (hs : Step t m m') : m'.opened.getLast? = m.opened.getLast? := by
  rcases step_cases hs with ⟨text, hl, rfl⟩ | ⟨d, target, context, hl, hr, he, rfl⟩ |
    ⟨includer, outer, hl, ho, rfl⟩
  · rfl
  · rw [opened_openFile]
    rfl
  · simp only [State.opened, State.frames, ho, List.map_cons, List.getLast?_cons_cons]
    rfl

theorem linked_of_run (hrun : Run t (start c loc) m) :
    m.frames.IsChain (Asks t c.root) ∧ m.opened.getLast? = some loc := by
  induction hrun with
  | refl => exact ⟨List.isChain_singleton _, rfl⟩
  | @tail m₁ m₂ hrun hs ih =>
    have hroot : m₁.context.root = c.root := root_of_run hrun
    refine ⟨?_, (bottom_of_step hs).trans ih.2⟩
    exact hroot ▸ linked_of_step (hroot ▸ ih.1) hs

/-- What holds at every point of a walk from a fresh context `c` over the file at `loc`. -/
structure Sound (t : Tree) (c : Context) (loc : Location) (m : State) : Prop where
  nested : Nested t [] m
  root : m.context.root = c.root
  maxDepth : m.context.maxDepth = c.maxDepth
  proper : m.context.registry.Proper
  names : ∀ e ∈ m.context.registry.files, e.name = Source.displayName c.root e.path
  known : ∀ f ∈ m.frames, f.Known c.root m.context.registry
  linked : m.frames.IsChain (Asks t c.root)
  bottom : m.opened.getLast? = some loc
  first : m.context.registry.get? 0 = some ⟨loc.path, Source.displayName c.root loc.path, none⟩

theorem names_register {r : Registry} {root : Path}
    (h : ∀ e ∈ r.files, e.name = Source.displayName root e.path) (p : Path) (includer : Option Nat) :
    ∀ e ∈ (r.register p (Source.displayName root p) includer).2.files,
      e.name = Source.displayName root e.path := by
  cases hi : r.indexOf? p with
  | some i => rwa [Registry.register_of_indexOf? hi]
  | none =>
    rw [Registry.files_register_of_new hi]
    intro e he
    rcases List.mem_append.mp he with he | he
    · exact h e he
    · rw [List.mem_singleton.mp he]

/-- The frame of a file that has just been opened. -/
theorem known_openFile (c : Context) (outer : List Frame) (lines : List FlatLine)
    (includer : Option Nat) (hl : loc.Plain) : (openFile c outer lines loc includer).top.Known c.root
      (openFile c outer lines loc includer).context.registry :=
  ⟨hl, rfl, Registry.indexOf?_register _ _ _ _⟩

theorem Sound.start {source : String} (hc : c.Fresh) (hr : Source.resolve t c.root source = .ok loc) :
    Sound t c loc (start c loc) := by
  have hl := Source.plain_of_resolve hc.absolute hr
  have hnone : c.registry.indexOf? loc.path = none := by
    rw [hc.registry]
    rfl
  refine ⟨?_, rfl, rfl, ?_, ?_, ?_, ?_, rfl, ?_⟩
  · have := Nested.start (c := c) (Source.isRegular_of_resolve hr)
    rwa [hc.stack] at this
  · refine Registry.Proper.register ?_ hl _ _
    change c.registry.Proper
    rw [hc.registry]
    exact Registry.proper_empty
  · refine names_register (r := c.registry) ?_ _ _
    rw [hc.registry]
    intro e he
    cases he
  · intro f hf
    obtain rfl := List.mem_singleton.mp hf
    exact known_openFile { c with stack := c.stack ++ [loc.path] } [] [] none hl
  · exact List.isChain_singleton _
  · change (c.registry.register loc.path _ none).2.get? 0 = _
    rw [Registry.get?_register_of_new hnone, hc.registry]
    rfl

theorem Sound.step (hc : c.Fresh) (h : Sound t c loc m) (hs : Step t m m') : Sound t c loc m' := by
  have hnested := h.nested.step hs
  have hroot := (root_of_step hs).trans h.root
  have hlinked := h.root ▸ linked_of_step (h.root ▸ h.linked) hs
  have hbottom := (bottom_of_step hs).trans h.bottom
  rcases step_cases hs with ⟨text, hl, rfl⟩ | ⟨d, target, context, hl, hr, he, rfl⟩ |
    ⟨includer, outer, hl, ho, rfl⟩
  case inl =>
    refine ⟨hnested, hroot, h.maxDepth, h.proper, h.names, ?_, hlinked, hbottom, h.first⟩
    obtain ⟨htop, houter⟩ := List.forall_mem_cons.mp h.known
    exact List.forall_mem_cons.mpr ⟨htop.next, houter⟩
  case inr.inl =>
    obtain ⟨_, _, rfl⟩ := Context.of_enter_some he
    have hplain : target.Plain :=
      Source.plain_of_resolve (h.root ▸ hc.absolute) hr
    have hext := Context.extends_register m.context target.path (m.context.nameOf target.path)
      (some m.top.file.index)
    refine ⟨hnested, hroot, h.maxDepth, h.proper.register hplain _ _, ?_, ?_, hlinked, hbottom,
      hext.get? h.first⟩
    · have := names_register h.names target.path (some m.top.file.index)
      rwa [← h.root] at this ⊢
    · refine List.forall_mem_cons.mpr ⟨?_, fun f hf => (h.known f hf).mono hext⟩
      rw [← h.root]
      exact known_openFile { m.context with stack := m.context.stack ++ [target.path] } _ _ _ hplain
  case inr.inr =>
    have hframes : m.frames = m.top :: includer :: outer := by rw [State.frames, ho]
    have hknown := h.known
    rw [hframes] at hknown
    obtain ⟨_, hincluder, houter⟩ := by simpa using hknown
    refine ⟨hnested, hroot, h.maxDepth, h.proper, h.names, ?_, hlinked, hbottom, h.first⟩
    exact List.forall_mem_cons.mpr ⟨hincluder.next, houter⟩

theorem Sound.run (hc : c.Fresh) (h : Sound t c loc m) (hr : Run t m m') : Sound t c loc m' := by
  induction hr with
  | refl => exact h
  | tail _ hs ih => exact ih.step hc hs

theorem Sound.of_run {source : String} (hc : c.Fresh) (hr : Source.resolve t c.root source = .ok loc)
    (hrun : Run t (Traversal.start c loc) m) : Sound t c loc m :=
  (Sound.start hc hr).run hc hrun

/-- With one file open, that is the source. -/
theorem Sound.source_loc (h : Sound t c loc m) (ho : m.outer = []) : m.top.file.loc = loc := by
  have hbottom := h.bottom
  rw [State.opened, State.frames, ho] at hbottom
  exact Option.some.inj hbottom

theorem Sound.source_index (h : Sound t c loc m) (ho : m.outer = []) : m.top.file.index = 0 := by
  have hk := h.known _ List.mem_cons_self
  have hindex := hk.index
  rw [h.source_loc ho] at hindex
  have hzero := h.proper.indexOf?_of_get? (h.source_loc ho ▸ hk.plain) h.first rfl
  exact Option.some.inj (hindex.symm.trans hzero)

/-- The stack of the context holds the paths of the open files, from the outermost on. -/
theorem Sound.stack (h : Sound t c loc m) : m.context.stack = m.paths := h.nested.stack

theorem Sound.depth (h : Sound t c loc m) : m.context.depth = m.outer.length + 1 := by
  simp [Context.depth, h.stack, State.paths, State.opened, State.frames]

theorem Sound.plain (h : Sound t c loc m) {other : Location} (ho : other ∈ m.opened) :
    other.Plain := by
  obtain ⟨f, hf, rfl⟩ := List.mem_map.mp ho
  exact (h.known f hf).plain

theorem Sound.isOpen_iff (h : Sound t c loc m) {target : Location} (ht : target.Plain) :
    m.context.isOpen target.path = true ↔ target ∈ m.opened := by
  rw [Context.isOpen, h.stack, List.any_eq_true]
  constructor
  · rintro ⟨p, hp, hs⟩
    obtain ⟨other, ho, rfl⟩ := List.mem_map.mp (List.mem_reverse.mp hp)
    obtain rfl := (Location.same_path_iff (h.plain ho) ht).mp hs
    exact ho
  · intro ho
    exact ⟨target.path, path_mem_paths ho, Path.same_refl _⟩

/-- A file is reached from every file that is open below it. -/
theorem Sound.reaches (h : Sound t c loc m) {other : Location} (ho : other ∈ m.opened) :
    Relation.ReflTransGen (t.Includes c.root) other m.top.file.loc := by
  obtain ⟨f, hf, rfl⟩ := List.mem_map.mp ho
  have hlinked := h.linked
  rw [State.frames] at hf hlinked
  generalize m.top = top, m.outer = outer at hf hlinked
  induction outer generalizing top with
  | nil =>
    obtain rfl := List.mem_singleton.mp hf
    exact .refl
  | cons g outer ih =>
    obtain ⟨hasks, hlinked⟩ := List.isChain_cons_cons.mp hlinked
    rcases List.mem_cons.mp hf with rfl | hf
    · exact .refl
    · exact (ih g hf hlinked).tail hasks.includes

end Traversal

end GlslFlatten
