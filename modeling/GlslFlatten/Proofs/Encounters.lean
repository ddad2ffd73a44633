import GlslFlatten.Proofs.Provenance

/-!
The order of a registry. Files are numbered as a depth-first walk over the source meets them for the
first time, so the numbers can be read off the include tree, and also off the markers.
-/

namespace GlslFlatten

section FirstOccurrences

variable {α β : Type} [BEq α] [LawfulBEq α] [BEq β] [LawfulBEq β]

theorem eraseDups_concat (xs : List α) (x : α) : (xs ++ [x]).eraseDups =
    if x ∈ xs then xs.eraseDups else xs.eraseDups ++ [x] := by
  rw [List.eraseDups_append]
  by_cases hx : x ∈ xs
  · simp [hx, List.removeAll]
  · simp [hx, List.removeAll, List.eraseDups_cons]

theorem eraseDups_map {f : α → β} {xs : List α} (h : ∀ a ∈ xs, ∀ b ∈ xs, f a = f b → a = b) :
    (xs.map f).eraseDups = xs.eraseDups.map f := by
  induction xs using List.reverseRecOn with
  | nil => rfl
  | append_singleton xs x ih =>
    have hmem : f x ∈ xs.map f ↔ x ∈ xs := by
      constructor
      · intro hm
        obtain ⟨a, ha, he⟩ := List.mem_map.mp hm
        exact h a (by simp [ha]) x (by simp) he ▸ ha
      · exact List.mem_map_of_mem
    rw [List.map_append, List.map_singleton, eraseDups_concat, eraseDups_concat,
      ih fun a ha b hb => h a (by simp [ha]) b (by simp [hb])]
    simp only [hmem]
    split <;> simp

/-- A number that is the next one, or has occurred before, continues a count. -/
theorem eraseDups_concat_range {ns : List Nat} {n i : Nat} (h : ns.eraseDups = List.range n)
    (hi : i ≤ n) : (ns ++ [i]).eraseDups = List.range (max n (i + 1)) := by
  have hmem : i ∈ ns ↔ i < n := by rw [← List.mem_eraseDups, h, List.mem_range]
  rw [eraseDups_concat, h]
  rcases Nat.lt_or_eq_of_le hi with hlt | rfl
  · rw [if_pos (hmem.mpr hlt), Nat.max_eq_left hlt]
  · rw [if_neg fun hm => Nat.lt_irrefl _ (hmem.mp hm), ← List.range_succ,
      Nat.max_eq_right (Nat.le_succ _)]

end FirstOccurrences

/-- The files that the directives among the first `n` lines of the file at `f` lead to, in the order in
which they are met. Those that a file leads to itself follow it. -/
inductive Preorder (t : Tree) (root : Path) : (f : Location) → (n : Nat) → List Location → Prop
  | nil {f : Location} : Preorder t root f 0 []
  | copied {f : Location} {n : Nat} {gs : List Location} {text : String} :
      Preorder t root f n gs → t.line? f n = some (.copied text) → Preorder t root f (n + 1) gs
  | included {f g : Location} {n : Nat} {gs hs : List Location} {d : Directive} :
      Preorder t root f n gs → t.line? f n = some (.directive d) →
      Source.resolve t root d.path = .ok g → Preorder t root g (t.linesOf g).length hs →
      Preorder t root f (n + 1) (gs ++ g :: hs)

namespace FlatLine

def index? : FlatLine → Option Nat
  | marker _ index => some index
  | copied _ => none

/-- The file whose first line follows. Markers behind a directive never have the line number one. -/
def entered? : FlatLine → Option Nat
  | marker line index => if line = 1 then some index else none
  | copied _ => none

theorem eq_marker_of_entered? {line : FlatLine} {index : Nat} (h : entered? line = some index) :
    line = marker 1 index := by
  cases line with
  | marker number other =>
    simp only [entered?] at h
    split at h
    · rename_i hone
      rw [hone, Option.some.inj h]
    · cases h
  | copied text => cases h

/-- A choice of markers, among them all those at the beginning of a file. -/
structure Picks (pick : FlatLine → Option Nat) : Prop where
  entered : ∀ index, pick (marker 1 index) = some index
  only : ∀ line index, pick line = some index → line.index? = some index

theorem picks_index? : Picks index? := ⟨fun _ => rfl, fun _ _ h => h⟩

theorem picks_entered? : Picks entered? where
  entered := fun _ => rfl
  only := fun _ _ h => by rw [eq_marker_of_entered? h, index?]

end FlatLine

variable {t : Tree} {root : Path} {r : Registry} {f : Location} {n : Nat} {ls : List FlatLine}
  {gs : List Location}

namespace Preorder

/-- There is only one order. -/
theorem unique {hs : List Location} (h : Preorder t root f n gs) (h' : Preorder t root f n hs) :
    gs = hs := by
  induction h generalizing hs with
  | nil =>
    cases h'
    rfl
  | copied _ hl ih =>
    cases h' with
    | copied hs hl' => exact ih hs
    | included _ hl' _ _ => cases hl.symm.trans hl'
  | included _ hl hr _ ih ih' =>
    cases h' with
    | copied _ hl' => cases hl.symm.trans hl'
    | included hs hl' hr' hg =>
      cases hl.symm.trans hl'
      cases hr.symm.trans hr'
      rw [ih hs, ih' hg]

theorem plain (h : Preorder t root f n gs) (ha : root.isAbsolute = true) : ∀ g ∈ gs, g.Plain := by
  induction h with
  | nil => simp
  | copied _ _ ih => exact ih
  | included _ _ hr _ ih ih' =>
    intro g hg
    simp only [List.mem_append, List.mem_cons] at hg
    rcases hg with hg | rfl | hg
    · exact ih g hg
    · exact Source.plain_of_resolve ha hr
    · exact ih' g hg

end Preorder

/-- The markers at the beginning of files name the files of the include tree in their order. -/
theorem Emitted.preorder (h : Emitted t root r f n ls) :
    ∃ gs, Preorder t root f n gs ∧
      gs.map (fun g => r.indexOf? g.path) = (ls.filterMap FlatLine.entered?).map some := by
  induction h with
  | nil => exact ⟨[], .nil, rfl⟩
  | @copied f n ls text _ hl ih =>
    obtain ⟨gs, hp, hgs⟩ := ih
    exact ⟨gs, .copied hp hl, by simp [List.filterMap_append, FlatLine.entered?, hgs]⟩
  | @included f g n i j ls body d _ hl hr _ hg _ ih ih' =>
    obtain ⟨gs, hp, hgs⟩ := ih
    obtain ⟨hs, hp', hhs⟩ := ih'
    refine ⟨_, .included hp hl hr hp', ?_⟩
    simp [List.filterMap_append, FlatLine.entered?, hgs, hhs, hg]

namespace Traversal

variable {c : Context} {loc : Location} {m m' : State}

/-- The numbers that are picked, behind that of the source, count up to the size of the registry. -/
def Counts (pick : FlatLine → Option Nat) (m : State) : Prop :=
  (0 :: m.lines.filterMap pick).eraseDups = List.range m.context.registry.size

variable {pick : FlatLine → Option Nat}

/-- Another line, whose number, if it is picked, is at most the next one. -/
theorem Counts.concat (h : Counts pick m) {line : FlatLine} (hl : m'.lines = m.lines ++ [line])
    (hnone : pick line = none → m'.context.registry.size = m.context.registry.size)
    (hsome : ∀ i, pick line = some i → i ≤ m.context.registry.size ∧
      m'.context.registry.size = max m.context.registry.size (i + 1)) : Counts pick m' := by
  unfold Counts at h ⊢
  rw [hl, List.filterMap_append]
  cases hp : pick line with
  | none =>
    rw [hnone hp]
    simpa [hp] using h
  | some i =>
    obtain ⟨hi, hsize⟩ := hsome i hp
    rw [hsize, ← eraseDups_concat_range h hi]
    simp [hp]

theorem size_register (r : Registry) (p : Path) (name : String) (includer : Option Nat) :
    (r.register p name includer).1 ≤ r.size ∧
      (r.register p name includer).2.size = max r.size ((r.register p name includer).1 + 1) := by
  cases hi : r.indexOf? p with
  | some i =>
    have hlt : i < r.size := (List.findIdx?_eq_some_iff_getElem.mp hi).1
    rw [Registry.register_of_indexOf? hi]
    exact ⟨Nat.le_of_lt hlt, (Nat.max_eq_left hlt).symm⟩
  | none =>
    have hindex : (r.register p name includer).1 = r.size := by simp [Registry.register, hi]
    have hsize : (r.register p name includer).2.size = r.size + 1 := by
      simp [Registry.size, Registry.files_register_of_new hi]
    rw [hindex, hsize]
    exact ⟨Nat.le_refl _, (Nat.max_eq_right (Nat.le_succ _)).symm⟩

theorem Counts.start {source : String} (hc : c.Fresh)
    (hr : Source.resolve t c.root source = .ok loc) : Counts pick (start c loc) := by
  have hindex := (Sound.start hc hr).source_index rfl
  have hlines : (Traversal.start c loc).lines = heading (Traversal.start c loc).top.file.index := rfl
  have hsize := (size_register c.registry loc.path (c.nameOf loc.path) none).2
  have hzero : (c.registry.register loc.path (c.nameOf loc.path) none).1 = 0 := hindex
  have hempty : c.registry.size = 0 := by
    rw [hc.registry]
    rfl
  have hone : (Traversal.start c loc).context.registry.size = 1 := by
    refine hsize.trans ?_
    rw [hempty, hzero]
    rfl
  unfold Counts
  rw [hlines, hindex, hone]
  rfl

/-- Every file but the first is opened with a marker. -/
theorem lines_openFile {outer : List Frame} {lines : List FlatLine} {target : Location}
    {includer : Option Nat} (h : (openFile c outer lines target includer).top.file.index ≠ 0) :
    (openFile c outer lines target includer).lines =
      lines ++ [.marker 1 (openFile c outer lines target includer).top.file.index] :=
  congrArg (lines ++ ·) (if_neg h)

theorem Counts.step (hpick : FlatLine.Picks pick) (hc : c.Fresh) (hs : Sound t c loc m)
    (h : Counts pick m) (hstep : Step t m m') : Counts pick m' := by
  have hs' := hs.step hc hstep
  rcases step_cases hstep with ⟨text, hl, rfl⟩ | ⟨d, target, context, hl, hr, he, rfl⟩ |
    ⟨includer, outer, hl, ho, rfl⟩
  case inl =>
    refine h.concat rfl (fun _ => rfl) fun i hi => ?_
    cases hpick.only _ i hi
  case inr.inl =>
    have hsize := size_register context.registry target.path (context.nameOf target.path)
      (some m.top.file.index)
    have hcount : Counts pick { m with context := context } := by
      unfold Counts at h ⊢
      rwa [Context.registry_enter he]
    have houter : (openFile context m.frames m.lines target (some m.top.file.index)).outer =
        m.top :: m.outer := rfl
    refine hcount.concat (lines_openFile (hs'.index_ne_zero houter)) ?_ ?_
    · intro hnone
      rw [hpick.entered] at hnone
      cases hnone
    · intro i hi
      rw [hpick.entered] at hi
      obtain rfl := Option.some.inj hi
      exact hsize
  case inr.inr =>
    have hknown := (hs.known includer (by simp [State.frames, ho])).index
    have hlt : includer.file.index < m.context.registry.size :=
      (List.findIdx?_eq_some_iff_getElem.mp hknown).1
    refine h.concat rfl (fun _ => rfl) fun i hi => ?_
    obtain rfl := Option.some.inj (hpick.only _ i hi)
    exact ⟨Nat.le_of_lt hlt, (Nat.max_eq_left hlt).symm⟩

theorem Counts.run {source : String} (hpick : FlatLine.Picks pick) (hc : c.Fresh)
    (hr : Source.resolve t c.root source = .ok loc) (hrun : Run t (Traversal.start c loc) m) :
    Counts pick m := by
  induction hrun with
  | refl => exact .start hc hr
  | tail hrun hs ih => exact ih.step hpick hc (Sound.of_run hc hr hrun) hs

end Traversal

/-- If distinct files have distinct numbers, and the files of a list have the numbers of another,
then the entries of the registry are the files of the list as they first occur. -/
theorem Registry.Proper.paths_of_counts (hp : r.Proper) {fs : List Location} {is : List Nat}
    (hplain : ∀ g ∈ fs, g.Plain) (hindex : fs.map (fun g => r.indexOf? g.path) = is.map some)
    (hcount : is.eraseDups = List.range r.size) :
    r.files.map (·.path) = fs.eraseDups.map Location.path := by
  have hinj : ∀ a ∈ fs, ∀ b ∈ fs, r.indexOf? a.path = r.indexOf? b.path → a = b := by
    intro a ha b hb he
    obtain ⟨i, _, hi⟩ := List.mem_map.mp (hindex ▸ List.mem_map_of_mem ha)
    obtain ⟨e, hea, hpa⟩ := hp.of_indexOf? (hplain a ha) hi.symm
    obtain ⟨e', heb, hpb⟩ := hp.of_indexOf? (hplain b hb) (he ▸ hi.symm)
    cases hea.symm.trans heb
    exact Location.path_injective (hplain a ha) (hplain b hb) (hpa.symm.trans hpb)
  have hnumbers : fs.eraseDups.map (fun g => r.indexOf? g.path) = (List.range r.size).map some := by
    rw [← eraseDups_map hinj, hindex, eraseDups_map fun a _ b _ => Option.some.inj, hcount]
  have hlength : fs.eraseDups.length = r.size := by simpa using congrArg List.length hnumbers
  refine List.ext_getElem (by rw [List.length_map, List.length_map, hlength, Registry.size]) ?_
  intro k hk hk'
  rw [List.length_map] at hk hk'
  have hnumber : r.indexOf? (fs.eraseDups[k]).path = some k := by
    have := congrArg (·[k]?) hnumbers
    simpa [hk', List.getElem?_range, show k < r.size from hk] using this
  have hmem : fs.eraseDups[k] ∈ fs := List.mem_eraseDups.mp (List.getElem_mem hk')
  obtain ⟨e, he, hpath⟩ := hp.of_indexOf? (hplain _ hmem) hnumber
  rw [List.getElem_map, List.getElem_map, ← hpath]
  rw [Registry.get?, List.getElem?_eq_getElem hk] at he
  rw [Option.some.inj he]

/-- What the markers of an expansion say of a registry of some size. -/
structure Numbered (size : Nat) (ls : List FlatLine) : Prop where
  below : ∀ line index, .marker line index ∈ ls → index < size
  entered : ∀ index, 0 < index → index < size → .marker 1 index ∈ ls
  order : ((ls.filterMap FlatLine.index?).filter (· != 0)).eraseDups = List.range' 1 (size - 1)

open Traversal in
theorem Traversal.Counts.numbered {m : State} (hi : Counts FlatLine.index? m)
    (he : Counts FlatLine.entered? m) : Numbered m.context.registry.size m.lines := by
  refine ⟨fun line index hm => ?_, fun index hpos hlt => ?_, ?_⟩
  · have hmem : index ∈ 0 :: m.lines.filterMap FlatLine.index? :=
      List.mem_cons_of_mem _ (List.mem_filterMap.mpr ⟨_, hm, rfl⟩)
    rwa [← List.mem_eraseDups, hi, List.mem_range] at hmem
  · have hmem := List.mem_range.mpr hlt
    rw [← he, List.mem_eraseDups] at hmem
    rcases List.mem_cons.mp hmem with rfl | hmem
    · cases hpos
    · obtain ⟨line, hl, hp⟩ := List.mem_filterMap.mp hmem
      exact FlatLine.eq_marker_of_entered? hp ▸ hl
  · have hcount := hi
    rw [Counts, List.eraseDups_cons] at hcount
    cases hs : m.context.registry.size with
    | zero => simp [hs] at hcount
    | succ size =>
      rw [hs, List.range_eq_range', List.range'_succ] at hcount
      simpa [bne] using (List.cons.inj hcount).2

open Text Traversal in
/-- The files of a registry are the files that the source leads to, each once and in the order in
which a walk through them, depth first, meets them. The markers of an output that is not a device count
them in that order, and each is entered somewhere. -/
theorem flatten_registry_preorder {made : Tree} {c : Context} {config : Config} {source : String}
    {output : Path} {target : Location} (hc : Context.start t config = .ok c)
    (hm : t.create output = .ok (target, made))
    (hx : (flatten t config source output).result = .ok r)
    (hother : ∀ e ∈ r.files, e.path.same target.path = false) :
    ∃ loc gs, Source.resolve t c.root source = .ok loc ∧
      Preorder t c.root loc (t.linesOf loc).length gs ∧
      r.files.map (·.path) = (loc :: gs).eraseDups.map Location.path ∧
      ((∀ xs, Splice t c.root loc (t.linesOf loc).length xs →
          ∀ x ∈ xs, ¬ "#line".toList <+: x.text.toList) →
        (∃ refusal, t.get? target = some (.device refusal)) ∨ ∃ bytes cs,
          (flatten t config source output).tree.content? target = some bytes ∧
          Utf8.decode? bytes = some cs ∧
          Numbered r.size ((lines '\n' cs).map fun l => FlatLine.ofText (.ofList l))) := by
  have hfresh := (Context.fresh_of_start hc).1
  obtain ⟨loc, m, hr, hr', hrun, rfl, hzero, hemitted, hcontent⟩ := walk_of_flatten hc hm hx hother
  have hp := (Sound.of_run hfresh hr' hrun).proper
  have hplain := Source.plain_of_resolve hfresh.absolute hr
  have hentered := Counts.run FlatLine.picks_entered? hfresh hr' hrun
  obtain ⟨gs, hgs, hindex⟩ := hemitted.preorder
  refine ⟨loc, gs, hr, hgs, ?_, fun hmark => ?_⟩
  · refine hp.paths_of_counts (List.forall_mem_cons.mpr ⟨hplain, hgs.plain hfresh.absolute⟩) ?_ hentered
    simp [hzero, hindex]
  have hmark' : ∀ text, .copied text ∈ m.lines → ¬ "#line".toList <+: text.toList := by
    intro text hm
    obtain ⟨xs, hs, htext⟩ := hemitted.text_mem_splice hp hfresh.absolute hplain hzero hm
    obtain ⟨x, hx, rfl⟩ := List.mem_map.mp htext
    exact hmark xs hs x hx
  obtain ⟨cs, hd, hlines⟩ := read_bytes hemitted.newline_not_mem hmark'
  rcases (Tree.differs_of_create hm).2 with hfile | ⟨hdevice, rfl⟩
  · refine .inr ⟨_, cs, hcontent hfile, hd, ?_⟩
    rw [hlines]
    exact (Counts.run FlatLine.picks_index? hfresh hr' hrun).numbered hentered
  · exact .inl hdevice

/-- A file that is included twice is met the first time below another one. -/
theorem flatten_registry_preorder_sample :
    let read := flatten .sample { root := ⟨"/s"⟩ } "main" ⟨"/out"⟩
    ∃ r gs bytes cs, read.result = .ok r ∧
      Preorder .sample ⟨"/s"⟩ ["s", "main"] (Tree.sample.linesOf ["s", "main"]).length gs ∧
      r.files.map (·.path) = (["s", "main"] :: gs).eraseDups.map Location.path ∧
      r.files.map (·.path) = [⟨"/s/main"⟩, ⟨"/s/b"⟩, ⟨"/s/lib"⟩] ∧
      read.tree.content? ["out"] = some bytes ∧ Text.Utf8.decode? bytes = some cs ∧
      Numbered 3 ((Text.lines '\n' cs).map fun l => FlatLine.ofText (.ofList l)) := by
  intro read
  let c : Context := { root := ⟨"/s"⟩, maxDepth := 100 }
  have hc : Context.start .sample { root := ⟨"/s"⟩ } = .ok c := by decide +kernel
  have hm : Tree.sample.create ⟨"/out"⟩ = .ok (["out"], Tree.sample.put ["out"] (.file [])) := by
    decide +kernel
  have hr : Source.resolve .sample c.root "main" = .ok ["s", "main"] := by decide +kernel
  have hx : read.result = .ok ⟨[⟨⟨"/s/main"⟩, "main", none⟩, ⟨⟨"/s/b"⟩, "b", some 0⟩,
      ⟨⟨"/s/lib"⟩, "lib", some 1⟩]⟩ := by decide +kernel
  obtain ⟨loc, gs, hloc, hgs, hpaths, hread⟩ := flatten_registry_preorder hc hm hx (by decide +kernel)
  cases hr.symm.trans hloc
  have hmark : ∀ xs, Splice .sample c.root ["s", "main"] (Tree.sample.linesOf ["s", "main"]).length xs →
      ∀ x ∈ xs, ¬ "#line".toList <+: x.text.toList := by
    intro xs hs
    rw [hs.unique splice_sample]
    decide +kernel
  have hnone : Tree.sample.get? ["out"] = none := by decide +kernel
  obtain ⟨bytes, cs, hbytes, hdecode, hnumbered⟩ := (hread hmark).resolve_left (by simp [hnone])
  exact ⟨_, gs, bytes, cs, hx, hgs, hpaths, rfl, hbytes, hdecode, hnumbered⟩

end GlslFlatten
