import GlslFlatten.Proofs.FreshWalk

/-!
What a file expands to. `Emitted` reads this off the tree alone, given the numbers of the files, and a
walk has written just that for the lines that are done in each of its open files.
-/

namespace GlslFlatten

/-- The expansion of the first `n` lines of the file at `f`. The target of a directive stands between
a marker for its own first line and one for the line behind the directive. -/
inductive Emitted (t : Tree) (root : Path) (r : Registry) : (f : Location) → (n : Nat) →
    List FlatLine → Prop
  | nil {f : Location} : Emitted t root r f 0 []
  | copied {f : Location} {n : Nat} {ls : List FlatLine} {text : String} :
      Emitted t root r f n ls → t.line? f n = some (.copied text) →
      Emitted t root r f (n + 1) (ls ++ [.copied text])
  | included {f g : Location} {n i j : Nat} {ls body : List FlatLine} {d : Directive} :
      Emitted t root r f n ls → t.line? f n = some (.directive d) →
      Source.resolve t root d.path = .ok g →
      r.indexOf? f.path = some i → r.indexOf? g.path = some j →
      Emitted t root r g (t.linesOf g).length body →
      Emitted t root r f (n + 1) (ls ++ (.marker 1 j :: body ++ [.marker (n + 2) i]))

variable {t : Tree} {root : Path} {r r' : Registry} {f : Location} {n : Nat} {ls : List FlatLine}

theorem Emitted.mono (h : Emitted t root r f n ls) (he : r.Extends r') :
    Emitted t root r' f n ls := by
  induction h with
  | nil => exact .nil
  | copied _ hl ih => exact .copied ih hl
  | included _ hl hr hi hj _ ih ih' =>
    exact .included ih hl hr (he.indexOf? hi) (he.indexOf? hj) ih'

theorem Emitted.le_length (h : Emitted t root r f n ls) : n ≤ (t.linesOf f).length := by
  cases h with
  | nil => exact Nat.zero_le _
  | copied _ hl => exact Tree.lt_length_of_line? hl
  | included _ hl _ _ _ _ => exact Tree.lt_length_of_line? hl

/-- There is only one expansion. -/
theorem Emitted.unique {ls' : List FlatLine} (h : Emitted t root r f n ls)
    (h' : Emitted t root r f n ls') : ls = ls' := by
  induction h generalizing ls' with
  | nil =>
    cases h'
    rfl
  | copied _ hl ih =>
    cases h' with
    | copied hs hl' =>
      cases hl.symm.trans hl'
      rw [ih hs]
    | included _ hl' _ _ _ _ => cases hl.symm.trans hl'
  | included _ hl hr hi hj _ ih ih' =>
    cases h' with
    | copied _ hl' => cases hl.symm.trans hl'
    | included hs hl' hr' hi' hj' hbody =>
      cases hl.symm.trans hl'
      cases hr.symm.trans hr'
      cases hi.symm.trans hi'
      cases hj.symm.trans hj'
      rw [ih hs, ih' hbody]

namespace Traversal

variable {c : Context} {loc : Location} {m m' : State}

/-- The expansion of the lines that are done in open files, innermost first. Each file but the
outermost has its marker in front. -/
inductive OpenEmitted (t : Tree) (root : Path) (r : Registry) : List Frame → List FlatLine → Prop
  | source {f : Frame} {ls : List FlatLine} : Emitted t root r f.file.loc f.done ls →
      OpenEmitted t root r [f] ls
  | included {f : Frame} {outer : List Frame} {before ls : List FlatLine} :
      OpenEmitted t root r outer before → Emitted t root r f.file.loc f.done ls →
      OpenEmitted t root r (f :: outer) (before ++ .marker 1 f.file.index :: ls)

namespace OpenEmitted

variable {fs : List Frame} {g : Frame} {outer : List Frame}

theorem unique {ls' : List FlatLine} (h : OpenEmitted t root r fs ls)
    (h' : OpenEmitted t root r fs ls') : ls = ls' := by
  induction h generalizing ls' with
  | source hf =>
    cases h' with
    | source hf' => exact hf.unique hf'
    | included houter _ => cases houter
  | included houter hf ih =>
    cases h' with
    | source _ => cases houter
    | included houter' hf' => rw [ih houter', hf.unique hf']

theorem mono (h : OpenEmitted t root r fs ls) (he : r.Extends r') :
    OpenEmitted t root r' fs ls := by
  induction h with
  | source hf => exact .source (hf.mono he)
  | included _ hf ih => exact .included ih (hf.mono he)

/-- More lines of the innermost file add their expansion at the end. -/
theorem extend (h : OpenEmitted t root r (g :: outer) ls) {g' : Frame} {more : List FlatLine}
    (hf : g'.file = g.file) (hmore : ∀ own, Emitted t root r g.file.loc g.done own →
      Emitted t root r g.file.loc g'.done (own ++ more)) :
    OpenEmitted t root r (g' :: outer) (ls ++ more) := by
  cases h with
  | source hown =>
    refine .source ?_
    rw [hf]
    exact hmore _ hown
  | included houter hown =>
    rw [List.append_assoc, List.cons_append, ← hf]
    refine .included houter ?_
    rw [hf]
    exact hmore _ hown

/-- A file whose lines are all done is put in the place of the directive that its includer has come
to. -/
theorem close {top : Frame} {d : Directive} (h : OpenEmitted t root r (top :: g :: outer) ls)
    (hend : t.line? top.file.loc top.done = none)
    (hl : t.line? g.file.loc g.done = some (.directive d))
    (hr : Source.resolve t root d.path = .ok top.file.loc)
    (hg : r.indexOf? g.file.loc.path = some g.file.index)
    (htop : r.indexOf? top.file.loc.path = some top.file.index) :
    OpenEmitted t root r (g.next :: outer) (ls ++ [.marker (g.done + 2) g.file.index]) := by
  cases h with
  | included houter hown =>
    have hlength : top.done = (t.linesOf top.file.loc).length :=
      Nat.le_antisymm hown.le_length (Tree.line?_eq_none_iff.mp hend)
    rw [hlength] at hown
    rw [List.append_assoc]
    refine houter.extend rfl fun own ho => ?_
    exact .included ho hl hr hg htop hown

end OpenEmitted

/-- Only the source has the number zero. -/
theorem Sound.index_ne_zero (h : Sound t c loc m) {includer : Frame} {outer : List Frame}
    (ho : m.outer = includer :: outer) : m.top.file.index ≠ 0 := by
  intro hz
  have hk := h.known _ List.mem_cons_self
  obtain ⟨e, he, hp, _⟩ := hk.get? h.proper h.names
  rw [hz, h.first] at he
  obtain rfl := Option.some.inj he
  have hbottom := h.bottom
  have hopened : m.opened = m.top.file.loc :: (includer :: outer).map (·.file.loc) := by
    rw [State.opened, State.frames, ho, List.map_cons]
  have hloc : loc ∈ m.opened := List.mem_of_getLast? hbottom
  have heq := Location.path_injective (h.plain hloc) hk.plain hp
  have hdistinct := h.nested.distinct
  rw [hopened] at hbottom hdistinct
  rw [List.map_cons, List.getLast?_cons_cons] at hbottom
  have hmem := List.mem_of_getLast? hbottom
  rw [heq] at hmem
  exact (List.nodup_cons.mp hdistinct).1 hmem

theorem OpenEmitted.opened (h : OpenEmitted t root r m.frames m.lines) (ho : m'.outer = m.frames)
    (hd : m'.top.done = 0) (hl : m'.lines = m.lines ++ heading m'.top.file.index)
    (hindex : m'.top.file.index ≠ 0) : OpenEmitted t root r m'.frames m'.lines := by
  rw [State.frames, ho, hl, heading, if_neg hindex]
  exact .included h (hd ▸ .nil)

theorem OpenEmitted.step (hc : c.Fresh) (hs : Sound t c loc m)
    (h : OpenEmitted t c.root m.context.registry m.frames m.lines) (hstep : Step t m m') :
    OpenEmitted t c.root m'.context.registry m'.frames m'.lines := by
  have hs' := hs.step hc hstep
  rcases step_cases hstep with ⟨text, hl, rfl⟩ | ⟨d, target, context, hl, hr, he, rfl⟩ |
    ⟨includer, outer, hl, ho, rfl⟩
  case inl => exact h.extend rfl fun own hown => .copied hown hl
  case inr.inl =>
    have houter : (openFile context m.frames m.lines target (some m.top.file.index)).outer =
        m.top :: m.outer := rfl
    exact opened (h.mono (extends_of_step hstep)) rfl rfl rfl (hs'.index_ne_zero houter)
  case inr.inr =>
    rw [State.frames, ho] at h
    have hlinked := hs.linked
    have hknown := hs.known
    rw [State.frames, ho] at hlinked hknown
    obtain ⟨d, hasks, htarget⟩ := (List.isChain_cons_cons.mp hlinked).1
    obtain ⟨htop, hincluder, _⟩ := by simpa only [List.forall_mem_cons] using hknown
    exact h.close hl hasks htarget hincluder.index htop.index

/-- At every point of a walk, what has been written is the expansion of the lines that are done. -/
theorem OpenEmitted.run {source : String} (hc : c.Fresh)
    (hr : Source.resolve t c.root source = .ok loc) (hrun : Run t (start c loc) m) :
    OpenEmitted t c.root m.context.registry m.frames m.lines := by
  induction hrun with
  | refl =>
    have hindex := (Sound.start hc hr).source_index rfl
    have hlines : (start c loc).lines = [] := by
      change [] ++ heading (start c loc).top.file.index = []
      rw [hindex]
      rfl
    rw [hlines]
    exact .source .nil
  | tail hrun hs ih => exact ih.step hc ((Sound.start hc hr).run hc hrun) hs

end Traversal

end GlslFlatten
