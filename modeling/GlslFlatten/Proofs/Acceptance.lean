import GlslFlatten.Proofs.FreshWalk
import GlslFlatten.Proofs.Simulation

/-!
The sources that expand: those from which only well-formed files are reached, along include paths that
are not too long. In this way cycles are excluded too, and nothing else is.
-/

namespace GlslFlatten

open Text

variable {t : Tree} {root : Path} {f g : Location} {n : Nat}

/-- What the source at `f` needs so that it expands with at most `n` open files. -/
structure Expandable (t : Tree) (root : Path) (n : Nat) (f : Location) : Prop where
  /-- Every file that is reached can be read and is valid UTF-8. -/
  text : ∀ g, Relation.ReflTransGen (t.Includes root) f g →
    ∃ content cs, t.load g = .ok content ∧ Utf8.decode? content = some cs
  wellFormed : ∀ g, Relation.ReflTransGen (t.Includes root) f g →
    ∀ i defect, t.line? g i ≠ some (.malformed defect)
  resolved : ∀ g, Relation.ReflTransGen (t.Includes root) f g →
    ∀ i d, t.line? g i = some (.directive d) → ∃ target, Source.resolve t root d.path = .ok target
  acyclic : ∀ g, Relation.ReflTransGen (t.Includes root) f g →
    ¬ Relation.TransGen (t.Includes root) g g
  depth : ∀ path, (f :: path).IsChain (t.Includes root) → (f :: path).length ≤ n

/-- A line at which an expansion does not have to stop, whatever is open. -/
def Line.Passable (t : Tree) (root : Path) : Line → Prop
  | unreadable _ => False
  | malformed _ => False
  | copied _ => True
  | directive d => ∃ target, Source.resolve t root d.path = .ok target

/-- A file that expands with room for `n` open files: one for itself, and the others for those that it
includes. -/
inductive Fine (t : Tree) (root : Path) : Nat → Location → Prop
  | intro {n : Nat} {f : Location} : (∀ i line, t.line? f i = some line → line.Passable t root) →
      (∀ g, t.Includes root f g → Fine t root n g) → Fine t root (n + 1) f

theorem Line.read_ne_unreadable {number : Nat} {bytes : List UInt8}
    (h : (Utf8.decode? bytes).isSome) (reason : IoError) :
    Line.read number bytes ≠ .unreadable reason := by
  obtain ⟨cs, hd⟩ := Option.isSome_iff_exists.mp h
  simp only [Line.read, hd]
  cases Directive.parse (trimEnd (.ofList cs)) number with
  | error defect => exact Line.noConfusion
  | ok found => cases found <;> exact Line.noConfusion

namespace Fine

theorem pos (h : Fine t root n f) : 0 < n := by
  cases h
  exact Nat.succ_pos _

theorem passable (h : Fine t root n f) {i : Nat} {line : Line} (hl : t.line? f i = some line) :
    line.Passable t root := by
  cases h with
  | intro hlines _ => exact hlines i line hl

theorem included (h : Fine t root n f) (hi : t.Includes root f g) : Fine t root (n - 1) g := by
  cases h with
  | intro _ hbelow => exact hbelow g hi

/-- Room is used up on the way. -/
theorem transGen (h : Fine t root n f) (hr : Relation.TransGen (t.Includes root) f g) :
    ∃ k < n, Fine t root k g := by
  induction hr with
  | single hi => exact ⟨n - 1, Nat.sub_lt h.pos Nat.one_pos, h.included hi⟩
  | tail _ hi ih =>
    obtain ⟨k, hk, hf⟩ := ih
    exact ⟨k - 1, by omega, hf.included hi⟩

theorem reflTransGen (h : Fine t root n f) (hr : Relation.ReflTransGen (t.Includes root) f g) :
    ∃ k, Fine t root k g := by
  rcases Relation.reflTransGen_iff_eq_or_transGen.mp hr with rfl | hr
  · exact ⟨n, h⟩
  · obtain ⟨k, _, hf⟩ := h.transGen hr
    exact ⟨k, hf⟩

/-- A way back would use up room for ever. -/
theorem acyclic (h : Fine t root n f) : ¬ Relation.TransGen (t.Includes root) f f := by
  intro hr
  induction n using Nat.strongRecOn with
  | ind n ih =>
    obtain ⟨k, hk, hf⟩ := h.transGen hr
    exact ih k hk hf

theorem length_le (h : Fine t root n f) {path : List Location}
    (hp : (f :: path).IsChain (t.Includes root)) : (f :: path).length ≤ n := by
  induction path generalizing f n with
  | nil => exact h.pos
  | cons g path ih =>
    obtain ⟨hi, hp⟩ := List.isChain_cons_cons.mp hp
    have := ih (h.included hi) hp
    simp only [List.length_cons] at this ⊢
    omega

/-- A file is valid UTF-8 if its lines are. -/
theorem reads (h : Fine t root n f) :
    ∃ content cs, t.load f = .ok content ∧ Utf8.decode? content = some cs := by
  cases hload : t.load f with
  | error e =>
    have hl : t.line? f 0 = some (.unreadable e) := by simp [Tree.line?, Tree.linesOf, hload]
    exact absurd (h.passable hl) id
  | ok content =>
    have hdecodes : (Utf8.decode? content).isSome := by
      refine (Utf8.decode?_isSome_iff content).mpr fun bytes hb => ?_
      obtain ⟨i, hget⟩ := List.getElem?_of_mem hb
      have hl : t.line? f i = some (Line.read (i + 1) bytes) := by
        rw [Tree.line?_of_load hload, Reader.lines, hget, Option.map_some]
      have hp := h.passable hl
      rw [Option.isSome_iff_ne_none]
      intro hn
      rw [Line.read, hn] at hp
      exact hp
    obtain ⟨cs, hd⟩ := Option.isSome_iff_exists.mp hdecodes
    exact ⟨content, cs, rfl, hd⟩

end Fine

theorem Fine.expandable (h : Fine t root n f) : Expandable t root n f where
  text := by
    intro g hr
    obtain ⟨k, hk⟩ := h.reflTransGen hr
    exact hk.reads
  wellFormed := by
    intro g hr i defect hl
    obtain ⟨k, hk⟩ := h.reflTransGen hr
    exact hk.passable hl
  resolved := by
    intro g hr i d hl
    obtain ⟨k, hk⟩ := h.reflTransGen hr
    exact hk.passable hl
  acyclic := by
    intro g hr
    obtain ⟨k, hk⟩ := h.reflTransGen hr
    exact hk.acyclic
  depth := fun path hp => h.length_le hp

namespace Expandable

theorem passable (h : Expandable t root n f) {i : Nat} {line : Line} (hl : t.line? f i = some line) :
    line.Passable t root := by
  cases line with
  | unreadable reason =>
    obtain ⟨content, cs, hload, hd⟩ := h.text f .refl
    rw [Tree.line?_of_load hload] at hl
    obtain ⟨bytes, hb, hr⟩ := Option.map_eq_some_iff.mp hl
    have hdecode : (Utf8.decode? content).isSome := by simp [hd]
    have hline := (Utf8.decode?_isSome_iff content).mp hdecode bytes (List.mem_of_getElem? hb)
    exact absurd hr (Line.read_ne_unreadable hline reason)
  | malformed defect => exact h.wellFormed f .refl i defect hl
  | copied text => trivial
  | directive d => exact h.resolved f .refl i d hl

theorem below (h : Expandable t root (n + 1) f) (hi : t.Includes root f g) :
    Expandable t root n g where
  text := fun g' hr => h.text g' (.head hi hr)
  wellFormed := fun g' hr => h.wellFormed g' (.head hi hr)
  resolved := fun g' hr => h.resolved g' (.head hi hr)
  acyclic := fun g' hr => h.acyclic g' (.head hi hr)
  depth := by
    intro path hp
    have := h.depth (g :: path) (List.isChain_cons_cons.mpr ⟨hi, hp⟩)
    simpa using this

theorem fine (h : Expandable t root n f) : Fine t root n f := by
  induction n generalizing f with
  | zero => exact absurd (h.depth [] (List.isChain_singleton _)) (by simp)
  | succ n ih => exact .intro (fun i line hl => h.passable hl) fun g hi => ih (h.below hi)

end Expandable

namespace Traversal

variable {c : Context} {loc : Location} {m m' : State}

/-- What has been found out of the frames of a walk: the lines that are done can be passed, and with
`n` files open at most, the files that they include have enough room. -/
def Cleared (t : Tree) (root : Path) (n : Nat) : List Frame → Prop
  | [] => True
  | f :: outer => outer.length < n ∧
      (∀ i < f.done, ∀ line, t.line? f.file.loc i = some line → line.Passable t root ∧
        ∀ d target, line = .directive d → Source.resolve t root d.path = .ok target →
          Fine t root (n - (outer.length + 1)) target) ∧
      Cleared t root n outer

/-- A file whose lines are all done is fine. -/
theorem Cleared.fine {f : Frame} {outer : List Frame} (h : Cleared t root n (f :: outer))
    (hend : t.line? f.file.loc f.done = none) : Fine t root (n - outer.length) f.file.loc := by
  obtain ⟨hroom, hdone, _⟩ := h
  have hn : n - outer.length = n - (outer.length + 1) + 1 := by omega
  rw [hn]
  refine .intro (fun i line hl => (hdone i (Tree.lt_of_line? hl hend) line hl).1) ?_
  rintro g ⟨i, d, hl, hr⟩
  exact (hdone i (Tree.lt_of_line? hl hend) _ hl).2 d g rfl hr

theorem Cleared.step (hs : Sound t c loc m) (h : Cleared t c.root (max 1 c.maxDepth) m.frames)
    (hstep : Step t m m') : Cleared t c.root (max 1 c.maxDepth) m'.frames := by
  obtain ⟨hroom, hdone, houter⟩ := h
  rcases step_cases hstep with ⟨text, hl, rfl⟩ | ⟨d, target, context, hl, hr, he, rfl⟩ |
    ⟨includer, outer, hl, ho, rfl⟩
  case inl =>
    refine ⟨hroom, fun i hi line hl' => ?_, houter⟩
    rcases Nat.lt_succ_iff_lt_or_eq.mp hi with hlt | rfl
    · exact hdone i hlt line hl'
    · obtain rfl := Option.some.inj (hl.symm.trans hl')
      exact ⟨trivial, fun _ _ hd => Line.noConfusion hd⟩
  case inr.inl =>
    obtain ⟨_, hdepth, _⟩ := Context.of_enter_some he
    rw [hs.depth, hs.maxDepth] at hdepth
    refine ⟨?_, fun i hi => absurd hi (Nat.not_lt_zero i), hroom, hdone, houter⟩
    exact Nat.lt_of_lt_of_le hdepth (Nat.le_max_right 1 c.maxDepth)
  case inr.inr =>
    have hfine := Cleared.fine ⟨hroom, hdone, houter⟩ hl
    have hlinked := hs.linked
    rw [State.frames, ho] at hlinked
    rw [ho] at houter hfine
    obtain ⟨hroom', hdone', houter'⟩ := houter
    obtain ⟨d, hasks, htarget⟩ := (List.isChain_cons_cons.mp hlinked).1
    refine ⟨hroom', fun i hi line hl' => ?_, houter'⟩
    rcases Nat.lt_succ_iff_lt_or_eq.mp hi with hlt | rfl
    · exact hdone' i hlt line hl'
    · obtain rfl := Option.some.inj (hasks.symm.trans hl')
      refine ⟨⟨_, htarget⟩, fun d' target hd hr => ?_⟩
      cases hd
      cases htarget.symm.trans hr
      exact hfine

theorem Cleared.run {source : String} (hc : c.Fresh)
    (hr : Source.resolve t c.root source = .ok loc) (hrun : Run t (start c loc) m) :
    Cleared t c.root (max 1 c.maxDepth) m.frames := by
  induction hrun with
  | refl => exact ⟨Nat.le_max_left 1 c.maxDepth, fun i hi => absurd hi (Nat.not_lt_zero i), trivial⟩
  | tail hrun hs ih => exact ih.step (Sound.of_run hc hr hrun) hs

/-- In the other direction, the room that the source needs is left to the files that it includes. -/
theorem fine_of_linked {f : Frame} {outer : List Frame} (h : Fine t root n loc)
    (hl : (f :: outer).IsChain (Asks t root))
    (hb : ((f :: outer).map (·.file.loc)).getLast? = some loc) :
    Fine t root (n - outer.length) f.file.loc := by
  induction outer generalizing f with
  | nil =>
    obtain rfl := Option.some.inj hb
    exact h
  | cons g outer ih =>
    obtain ⟨hasks, hl⟩ := List.isChain_cons_cons.mp hl
    exact (ih hl hb).included hasks.includes

/-- A walk over a fine source never comes to a line that cannot be processed. -/
theorem Sound.not_error (hc : c.Fresh) (h : Sound t c loc m)
    (hf : Fine t c.root (max 1 c.maxDepth) loc) (failure : Failure) :
    Traversal.step t m ≠ .error failure := by
  have htop := fine_of_linked hf h.linked h.bottom
  intro hstep
  unfold Traversal.step at hstep
  split at hstep
  · split at hstep <;> cases hstep
  · rename_i hl
    exact htop.passable hl
  · rename_i hl
    exact htop.passable hl
  · cases hstep
  · rename_i d hl
    obtain ⟨target, hr⟩ := htop.passable hl
    have htarget := htop.included ⟨m.top.done, d, hl, hr⟩
    have hopen : m.context.isOpen target.path = false := by
      rw [Bool.eq_false_iff, ne_eq, h.isOpen_iff (Source.plain_of_resolve hc.absolute hr)]
      intro ho
      exact htarget.acyclic (.tail' (h.reaches ho) ⟨m.top.done, d, hl, hr⟩)
    have hroom : ¬ c.maxDepth ≤ m.outer.length + 1 := by
      have := htarget.pos
      omega
    have hdepth : ¬ m.context.maxDepth ≤ m.context.depth := by rwa [h.depth, h.maxDepth]
    simp [h.root, hr, Context.enter_some, hopen, hdepth] at hstep

end Traversal

open Traversal in
/-- An expansion of a fresh source succeeds if the source resolves and is expandable, and only then. -/
theorem expand_ok_iff {σ : Type} {o : Output σ} {t : Tree} {config : Config} {c : Context}
    {source : String} {out : σ} (ho : ∀ out, o.tree out = t) (hw : o.TakesAll out)
    (hc : Context.start t config = .ok c) :
    (∃ s, expand o source { out, context := c } = .ok () s) ↔
      ∃ loc, Source.resolve t c.root source = .ok loc ∧
        Expandable t c.root (max 1 config.maxDepth) loc := by
  obtain ⟨hfresh, hdepth⟩ := Context.fresh_of_start hc
  obtain ⟨takes, hout, hw⟩ := hw
  rw [← hdepth]
  cases hr : Source.resolve t c.root source with
  | error failure =>
    have hx := expand_of_unresolved (o := o) (s := { out, context := c }) (ho out ▸ hr)
    simp [hx]
  | ok loc =>
    have hends := expand_ends (s := { out, context := c }) (Output.serves_of_takes ho hw c.root)
      hout (by rw [ho]) hr (fun _ _ => trivial)
    constructor
    · rintro ⟨s, hx⟩
      rw [hx] at hends
      obtain ⟨m, hrun, hend, houter, _⟩ := hends
      refine ⟨loc, rfl, ?_⟩
      have hfine := (Cleared.run hfresh hr hrun).fine hend
      rw [houter, (Sound.of_run hfresh hr hrun).source_loc houter] at hfine
      exact hfine.expandable
    · rintro ⟨loc', hloc, hexpandable⟩
      cases hloc
      cases hx : expand o source { out, context := c } with
      | ok u s => exact ⟨s, rfl⟩
      | error failure s =>
        rw [hx] at hends
        obtain ⟨m, hrun, _, hstuck⟩ := hends
        have hstep := (hstuck.resolve_right And.right).1
        have hs := Sound.of_run hfresh hr hrun
        exact absurd hstep (hs.not_error hfresh hexpandable.fine failure)

theorem Sink.takesAll (t : Tree) {s : Sink} (h : s.room = none) : (Sink.output t).TakesAll s := by
  refine ⟨fun s => s.room = none, h, fun s line hs => ?_⟩
  change s.room = none at hs
  simp only [output, write, hs]
  exact ⟨_, rfl, rfl⟩

/-- It does no harm that a file is included twice. -/
theorem expandable_sample : Expandable .sample ⟨"/s"⟩ 3 ["s", "main"] := by
  let c : Context := { root := ⟨"/s"⟩, maxDepth := 3 }
  have hc : Context.start .sample { root := ⟨"/s"⟩, maxDepth := 3 } = .ok c := by decide +kernel
  have hr : Source.resolve .sample ⟨"/s"⟩ "main" = .ok ["s", "main"] := by decide +kernel
  have hok : (result? (expand (Sink.output .sample) "main" { out := {}, context := c })).any
      (fun _ => true) = true := by decide +kernel
  obtain ⟨u, s, hx, _⟩ := of_any_result? hok
  obtain ⟨loc, hloc, he⟩ := (expand_ok_iff (fun _ => rfl) (Sink.takesAll .sample rfl) hc).mp ⟨s, hx⟩
  cases hr.symm.trans hloc
  exact he

end GlslFlatten
