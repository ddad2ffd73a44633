import GlslFlatten.Proofs.OpenFiles
import GlslFlatten.Proofs.TreeChange

/-!
Trees that are the same but for some files, which may be missing and may hold anything. A walk that
never asks for one of these files is the same in all of them.
-/

namespace GlslFlatten

namespace Tree

/-- Nothing is there, or a regular file. -/
def Free (t : Tree) (loc : Location) : Prop := t.get? loc = none ∨ t.isRegular loc = true

/-- The same tree, whatever files there are at `outs`, and whatever they hold. A file that the system
refuses to open is the same in both. -/
structure SameBut (outs : Location → Prop) (t t' : Tree) : Prop where
  workdir : t'.workdir = t.workdir
  foreign : t'.foreign = t.foreign
  others : ∀ loc, ¬ outs loc → t'.get? loc = t.get? loc
  before : ∀ loc, outs loc → t.Free loc
  after : ∀ loc, outs loc → t'.Free loc
  refused : ∀ loc, outs loc → ∀ e, t'.get? loc = some (.sealed e) ↔ t.get? loc = some (.sealed e)

/-- What can be left where something was to be written: a text, or the file that could not be
opened. -/
inductive Written (t : Tree) (loc : Location) : Entry → Prop
  | text (bytes : List UInt8) : (∀ e, t.get? loc ≠ some (.sealed e)) → Written t loc (.file bytes)
  | refused (e : IoError) : t.get? loc = some (.sealed e) → Written t loc (.sealed e)

variable {outs : Location → Prop} {t t' t'' : Tree} {loc : Location}

theorem Written.isRegular {e : Entry} (h : t.Written loc e) : e.isRegular = true := by
  cases h <;> rfl

theorem Written.sealed_iff {e : Entry} (h : t.Written loc e) (refusal : IoError) :
    e = .sealed refusal ↔ t.get? loc = some (.sealed refusal) := by
  cases h with
  | text bytes hopen => exact iff_of_false (by simp) (hopen refusal)
  | refused e he => simp [he]

namespace Free

theorem not_directory (h : t.Free loc) : t.isDirectory loc = false := by
  rcases h with hn | hregular
  · simp [isDirectory, hn]
  · exact Bool.eq_false_iff.mpr (not_isDirectory_of_isRegular hregular)

theorem not_link (h : t.Free loc) (target : String) : t.get? loc ≠ some (.link target) := by
  intro hl
  rcases h with hn | hregular
  · rw [hn] at hl
    cases hl
  · simp [Tree.isRegular, hl, Entry.isRegular] at hregular

end Free

namespace SameBut

theorem refl (h : ∀ loc, outs loc → t.Free loc) : t.SameBut outs t :=
  ⟨rfl, rfl, fun _ _ => rfl, h, h, fun _ _ _ => Iff.rfl⟩

theorem symm (h : t.SameBut outs t') : t'.SameBut outs t where
  workdir := h.workdir.symm
  foreign := h.foreign.symm
  others := fun loc ho => (h.others loc ho).symm
  before := h.after
  after := h.before
  refused := fun loc ho e => (h.refused loc ho e).symm

theorem trans (h : t.SameBut outs t') (h' : t'.SameBut outs t'') : t.SameBut outs t'' where
  workdir := h'.workdir.trans h.workdir
  foreign := h'.foreign.trans h.foreign
  others := fun loc ho => (h'.others loc ho).trans (h.others loc ho)
  before := h.before
  after := h'.after
  refused := fun loc ho e => (h'.refused loc ho e).trans (h.refused loc ho e)

theorem leafChange (h : t.SameBut outs t') : t.LeafChange t' outs where
  others := h.others
  not_directory := fun loc ho => (h.after loc ho).not_directory
  not_link := fun loc ho => (h.after loc ho).not_link

theorem isDirectory (h : t.SameBut outs t') (hd : t.isDirectory loc = true) :
    t'.isDirectory loc = true := h.symm.leafChange.isDirectory hd

theorem not_outs_of_isDirectory (h : t.SameBut outs t') (hd : t.isDirectory loc = true) :
    ¬ outs loc := by
  intro ho
  rw [(h.before loc ho).not_directory] at hd
  cases hd

theorem finds (h : t.SameBut outs t') {aim : Aim} {p : Path} (ho : ¬ outs loc)
    (hf : Finds t aim p loc) : Finds t' aim p loc := by
  rw [Finds, ← h.workdir] at hf
  exact h.symm.leafChange.leads ho hf

theorem locate (h : t.SameBut outs t') {p : Path} (ho : ¬ outs loc) (hl : t.locate p = .ok loc) :
    t'.locate p = .ok loc := by
  obtain ⟨hc, hfinds⟩ := locate_eq_ok_iff.mp hl
  exact locate_eq_ok_iff.mpr ⟨hc, h.finds ho hfinds⟩

theorem realPath (h : t.SameBut outs t') {p : Path} (ho : ¬ outs loc) (hp : t.realPath p = .ok loc) :
    t'.realPath p = .ok loc := by
  obtain ⟨hc, hfinds⟩ := realPath_eq_ok_iff.mp hp
  exact realPath_eq_ok_iff.mpr ⟨hc, h.finds ho hfinds⟩

theorem isRegular (h : t.SameBut outs t') (ho : ¬ outs loc) : t'.isRegular loc = t.isRegular loc := by
  rw [Tree.isRegular, h.others loc ho, ← Tree.isRegular]

theorem load (h : t.SameBut outs t') (ho : ¬ outs loc) : t'.load loc = t.load loc := by
  rw [Tree.load, h.others loc ho, ← Tree.load]

/-- One of the files has been written. -/
theorem replace (h : t.SameBut outs t') (hworkdir : t''.workdir = t'.workdir)
    (hforeign : t''.foreign = t'.foreign)
    (hothers : ∀ other, other ≠ loc → t''.get? other = t'.get? other) (ho : outs loc)
    {e : Entry} (hwritten : t.Written loc e) (he : t''.get? loc = some e) : t.SameBut outs t'' where
  workdir := hworkdir.trans h.workdir
  foreign := hforeign.trans h.foreign
  others := by
    intro other hother
    have hloc : other ≠ loc := fun he => hother (he ▸ ho)
    rw [hothers other hloc, h.others other hother]
  before := h.before
  after := by
    intro other hother
    by_cases hloc : other = loc
    · right
      simp only [Tree.isRegular, hloc, he, Option.any_some, hwritten.isRegular]
    · rw [Free, Tree.isRegular, hothers other hloc]
      exact h.after other hother
  refused := by
    intro other hother refusal
    by_cases hloc : other = loc
    · rw [hloc, he, Option.some.injEq]
      exact hwritten.sealed_iff refusal
    · rw [hothers other hloc]
      exact h.refused other hother refusal

theorem put (h : t.SameBut outs t') (ho : outs loc) (hne : loc ≠ [])
    (hopen : ∀ e, t.get? loc ≠ some (.sealed e)) (content : List UInt8) :
    t.SameBut outs (t'.put loc (.file content)) :=
  h.replace rfl rfl (fun _ hother => get?_put_of_ne t' hother _) ho (.text content hopen)
    (get?_put_self t' hne _)

end SameBut

/-- The path leads to none of the files at `outs`, and would not if they were there. -/
def Avoids (outs : Location → Prop) (t : Tree) (root : Path) (path : String) : Prop :=
  ∀ t', t.SameBut outs t' → ∀ loc, t'.locate (Source.underRoot root path) = .ok loc → ¬ outs loc

namespace SameBut

variable {root : Path} {path : String}

theorem isFile (h : t.SameBut outs t') (ha : t.Avoids outs root path)
    (hf : t.isFile (Source.underRoot root path) = true) :
    t'.isFile (Source.underRoot root path) = true := by
  obtain ⟨loc, hl, hregular⟩ := isFile_iff.mp hf
  have ho := ha t (.refl h.before) loc hl
  exact isFile_iff.mpr ⟨loc, h.locate ho hl, h.isRegular ho ▸ hregular⟩

theorem avoids (h : t.SameBut outs t') (ha : t.Avoids outs root path) : t'.Avoids outs root path :=
  fun t'' hs => ha t'' (h.trans hs)

/-- What the path means is the same, and so is what is wrong with it. -/
theorem resolve_eq (h : t.SameBut outs t') (ha : t.Avoids outs root path) :
    Source.resolve t' root path = Source.resolve t root path := by
  have hresolve : ∀ {t t' loc}, t.SameBut outs t' → t.Avoids outs root path →
      Source.resolve t root path = .ok loc → Source.resolve t' root path = .ok loc := by
    intro t t' loc h ha hr
    have ho := ha t (.refl h.before) loc (Source.locate_of_resolve hr)
    obtain ⟨hc, hregular, hfinds⟩ := Source.resolve_eq_ok_iff.mp hr
    exact Source.resolve_eq_ok_iff.mpr ⟨hc, h.isRegular ho ▸ hregular, h.finds ho hfinds⟩
  cases hr : Source.resolve t root path with
  | ok loc => exact hresolve h ha hr
  | error failure =>
    cases hr' : Source.resolve t' root path with
    | ok loc =>
      have hback := hresolve h.symm (h.avoids ha) hr'
      rw [hr] at hback
      cases hback
    | error failure' =>
      rcases Source.resolve_error hr with ⟨hfile, rfl⟩ | ⟨hfile, _, rfl⟩ <;>
        rcases Source.resolve_error hr' with ⟨hfile', rfl⟩ | ⟨hfile', _, rfl⟩
      · rfl
      · rw [h.symm.isFile (h.avoids ha) hfile'] at hfile
        cases hfile
      · rw [h.isFile ha hfile] at hfile'
        cases hfile'
      · rfl

end SameBut

end Tree

namespace Traversal

variable {outs : Location → Prop} {t t' : Tree} {m m₀ m₁ m₂ : State}

/-- A walk that comes to an end comes to no other one. -/
theorem end_unique (h₁ : Run t m m₁) (h₂ : Run t m m₂) (hend₁ : ∀ next, ¬ Step t m₁ next)
    (hend₂ : ∀ next, ¬ Step t m₂ next) : m₁ = m₂ := by
  induction h₁ using Relation.ReflTransGen.head_induction_on with
  | refl =>
    rcases Relation.ReflTransGen.cases_head h₂ with rfl | ⟨next, hs, _⟩
    · rfl
    · exact absurd hs (hend₁ next)
  | head hs _ ih =>
    rcases Relation.ReflTransGen.cases_head h₂ with rfl | ⟨next, hs', hrun⟩
    · exact absurd hs (hend₂ _)
    · exact ih (hs'.unique hs ▸ hrun)

/-- The walk from `m₀` is not in the files at `outs`, and none of its directives asks for them. -/
structure KeepsAway (outs : Location → Prop) (t : Tree) (m₀ : State) : Prop where
  opened : ∀ loc ∈ m₀.opened, ¬ outs loc
  met : ∀ m, Run t m₀ m → ∀ d, m.line? t = some (.directive d) → t.Avoids outs m.context.root d.path

namespace KeepsAway

theorem not_outs (h : KeepsAway outs t m₀) (hfree : ∀ loc, outs loc → t.Free loc)
    (hrun : Run t m₀ m) : ∀ loc ∈ m.opened, ¬ outs loc := by
  induction hrun with
  | refl => exact h.opened
  | @tail m m' hrun hs ih =>
    rcases step_cases hs with ⟨text, hl, rfl⟩ | ⟨d, loc, context, hl, hr, he, rfl⟩ |
      ⟨includer, outer, hl, ho, rfl⟩
    · exact ih
    · rw [opened_openFile]
      have ho := h.met m hrun d hl t (.refl hfree) loc (Source.locate_of_resolve hr)
      exact List.forall_mem_cons.mpr ⟨ho, ih⟩
    · have hopened : m.opened = m.top.file.loc :: (m.resume includer outer).opened := by
        simp [State.opened, State.frames, ho, State.resume, Frame.next]
      exact (List.forall_mem_cons.mp (hopened ▸ ih)).2

theorem not_outs_top (h : KeepsAway outs t m₀) (hfree : ∀ loc, outs loc → t.Free loc)
    (hrun : Run t m₀ m) : ¬ outs m.top.file.loc :=
  h.not_outs hfree hrun _ (by simp [State.opened, State.frames])

/-- In the other tree the walk does the same from every point that it comes to. -/
theorem step_eq (h : KeepsAway outs t m₀) (hs : t.SameBut outs t') (hrun : Run t m₀ m) :
    step t' m = step t m := by
  have hline : m.line? t' = m.line? t := by
    have hlines : t'.linesOf m.top.file.loc = t.linesOf m.top.file.loc := by
      rw [Tree.linesOf, hs.load (h.not_outs_top hs.before hrun), ← Tree.linesOf]
    rw [State.line?, Tree.line?, hlines, ← Tree.line?, ← State.line?]
  unfold step
  rw [hline]
  cases hl : m.line? t with
  | none => rfl
  | some line =>
    cases line with
    | directive d => simp only [hs.resolve_eq (h.met m hrun d hl)]
    | _ => rfl

theorem run_iff (h : KeepsAway outs t m₀) (hs : t.SameBut outs t') : Run t' m₀ m ↔ Run t m₀ m := by
  constructor
  · intro hrun
    induction hrun with
    | refl => exact .refl
    | tail _ hstep ih => exact ih.tail ((h.step_eq hs ih).symm.trans hstep)
  · intro hrun
    induction hrun with
    | refl => exact .refl
    | tail hrun hstep ih => exact ih.tail ((h.step_eq hs hrun).trans hstep)

end KeepsAway

end Traversal

end GlslFlatten
