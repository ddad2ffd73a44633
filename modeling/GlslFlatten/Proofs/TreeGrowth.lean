import GlslFlatten.Proofs.TreeChange
import Mathlib.Data.List.DropRight

/-!
Trees that grow. Directories are made where nothing is, so whatever a path leads to it leads to
afterwards as well. A file is created either there or where a path leads to already.
-/

namespace GlslFlatten.Tree

/-- Everything in `t` is in `t'`. -/
structure Extends (t t' : Tree) : Prop where
  workdir : t'.workdir = t.workdir
  entries : ∀ loc e, t.get? loc = some e → t'.get? loc = some e

namespace Extends

variable {t t' t'' : Tree}

theorem refl (t : Tree) : t.Extends t := ⟨rfl, fun _ _ h => h⟩

theorem trans (h : t.Extends t') (h' : t'.Extends t'') : t.Extends t'' :=
  ⟨h'.workdir.trans h.workdir, fun loc e he => h'.entries loc e (h.entries loc e he)⟩

theorem isDirectory (h : t.Extends t') {loc : Location} (hd : t.isDirectory loc = true) :
    t'.isDirectory loc = true := by
  simp only [Tree.isDirectory, decide_eq_true_eq] at hd ⊢
  exact h.entries loc _ hd

theorem admits (h : t.Extends t') {aim : Aim} {loc : Location} {s : String} {e : Entry}
    {rest : List String} (he : t.get? (loc ++ [s]) = some e) (ha : Admits t aim loc s rest) :
    Admits t' aim loc s rest :=
  { ha with
    directory := h.isDirectory ha.directory
    near := inReach_congr (he.trans (h.entries _ _ he).symm) rest ▸ ha.near }

theorem leads (h : t.Extends t') {aim : Aim} {n : Nat} {loc : Location}
    {segments : List String} {found : Found} (hl : Leads t aim n loc segments found)
    (hv : ∀ dir name, found ≠ .vacant dir name) : Leads t' aim n loc segments found := by
  induction hl with
  | done => exact .done
  | skip hd hskip _ ih => exact .skip (h.isDirectory hd) hskip (ih hv)
  | up hd _ ih => exact .up (h.isDirectory hd) (ih hv)
  | vacant _ _ => exact absurd rfl (hv _ _)
  | link ha hl _ ih => exact .link (h.admits hl ha) (h.entries _ _ hl) (ih hv)
  | into ha he hl _ ih => exact .into (h.admits he ha) (h.entries _ _ he) hl (ih hv)

theorem finds (h : t.Extends t') {aim : Aim} {p : Path} {loc : Location} (hf : Finds t aim p loc) :
    Finds t' aim p loc := by
  rw [Finds, h.workdir]
  exact h.leads hf (by simp)

theorem locate (h : t.Extends t') {p : Path} {loc : Location} (hl : t.locate p = .ok loc) :
    t'.locate p = .ok loc := by
  obtain ⟨hc, hfinds⟩ := locate_eq_ok_iff.mp hl
  exact locate_eq_ok_iff.mpr ⟨hc, h.finds hfinds⟩

end Extends

variable {t t' : Tree}

theorem extends_put_of_vacant {loc : Location} (h : t.get? loc = none) (e : Entry) :
    t.Extends (t.put loc e) where
  workdir := rfl
  entries := by
    intro other e' he
    have hne : other ≠ loc := by
      rintro rfl
      rw [h] at he
      cases he
    exact (get?_put_of_ne t hne e).trans he

/-- The last segment of a path but for empty ones, and the segments before and behind it. -/
structure LastName (p : Path) (front : List String) (name : String) (blanks : List String) : Prop where
  segments : p.segments = front ++ name :: blanks
  named : name ≠ ""
  blank : ∀ s ∈ blanks, s = ""

theorem lastName_of_getLast? {p : Path} {name : String}
    (h : (Text.dropTrailing (· = "") p.segments).getLast? = some name) :
    ∃ blanks, LastName p (Text.dropTrailing (· = "") p.segments).dropLast name blanks := by
  let blank : String → Bool := (· = "")
  have hne : p.segments.rdropWhile blank ≠ [] := fun he => by
    rw [show Text.dropTrailing (· = "") p.segments = [] from he] at h
    cases h
  have hlast : (p.segments.rdropWhile blank).getLast hne = name :=
    Option.some.inj ((List.getLast?_eq_some_getLast hne).symm.trans h)
  refine ⟨p.segments.rtakeWhile blank, ?_, ?_, fun s hs => ?_⟩
  · have hsplit := List.rdropWhile_append_rtakeWhile (p := blank) (l := p.segments)
    rw [← List.dropLast_append_getLast hne, hlast, List.append_assoc] at hsplit
    exact hsplit.symm
  · have hnot := List.rdropWhile_last_not blank p.segments hne
    rw [hlast] at hnot
    simpa [blank] using hnot
  · simpa [blank] using List.mem_rtakeWhile_imp hs

/-- A directory is made in a directory, under the last name of the path, where nothing is. -/
theorem makeDir_cases {p : Path} (h : t.makeDir p = .ok t') : ∃ front name blanks dir,
    LastName p front name blanks ∧ name ≠ "." ∧ name ≠ ".." ∧
      Leads t .opening linkLimit (startOf t.workdir p) front (.entry dir) ∧
      t.isDirectory dir = true ∧ t.get? (dir ++ [name]) = none ∧
      t' = t.put (dir ++ [name]) .directory := by
  unfold makeDir at h
  cases hc : checkText p with
  | error e => simp [hc, bind, Except.bind] at h
  | ok _ =>
    simp only [hc, bind, Except.bind] at h
    split at h
    · cases h
    · rename_i name hname
      obtain ⟨blanks, hlast⟩ := lastName_of_getLast? hname
      split at h
      · cases h
      · rename_i found hw
        cases found with
        | vacant dir s => cases h
        | entry dir =>
          simp only at h
          split at h
          · cases h
          rename_i hdir
          split at h
          · cases h
          rename_i hdots
          split at h
          · cases h
          split at h
          · cases h
          · rename_i hvacant
            simp only [Bool.or_eq_true, decide_eq_true_eq, not_or] at hdots
            exact ⟨_, name, blanks, dir, hlast, hdots.1, hdots.2, walk_eq_ok_iff.mp hw,
              by simpa using hdir, by simpa using hvacant, (Except.ok.inj h).symm⟩

/-- A directory is made where nothing is, under a name that stands in the path. -/
theorem makeDir_eq_ok {p : Path} (h : t.makeDir p = .ok t') : ∃ segments ⊆ p.segments,
    ∃ dir, ∃ name ∈ p.segments,
      Leads t .opening linkLimit (startOf t.workdir p) segments (.entry dir) ∧
        t.get? (dir ++ [name]) = none ∧ t' = t.put (dir ++ [name]) .directory := by
  obtain ⟨front, name, blanks, dir, hlast, _, _, hleads, _, hvacant, rfl⟩ := makeDir_cases h
  refine ⟨front, fun s hs => ?_, dir, name, ?_, hleads, hvacant, rfl⟩
  all_goals rw [hlast.segments]
  · exact List.mem_append_left _ hs
  · simp

theorem makeDir_extends {p : Path} (h : t.makeDir p = .ok t') : t.Extends t' := by
  obtain ⟨_, _, dir, name, _, _, hv, rfl⟩ := makeDir_eq_ok h
  exact extends_put_of_vacant hv _

/-- What the making of a directory preserves is preserved by the making of several. -/
theorem makeLineage_induct {P : Tree → Prop} {ps : List Path}
    (hmake : ∀ p ∈ ps, ∀ t t', P t → t.makeDir p = .ok t' → P t') (h : P t) :
    P (t.makeLineage ps).2 := by
  induction ps generalizing t with
  | nil => exact h
  | cons p above ih =>
    obtain ⟨hp, habove⟩ := List.forall_mem_cons.mp hmake
    unfold makeLineage
    split
    · exact h
    · split
      · rename_i made hm
        exact hp _ _ h hm
      · have hmade := ih habove h
        split
        · rename_i e t' hl
          rwa [hl] at hmade
        · rename_i t' hl
          rw [hl] at hmade
          split
          · rename_i made hm
            exact hp _ _ hmade hm
          · exact hmade
      · exact h

theorem makeDirs_extends (t : Tree) (p : Path) : t.Extends (t.makeDirs p).2 :=
  makeLineage_induct (fun _ _ _ _ h hm => h.trans (makeDir_extends hm)) (.refl t)

theorem vacant_of_leads {aim : Aim} {n : Nat} {loc dir : Location} {segments : List String}
    {name : String} (h : Leads t aim n loc segments (.vacant dir name)) :
    t.get? (dir ++ [name]) = none := by
  generalize hf : Found.vacant dir name = found at h
  induction h with
  | done => cases hf
  | skip _ _ _ ih => exact ih hf
  | up _ _ ih => exact ih hf
  | vacant _ hv =>
    cases hf
    exact hv
  | link _ _ _ ih => exact ih hf
  | into _ _ _ _ ih => exact ih hf

/-- What is created was not there, or the path has led to it before. -/
theorem locate_or_vacant_of_create {p : Path} {target : Location} {made : Tree}
    (h : t.create p = .ok (target, made)) : t.locate p = .ok target ∨ t.get? target = none := by
  rcases create_cases h with ⟨dir, name, hf, rfl, _⟩ | ⟨hf, _⟩
  · exact .inr (vacant_of_leads (find_eq_ok_iff.mp hf).2)
  · obtain ⟨hc, hleads⟩ := find_eq_ok_iff.mp hf
    exact .inl (locate_eq_ok_iff.mpr ⟨hc, hleads.opening⟩)

end GlslFlatten.Tree
