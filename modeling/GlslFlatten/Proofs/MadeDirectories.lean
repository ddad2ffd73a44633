import GlslFlatten.Proofs.Discovery
import GlslFlatten.Proofs.OutputPaths
import GlslFlatten.Proofs.TreeGrowth

/-!
Trees with directories that have been made. The path of a made directory leads to it, and where a path
leads to a directory already, nothing is made. The tree stays well-formed.
-/

namespace GlslFlatten

theorem Path.segments_ne_nil (p : Path) : p.segments ≠ [] := by
  simp [segments, Text.splitAt, Text.pieces_ne_nil]

namespace Tree

variable {t t' : Tree} {p : Path} {aim : Aim} {n : Nat} {loc dir : Location}

theorem Distinct.put (h : t.Distinct) (loc : Location) (e : Entry) : (t.put loc e).Distinct := by
  refine ⟨List.nodup_cons.mpr ⟨fun hm => ?_, h.entries.sublist (List.filter_sublist.map _)⟩, h.foreign⟩
  obtain ⟨x, hx, hloc⟩ := List.mem_map.mp hm
  simpa [hloc] using (List.mem_filter.mp hx).2

structure WellFormed (t : Tree) : Prop where
  plain : t.Plain
  distinct : t.Distinct
  /-- Entries are in directories. -/
  grounded : ∀ loc e, t.get? loc = some e → t.isDirectory loc.dropLast = true

namespace WellFormed

/-- The directories above an entry. -/
theorem isDirectory_of_prefix (h : t.WellFormed) {e : Entry} (he : t.get? loc = some e)
    {above : Location} (hp : above <+: loc) (hne : above ≠ loc) : t.isDirectory above = true := by
  obtain ⟨below, rfl⟩ := hp
  induction below using List.reverseRecOn generalizing e with
  | nil => exact absurd (List.append_nil above).symm hne
  | append_singleton below s ih =>
    have hd := h.grounded _ _ he
    rw [← List.append_assoc, List.dropLast_concat] at hd
    by_cases hbelow : above = above ++ below
    · rwa [← hbelow] at hd
    · exact ih (of_decide_eq_true hd) hbelow

theorem put_directory (h : t.WellFormed) {name : String} (hd : t.isDirectory dir = true)
    (hname : PlainName name) : (t.put (dir ++ [name]) .directory).WellFormed := by
  have hself := t.get?_put_self (List.concat_ne_nil name dir) .directory
  have hkept : ∀ {loc}, t.isDirectory loc = true →
      (t.put (dir ++ [name]) .directory).isDirectory loc = true := by
    intro loc hloc
    by_cases hl : loc = dir ++ [name]
    · rw [hl, isDirectory, hself, decide_eq_true rfl]
    · rwa [isDirectory, get?_put_of_ne t hl, ← isDirectory]
  refine ⟨fun loc e he => ?_, h.distinct.put _ _, fun loc e he => ?_⟩
  · by_cases hl : loc = dir ++ [name]
    · exact hl ▸ Location.Plain.concat (h.plain _ _ (of_decide_eq_true hd)) hname
    · rw [get?_put_of_ne t hl] at he
      exact h.plain loc e he
  · by_cases hl : loc = dir ++ [name]
    · rw [hl, List.dropLast_concat]
      exact hkept hd
    · rw [get?_put_of_ne t hl] at he
      exact hkept (h.grounded loc e he)

end WellFormed

theorem LastName.plainName {front blanks : List String} {name : String}
    (h : LastName p front name blanks) (hdot : name ≠ ".") (hup : name ≠ "..") : PlainName name := by
  refine ⟨by simp [Path.skipped, h.named, hdot], hup, Path.slash_not_mem_segments (p := p) ?_⟩
  rw [h.segments]
  simp

theorem WellFormed.makeDirs (h : t.WellFormed) (p : Path) : (t.makeDirs p).2.WellFormed := by
  refine makeLineage_induct (fun q _ t t' ht hm => ?_) h
  obtain ⟨front, name, blanks, dir, hlast, hdot, hup, _, hd, _, rfl⟩ := makeDir_cases hm
  exact ht.put_directory hd (hlast.plainName hdot hup)

theorem LastName.skipped_of_mem {front blanks : List String} {name : String}
    (h : LastName p front name blanks) : ∀ s ∈ blanks, Path.skipped s = true := by
  intro s hs
  rw [h.blank s hs]
  decide

/-- The path of a directory that has been made leads to it. -/
theorem isDirectory_of_makeDir (h : t.makeDir p = .ok t') (hl : t'.locate p = .ok dir) :
    t'.isDirectory dir = true := by
  have hextends := makeDir_extends h
  obtain ⟨front, name, blanks, parent, hlast, hdot, hup, hfront, hd, _, rfl⟩ := makeDir_cases h
  have hself := t.get?_put_self (List.concat_ne_nil name parent) .directory
  obtain ⟨_, hleads⟩ := locate_eq_ok_iff.mp hl
  rw [Finds, hlast.segments] at hleads
  obtain ⟨m, mid, hmid, hrest⟩ := hleads.split (by simp)
  obtain rfl : mid = parent := Found.entry.inj (hmid.unique (hextends.leads hfront (by simp)))
  cases hrest with
  | skip _ hskip _ => exact absurd hskip (by simp [(hlast.plainName hdot hup).1])
  | up _ _ => exact absurd rfl hup
  | link _ hlink _ => simp [hself] at hlink
  | into _ _ _ hblanks =>
    obtain rfl := Found.entry.inj (hblanks.eq_of_skipped hlast.skipped_of_mem)
    rw [isDirectory, hself, decide_eq_true rfl]

theorem isDirectory_of_isDir (h : t.isDir p = true) (hl : t.locate p = .ok dir) :
    t.isDirectory dir = true := by
  simpa only [isDir, hl] using h

/-- The empty path, and no other one, is left alone. It names nothing. -/
theorem skipped_of_bare (hlead : p.lead = .bare) (hnames : p.names = []) :
    ∀ s ∈ p.segments, Path.skipped s = true := by
  simpa [Path.names, Path.body, hlead] using hnames

theorem isDirectory_of_makeDirs (h : t.makeDirs p = (.ok (), t')) (hl : t'.locate p = .ok dir) :
    t'.isDirectory dir = true := by
  unfold makeDirs lineage makeLineage at h
  split at h
  · rename_i hbare
    cases h
    obtain ⟨_, hleads⟩ := locate_eq_ok_iff.mp hl
    obtain rfl := Found.entry.inj (hleads.eq_of_skipped (skipped_of_bare hbare.1 hbare.2))
    obtain ⟨s, rest, hsegments⟩ := List.exists_cons_of_ne_nil p.segments_ne_nil
    rw [Finds, hsegments] at hleads
    exact hleads.isDirectory_of_cons
  split at h
  · rename_i made hm
    cases h
    exact isDirectory_of_makeDir hm hl
  · split at h
    · cases h
    · split at h
      · rename_i made hm
        cases h
        exact isDirectory_of_makeDir hm hl
      · obtain ⟨hok, rfl⟩ := Prod.mk.inj h
        exact isDirectory_of_isDir (by simpa using hok) hl
  · obtain ⟨hok, rfl⟩ := Prod.mk.inj h
    exact isDirectory_of_isDir (by simpa using hok) hl

/-- No directory is made where a path leads to something. -/
theorem makeDir_of_locate (hl : t.locate p = .ok loc) : t.makeDir p = .error .exists := by
  obtain ⟨hc, hleads⟩ := locate_eq_ok_iff.mp hl
  unfold makeDir
  simp only [hc, bind, Except.bind]
  cases hname : (Text.dropTrailing (fun s => decide (s = "")) p.segments).getLast? with
  | none => rfl
  | some name =>
    obtain ⟨blanks, hlast⟩ := lastName_of_getLast? hname
    rw [Finds, hlast.segments] at hleads
    obtain ⟨m, mid, hfront, hrest⟩ := hleads.split (by simp)
    simp only [walk_eq_ok_iff.mpr hfront, hrest.isDirectory_of_cons, Bool.not_true,
      Bool.false_eq_true, if_false]
    by_cases hdots : name = "." ∨ name = ".."
    · simp [hdots]
    · obtain ⟨hdot, hup⟩ := not_or.mp hdots
      have hentry : tooLong name = false ∧ (t.get? (mid ++ [name])).isSome = true := by
        cases hrest with
        | skip _ hskip _ => exact absurd hskip (by simp [(hlast.plainName hdot hup).1])
        | up _ _ => exact absurd rfl hup
        | link ha hlink _ => exact ⟨ha.short, by simp [hlink]⟩
        | into ha he _ _ => exact ⟨ha.short, by simp [he]⟩
      simp [hdot, hup, hentry.1, hentry.2]

theorem makeDirs_of_isDirectory (hl : t.locate p = .ok dir) (hd : t.isDirectory dir = true) :
    t.makeDirs p = (.ok (), t) := by
  unfold makeDirs lineage makeLineage
  split
  · rfl
  · simp only [makeDir_of_locate hl, isDir, hl, hd, if_true]

end Tree

end GlslFlatten
