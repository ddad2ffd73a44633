import GlslFlatten.Context
import GlslFlatten.Proofs.Walking
import Mathlib.Data.List.Basic

/-!
Locations that a walk finds. Their names are plain, so a location and the text of its path determine
each other.
-/

namespace GlslFlatten

open Text

/-- A name that is a segment by itself and leads one level down. -/
def PlainName (s : String) : Prop := Path.skipped s = false ∧ s ≠ ".." ∧ '/' ∉ s.toList

def Location.Plain (loc : Location) : Prop := ∀ s ∈ loc, PlainName s

theorem Path.slash_not_mem_segments {p : Path} {s : String} (h : s ∈ p.segments) :
    '/' ∉ s.toList := by
  obtain ⟨cs, hc, rfl⟩ := List.mem_map.mp h
  simpa using not_mem_of_mem_pieces hc

theorem Path.head_segments_of_isAbsolute {p : Path} (h : p.isAbsolute = true) :
    p.segments.head? = some "" := by
  obtain ⟨cs, hcs⟩ := List.head?_eq_some_iff.mp (of_decide_eq_true h)
  simp [segments, splitAt, hcs, pieces]

/-- The lead of a path is no segment that counts. -/
theorem Path.names_eq_filter (p : Path) : p.names = p.segments.filter (!skipped ·) := by
  have htail : ∀ s, p.segments.head? = some s → skipped s = true →
      p.segments.tail.filter (!skipped ·) = p.segments.filter (!skipped ·) := by
    intro s hs hskip
    obtain ⟨rest, hrest⟩ := List.head?_eq_some_iff.mp hs
    simp [hrest, hskip]
  unfold names body lead
  split
  · rfl
  · rename_i hlead
    split at hlead
    · rename_i habsolute
      exact htail "" (head_segments_of_isAbsolute habsolute) skipped_empty
    · split at hlead
      · rename_i hdot
        exact htail "." hdot (by simp [skipped])
      · exact absurd rfl hlead

theorem Path.text_ne_of_isAbsolute {p : Path} (h : p.isAbsolute = true) : p.text ≠ "" := by
  intro he
  simp [isAbsolute, he] at h

theorem Path.isAbsolute_join {p : Path} (h : p.isAbsolute = true) (q : Path) :
    (p.join q).isAbsolute = true := by
  unfold join
  split
  · rename_i hq
    rcases Bool.or_eq_true _ _ ▸ hq with hq | hq
    · exact hq
    · rw [isAbsolute, of_decide_eq_true hq] at h
      cases h
  · have hne : p.text.toList ≠ [] := by simpa using text_ne_of_isAbsolute h
    split <;> simpa [isAbsolute, List.head?_append_of_ne_nil _ hne] using h

namespace Location

theorem isAbsolute_path (loc : Location) : loc.path.isAbsolute = true := by
  simp [path, Path.isAbsolute]

theorem lead_path (loc : Location) : loc.path.lead = .top := by
  simp [Path.lead, isAbsolute_path]

theorem segments_path {loc : Location} (h : loc.Plain) (hne : loc ≠ []) :
    loc.path.segments = "" :: loc := by
  have hcut : loc.path.segments = "" :: splitAt '/' ("/".intercalate loc) := by
    simp [Path.segments, path, splitAt, pieces]
  rw [hcut, splitAt_intercalate (fun s hs => (h s hs).2.2) hne]

theorem body_path {loc : Location} (h : loc.Plain) (hne : loc ≠ []) : loc.path.body = loc := by
  rw [Path.body, lead_path, segments_path h hne, List.tail_cons]

theorem names_path {loc : Location} (h : loc.Plain) : loc.path.names = loc := by
  by_cases hne : loc = []
  · subst hne
    decide +kernel
  · rw [Path.names, body_path h hne]
    apply List.filter_eq_self.mpr
    intro s hs
    simp [(h s hs).1]

/-- Plain locations have the same path only if they are equal. -/
theorem same_path_iff {loc other : Location} (h : loc.Plain) (ho : other.Plain) :
    loc.path.same other.path = true ↔ loc = other := by
  rw [Path.same_iff, lead_path, lead_path, names_path h, names_path ho]
  simp

theorem path_injective {loc other : Location} (h : loc.Plain) (ho : other.Plain)
    (he : loc.path = other.path) : loc = other :=
  (same_path_iff h ho).mp (he ▸ Path.same_refl _)

theorem Plain.dropLast {loc : Location} (h : loc.Plain) : Plain loc.dropLast :=
  fun s hs => h s (List.dropLast_subset loc hs)

theorem Plain.concat {loc : Location} (h : loc.Plain) {s : String} (hs : PlainName s) :
    Plain (loc ++ [s]) := by
  intro u hu
  rcases List.mem_append.mp hu with hu | hu
  · exact h u hu
  · rw [List.mem_singleton.mp hu]
    exact hs

end Location

namespace Tree

theorem plain_of_leads {t : Tree} {aim : Aim} {links : Nat} {loc found : Location}
    {segments : List String} (hl : loc.Plain) (hs : ∀ s ∈ segments, '/' ∉ s.toList)
    (h : Leads t aim links loc segments (.entry found)) : found.Plain := by
  generalize hf : Found.entry found = entry at h
  induction h with
  | done => exact Found.entry.inj hf ▸ hl
  | skip _ _ _ ih => exact ih hl (List.forall_mem_cons.mp hs).2 hf
  | up _ _ ih => exact ih hl.dropLast (List.forall_mem_cons.mp hs).2 hf
  | vacant _ _ => cases hf
  | link _ _ _ ih =>
    refine ih ?_ (List.forall_mem_append.mpr ⟨?_, (List.forall_mem_cons.mp hs).2⟩) hf
    · unfold startOf
      split
      · simp [Location.Plain]
      · exact hl
    · exact fun _ => Path.slash_not_mem_segments
  | into ha _ _ _ ih =>
    obtain ⟨hname, hrest⟩ := List.forall_mem_cons.mp hs
    exact ih (hl.concat ⟨ha.counts, ha.down, hname⟩) hrest hf

/-- What an absolute path names is plain, wherever relative paths start. -/
theorem plain_of_finds {t : Tree} {aim : Aim} {p : Path} {loc : Location} (hp : p.isAbsolute = true)
    (h : Finds t aim p loc) : loc.Plain := by
  rw [Finds, startOf, if_pos hp] at h
  exact plain_of_leads (by simp [Location.Plain]) (fun s => Path.slash_not_mem_segments) h

end Tree

theorem Except.mapError_eq_ok {α ε ε' : Type} {x : Except ε α} {f : ε → ε'} {a : α} :
    x.mapError f = .ok a ↔ x = .ok a := by
  cases x <;> simp [Except.mapError]

namespace Source

theorem isAbsolute_underRoot {root : Path} (h : root.isAbsolute = true) (path : String) :
    (underRoot root path).isAbsolute = true := by
  simp only [underRoot]
  split <;> exact Path.isAbsolute_join h _

theorem underRoot_of_relative {root : Path} {path : String}
    (h : (Path.mk path).isAbsolute = false) : underRoot root path = root.join ⟨path⟩ := by
  simp [underRoot, h]

variable {t : Tree} {root : Path} {path : String} {loc : Location}

theorem resolve_eq_ok : resolve t root path = .ok loc ↔
    t.isFile (underRoot root path) = true ∧ t.realPath (underRoot root path) = .ok loc := by
  simp only [resolve]
  split
  · rename_i hfile
    rw [Except.mapError_eq_ok, and_iff_right hfile]
  · rename_i hfile
    simp [hfile]

/-- A file is resolved if its path can be opened, and its place be told. -/
theorem resolve_eq_ok_iff : resolve t root path = .ok loc ↔
    Tree.checkText (underRoot root path) = .ok () ∧ t.isRegular loc = true ∧
      Tree.Finds t .resolving (underRoot root path) loc := by
  rw [resolve_eq_ok, Tree.isFile_iff, Tree.realPath_eq_ok_iff]
  constructor
  · rintro ⟨⟨loc', hlocate, hregular⟩, _, hfinds⟩
    obtain ⟨hc, hfinds'⟩ := Tree.locate_eq_ok_iff.mp hlocate
    exact ⟨hc, hfinds'.unique hfinds ▸ hregular, hfinds⟩
  · rintro ⟨hc, hregular, hfinds⟩
    have hlocate := Tree.locate_eq_ok_iff.mpr ⟨hc, hfinds.opening⟩
    exact ⟨⟨loc, hlocate, hregular⟩, Tree.checkName_of_checkText hc, hfinds⟩

theorem locate_of_resolve (h : resolve t root path = .ok loc) :
    t.locate (underRoot root path) = .ok loc := by
  obtain ⟨hc, _, hfinds⟩ := resolve_eq_ok_iff.mp h
  exact Tree.locate_eq_ok_iff.mpr ⟨hc, hfinds.opening⟩

theorem isRegular_of_resolve (h : resolve t root path = .ok loc) : t.isRegular loc = true :=
  (resolve_eq_ok_iff.mp h).2.1

theorem plain_of_resolve (hr : root.isAbsolute = true) (h : resolve t root path = .ok loc) :
    loc.Plain :=
  Tree.plain_of_finds (isAbsolute_underRoot hr path) (resolve_eq_ok_iff.mp h).2.2

/-- There are two ways to fail: there is no such file, or the path of its place is too long. -/
theorem resolve_error {e : Failure} (h : resolve t root path = .error e) :
    let p := underRoot root path
    t.isFile p = false ∧ e = .sourceNotFound p ∨ t.isFile p = true ∧
      t.realPath p = .error .nameTooLong ∧ e = .unlocatable p .nameTooLong := by
  intro p
  simp only [resolve] at h
  split at h
  · rename_i hfile
    obtain ⟨loc, hlocate, _⟩ := Tree.isFile_iff.mp hfile
    rcases Tree.realPath_of_locate hlocate with hreal | hreal
    · rw [hreal] at h
      cases h
    · rw [hreal] at h
      exact .inr ⟨hfile, hreal, (Except.error.inj h).symm⟩
  · rename_i hfile
    exact .inl ⟨Bool.eq_false_iff.mpr hfile, (Except.error.inj h).symm⟩

end Source

end GlslFlatten
