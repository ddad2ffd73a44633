import GlslFlatten.Tree.Walk

/-!
Walks as a relation. A walk that finds something is a derivation with one rule for each kind of step,
and facts about it are inductions on that derivation.
-/

namespace GlslFlatten.Tree

variable {t : Tree} {aim : Aim}

/-- Whether a place is in reach depends on what stands there. -/
theorem inReach_congr {t' : Tree} {loc : Location} (h : t.get? loc = t'.get? loc)
    (rest : List String) : t.inReach aim loc rest = t'.inReach aim loc rest := by
  simp only [inReach, h]

/-- In the directory at `loc` the name `s`, with `rest` behind it, can be looked up. -/
structure Admits (t : Tree) (aim : Aim) (loc : Location) (s : String) (rest : List String) :
    Prop where
  directory : t.isDirectory loc = true
  counts : Path.skipped s = false
  down : s ≠ ".."
  creatable : (aim = .creating && rest ≠ [] && rest.all (· = "")) = false
  short : tooLong s = false
  near : t.inReach aim (loc ++ [s]) rest = true

/-- From `loc`, with `n` links to follow at most, the segments lead to something. -/
inductive Leads (t : Tree) (aim : Aim) : (n : Nat) → Location → List String → Found → Prop
  | done {n : Nat} {loc : Location} : Leads t aim n loc [] (.entry loc)
  | skip {n : Nat} {loc : Location} {s : String} {rest : List String} {found : Found} :
      t.isDirectory loc = true → Path.skipped s = true → Leads t aim n loc rest found →
      Leads t aim n loc (s :: rest) found
  | up {n : Nat} {loc : Location} {rest : List String} {found : Found} :
      t.isDirectory loc = true → Leads t aim n loc.dropLast rest found →
      Leads t aim n loc (".." :: rest) found
  | vacant {n : Nat} {loc : Location} {s : String} :
      Admits t aim loc s [] → t.get? (loc ++ [s]) = none →
      Leads t aim n loc [s] (.vacant loc s)
  | link {n : Nat} {loc : Location} {s target : String} {rest : List String} {found : Found} :
      Admits t aim loc s rest → t.get? (loc ++ [s]) = some (.link target) →
      Leads t aim n (startOf loc ⟨target⟩) ((Path.mk target).segments ++ rest) found →
      Leads t aim (n + 1) loc (s :: rest) found
  | into {n : Nat} {loc : Location} {s : String} {e : Entry} {rest : List String} {found : Found} :
      Admits t aim loc s rest → t.get? (loc ++ [s]) = some e → (∀ target, e ≠ .link target) →
      Leads t aim n (loc ++ [s]) rest found → Leads t aim n loc (s :: rest) found

/-- What a walk does at a link. -/
def follow (t : Tree) (aim : Aim) :
    (n : Nat) → Location → String → List String → Except IoError Found
  | 0, _, _, _ => .error .tooManyLinks
  | n + 1, dir, target, rest =>
    t.walk aim n (startOf dir ⟨target⟩) ((Path.mk target).segments ++ rest)

theorem walk_eq_walkVia (t : Tree) (aim : Aim) (n : Nat) :
    t.walk aim n = t.walkVia aim (t.follow aim n) := by
  cases n <;> rfl

theorem walkVia_of_admits {f : Location → String → List String → Except IoError Found}
    {loc : Location} {s : String} {rest : List String} (h : Admits t aim loc s rest) :
    t.walkVia aim f loc (s :: rest) = match t.get? (loc ++ [s]) with
      | none => if rest = [] then .ok (.vacant loc s) else .error .missing
      | some (.link target) => f loc target rest
      | some _ => t.walkVia aim f (loc ++ [s]) rest := by
  rw [walkVia]
  refine (if_neg (by simp [h.directory])).trans ?_
  refine (if_neg (Bool.eq_false_iff.mp h.counts)).trans ?_
  refine (if_neg h.down).trans ?_
  refine (if_neg (Bool.eq_false_iff.mp h.creatable)).trans ?_
  exact if_neg (by simp [h.short, h.near])

theorem leads_of_walkVia {f : Location → String → List String → Except IoError Found} {n : Nat}
    {found : Found}
    (hf : ∀ {loc s target rest}, Admits t aim loc s rest →
      t.get? (loc ++ [s]) = some (.link target) → f loc target rest = .ok found →
      Leads t aim n loc (s :: rest) found)
    {loc : Location} {segments : List String} (h : t.walkVia aim f loc segments = .ok found) :
    Leads t aim n loc segments found := by
  induction segments generalizing loc with
  | nil =>
    cases h
    exact .done
  | cons s rest ih =>
    unfold walkVia at h
    split at h
    · cases h
    rename_i hd
    have hd : t.isDirectory loc = true := by simpa using hd
    split at h
    · rename_i hskip
      exact .skip hd hskip (ih h)
    rename_i hskip
    split at h
    · rename_i hup
      subst hup
      exact .up hd (ih h)
    rename_i hup
    split at h
    · cases h
    rename_i hcreate
    split at h
    · cases h
    rename_i hlong
    obtain ⟨hshort, hnear⟩ : tooLong s = false ∧ t.inReach aim (loc ++ [s]) rest = true := by
      simpa using hlong
    have ha : Admits t aim loc s rest :=
      ⟨hd, Bool.eq_false_iff.mpr hskip, hup, Bool.eq_false_iff.mpr hcreate, hshort, hnear⟩
    split at h
    · rename_i hv
      split at h
      · rename_i hrest
        cases h
        exact hrest ▸ .vacant (hrest ▸ ha) hv
      · cases h
    · rename_i target hl
      exact hf ha hl h
    · rename_i e hl he
      exact .into ha he hl (ih h)

theorem leads_of_walk {n : Nat} {loc : Location} {segments : List String} {found : Found}
    (h : t.walk aim n loc segments = .ok found) : Leads t aim n loc segments found := by
  induction n generalizing loc segments with
  | zero => exact leads_of_walkVia (by simp) h
  | succ n ih => exact leads_of_walkVia (fun ha hl hw => .link ha hl (ih hw)) h

theorem walk_eq_ok_iff {n : Nat} {loc : Location} {segments : List String} {found : Found} :
    t.walk aim n loc segments = .ok found ↔ Leads t aim n loc segments found := by
  refine ⟨leads_of_walk, fun h => ?_⟩
  rw [walk_eq_walkVia]
  induction h with
  | done => rfl
  | skip hd hskip _ ih => simpa [walkVia, hd, hskip] using ih
  | up hd _ ih =>
    simpa [walkVia, hd] using ih
  | vacant ha hv => rw [walkVia_of_admits ha, hv, if_pos rfl]
  | link ha hl _ ih =>
    rw [walkVia_of_admits ha, hl]
    simp only
    rw [follow, walk_eq_walkVia]
    exact ih
  | into ha he hl _ ih =>
    rw [walkVia_of_admits ha, he]
    split
    · rename_i hn
      cases hn
    · rename_i target ht
      exact absurd (Option.some.inj ht) (hl target)
    · exact ih

/-- What a path finds, as a derivation. -/
theorem find_eq_ok_iff {p : Path} {found : Found} : t.find aim p = .ok found ↔
    checkText p = .ok () ∧ Leads t aim linkLimit (startOf t.workdir p) p.segments found := by
  rw [find_eq_ok, walk_eq_ok_iff]

/-- From the place where a path starts, its segments lead to an entry. -/
def Finds (t : Tree) (aim : Aim) (p : Path) (loc : Location) : Prop :=
  Leads t aim linkLimit (startOf t.workdir p) p.segments (.entry loc)

theorem locate_eq_ok_iff {p : Path} {loc : Location} :
    t.locate p = .ok loc ↔ checkText p = .ok () ∧ Finds t .opening p loc := by
  rw [locate_eq_ok, find_eq_ok_iff, Finds]

theorem realPath_eq_ok_iff {p : Path} {loc : Location} :
    t.realPath p = .ok loc ↔ checkName p = .ok () ∧ Finds t .resolving p loc := by
  rw [realPath_eq_ok, walk_eq_ok_iff, Finds]

/-- Whatever the aim, opening asks for no more. -/
theorem Admits.opening {loc : Location} {s : String} {rest : List String}
    (h : Admits t aim loc s rest) : Admits t .opening loc s rest where
  directory := h.directory
  counts := h.counts
  down := h.down
  creatable := by simp
  short := h.short
  near := by simp [inReach]

theorem Leads.opening {n : Nat} {loc : Location} {segments : List String} {found : Found}
    (h : Leads t aim n loc segments found) : Leads t .opening n loc segments found := by
  induction h with
  | done => exact .done
  | skip hd hskip _ ih => exact .skip hd hskip ih
  | up hd _ ih => exact .up hd ih
  | vacant ha hv => exact .vacant ha.opening hv
  | link ha hl _ ih => exact .link ha.opening hl ih
  | into ha he hl _ ih => exact .into ha.opening he hl ih

/-- Where a name can be looked up, its place may still be out of reach. -/
theorem Admits.resolving {loc : Location} {s : String} {rest : List String}
    (h : Admits t .opening loc s rest) : Admits t .resolving loc s rest ∨
      ∀ f, t.walkVia .resolving f loc (s :: rest) = .error .nameTooLong := by
  cases hnear : t.inReach .resolving (loc ++ [s]) rest with
  | true => exact .inl { h with creatable := by simp, near := hnear }
  | false =>
    right
    intro f
    rw [walkVia]
    refine (if_neg (by simp [h.directory])).trans ?_
    refine (if_neg (Bool.eq_false_iff.mp h.counts)).trans ?_
    refine (if_neg h.down).trans ?_
    refine (if_neg (by simp)).trans ?_
    exact if_pos (by simp [hnear])

/-- Whatever can be opened has a place, unless the path of that place, or of one on the way, is too
long. -/
theorem Leads.resolving {n : Nat} {loc : Location} {segments : List String} {found : Found}
    (h : Leads t .opening n loc segments found) : t.walk .resolving n loc segments = .ok found ∨
      t.walk .resolving n loc segments = .error .nameTooLong := by
  rw [walk_eq_walkVia]
  induction h with
  | done => exact .inl rfl
  | skip hd hskip _ ih => simpa [walkVia, hd, hskip] using ih
  | up hd _ ih => simpa [walkVia, hd] using ih
  | vacant ha hv =>
    refine ha.resolving.imp (fun ha' => ?_) fun hfar => hfar _
    rw [walkVia_of_admits ha', hv, if_pos rfl]
  | link ha hl _ ih =>
    rcases ha.resolving with ha' | hfar
    · rw [walkVia_of_admits ha', hl]
      simp only
      rw [follow, walk_eq_walkVia]
      exact ih
    · exact .inr (hfar _)
  | into ha he hl _ ih =>
    rcases ha.resolving with ha' | hfar
    · rw [walkVia_of_admits ha', he]
      split
      · rename_i hn
        cases hn
      · rename_i target ht
        exact absurd (Option.some.inj ht) (hl target)
      · exact ih
    · exact .inr (hfar _)

/-- Segments lead to one thing only, whatever the aims. -/
theorem Leads.unique {aim' : Aim} {n : Nat} {loc : Location} {segments : List String}
    {found found' : Found} (h : Leads t aim n loc segments found)
    (h' : Leads t aim' n loc segments found') : found = found' :=
  Except.ok.inj ((walk_eq_ok_iff.mpr h.opening).symm.trans (walk_eq_ok_iff.mpr h'.opening))

theorem Finds.opening {p : Path} {loc : Location} (h : Finds t aim p loc) : Finds t .opening p loc :=
  Leads.opening h

theorem Finds.unique {aim' : Aim} {p : Path} {loc loc' : Location} (h : Finds t aim p loc)
    (h' : Finds t aim' p loc') : loc = loc' := Found.entry.inj (Leads.unique h h')

theorem realPath_of_locate {p : Path} {loc : Location} (h : t.locate p = .ok loc) :
    t.realPath p = .ok loc ∨ t.realPath p = .error .nameTooLong := by
  obtain ⟨hc, hfinds⟩ := locate_eq_ok_iff.mp h
  rw [realPath, checkName_of_checkText hc]
  exact hfinds.resolving.imp (fun hw => by rw [hw]; rfl) fun hw => by rw [hw]; rfl

theorem eq_of_realPath {p : Path} {loc loc' : Location} (h : t.realPath p = .ok loc)
    (hl : t.locate p = .ok loc') : loc = loc' :=
  (realPath_eq_ok_iff.mp h).2.unique (locate_eq_ok_iff.mp hl).2

theorem text_ne_of_checkName {p : Path} (h : checkName p = .ok ()) : p.text ≠ "" := by
  intro he
  simp [checkName, he] at h

theorem isDirectory_top (t : Tree) : t.isDirectory [] = true := by simp [isDirectory, get?]

/-- A walk goes on from directories only. -/
theorem Leads.isDirectory_of_cons {n : Nat} {loc : Location} {s : String} {rest : List String}
    {found : Found} (h : Leads t aim n loc (s :: rest) found) : t.isDirectory loc = true := by
  cases h with
  | skip hd _ _ => exact hd
  | up hd _ => exact hd
  | vacant ha _ => exact ha.directory
  | link ha _ _ => exact ha.directory
  | into ha _ _ _ => exact ha.directory

/-- A segment that names nothing is passed. -/
theorem Leads.of_skipped {n : Nat} {loc : Location} {s : String} {rest : List String} {found : Found}
    (hs : Path.skipped s = true) (h : Leads t aim n loc (s :: rest) found) :
    Leads t aim n loc rest found := by
  cases h with
  | skip _ _ hl => exact hl
  | up _ _ => simp at hs
  | vacant ha _ => simp [ha.counts] at hs
  | link ha _ _ => simp [ha.counts] at hs
  | into ha _ _ _ => simp [ha.counts] at hs

/-- Segments that name nothing lead nowhere else. -/
theorem Leads.eq_of_skipped {n : Nat} {loc : Location} {segments : List String} {found : Found}
    (hs : ∀ s ∈ segments, Path.skipped s = true) (h : Leads t aim n loc segments found) :
    found = .entry loc := by
  induction segments with
  | nil =>
    cases h
    rfl
  | cons s rest ih =>
    obtain ⟨hskip, hrest⟩ := List.forall_mem_cons.mp hs
    exact ih hrest (h.of_skipped hskip)

end GlslFlatten.Tree
