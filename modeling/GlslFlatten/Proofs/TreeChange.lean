import GlslFlatten.Proofs.Locations
import GlslFlatten.Tree.Change

/-!
Trees that differ at one place only. The content of a file has no part in the meaning of a path, and a
file that is created is in the way of no path that leads somewhere else.
-/

namespace GlslFlatten

namespace Tree

/-- The same entries, except that files may differ in their content. -/
structure Alike (t t' : Tree) : Prop where
  workdir : t.workdir = t'.workdir
  entries : ∀ loc, t.get? loc = t'.get? loc ∨
    ∃ content content', t.get? loc = some (.file content) ∧ t'.get? loc = some (.file content')

namespace Alike

variable {t t' : Tree}

theorem isDirectory (h : t.Alike t') (loc : Location) : t.isDirectory loc = t'.isDirectory loc := by
  rcases h.entries loc with he | ⟨content, content', hc, hc'⟩
  · rw [Tree.isDirectory, he, ← Tree.isDirectory]
  · simp [Tree.isDirectory, hc, hc']

theorem isRegular (h : t.Alike t') (loc : Location) : t.isRegular loc = t'.isRegular loc := by
  rcases h.entries loc with he | ⟨content, content', hc, hc'⟩
  · rw [Tree.isRegular, he, ← Tree.isRegular]
  · simp [Tree.isRegular, hc, hc', Entry.isRegular]

theorem inReach (h : t.Alike t') (aim : Aim) (loc : Location) (rest : List String) :
    t.inReach aim loc rest = t'.inReach aim loc rest := by
  rcases h.entries loc with he | ⟨content, content', hc, hc'⟩
  · exact inReach_congr he rest
  · simp [Tree.inReach, hc, hc']

theorem walkVia (h : t.Alike t') (aim : Aim)
    (follow : Location → String → List String → Except IoError Found) (loc : Location)
    (segments : List String) :
    t.walkVia aim follow loc segments = t'.walkVia aim follow loc segments := by
  induction segments generalizing loc with
  | nil => rfl
  | cons s rest ih =>
    unfold Tree.walkVia
    rw [h.isDirectory loc, ih loc, ih loc.dropLast, h.inReach aim]
    rcases h.entries (loc ++ [s]) with he | ⟨content, content', hc, hc'⟩
    · rw [he]
      cases t'.get? (loc ++ [s]) with
      | none => rfl
      | some e => cases e <;> simp only [ih]
    · simp only [hc, hc', ih]

theorem walk (h : t.Alike t') (aim : Aim) (links : Nat) (loc : Location)
    (segments : List String) : t.walk aim links loc segments =
      t'.walk aim links loc segments := by
  induction links generalizing loc segments with
  | zero => exact h.walkVia aim _ loc segments
  | succ n ih =>
    have hfollow : (fun dir target rest => t.walk aim n (startOf dir ⟨target⟩)
        ((Path.mk target).segments ++ rest)) = fun dir target rest =>
        t'.walk aim n (startOf dir ⟨target⟩) ((Path.mk target).segments ++ rest) := by
      funext dir target rest
      exact ih _ _
    rw [Tree.walk, Tree.walk, hfollow]
    exact h.walkVia aim _ loc segments

theorem locate (h : t.Alike t') (p : Path) : t.locate p = t'.locate p := by
  unfold Tree.locate find
  rw [h.workdir]
  simp only [h.walk]

theorem realPath (h : t.Alike t') (p : Path) : t.realPath p = t'.realPath p := by
  unfold Tree.realPath
  rw [h.workdir]
  simp only [h.walk]

theorem isFile (h : t.Alike t') (p : Path) : t.isFile p = t'.isFile p := by
  unfold Tree.isFile
  rw [h.locate]
  cases t'.locate p with
  | error e => rfl
  | ok loc => exact h.isRegular loc

theorem resolve (h : t.Alike t') (root : Path) (path : String) :
    Source.resolve t root path = Source.resolve t' root path := by
  simp only [Source.resolve, h.isFile, h.realPath]

end Alike

section Leaves

variable {t made : Tree}

/-- No path leads on from what is neither a directory nor a link. -/
theorem Leads.eq_of_leaf {aim : Aim} {n : Nat} {loc : Location} {segments : List String}
    {found : Found} (hleaf : t.isDirectory loc = false) (h : Leads t aim n loc segments found) :
    found = .entry loc := by
  have hnot : t.isDirectory loc ≠ true := by simp [hleaf]
  cases h with
  | done => rfl
  | skip hd _ _ => exact absurd hd hnot
  | up hd _ => exact absurd hd hnot
  | vacant ha _ => exact absurd ha.directory hnot
  | link ha _ _ => exact absurd ha.directory hnot
  | into ha _ _ _ => exact absurd ha.directory hnot

/-- The only differences are at `outs`, where `made` has neither directories nor links. -/
structure LeafChange (t made : Tree) (outs : Location → Prop) : Prop where
  others : ∀ loc, ¬ outs loc → made.get? loc = t.get? loc
  not_directory : ∀ loc, outs loc → made.isDirectory loc = false
  not_link : ∀ loc, outs loc → ∀ target, made.get? loc ≠ some (.link target)

namespace LeafChange

variable {outs : Location → Prop}

theorem isDirectory (h : t.LeafChange made outs) {loc : Location} (hd : made.isDirectory loc = true) :
    t.isDirectory loc = true := by
  have hloc : ¬ outs loc := fun ho => by simp [h.not_directory loc ho] at hd
  rwa [Tree.isDirectory, h.others loc hloc, ← Tree.isDirectory] at hd

/-- What is found apart from the change is found without it, too. -/
theorem leads (h : t.LeafChange made outs) {aim : Aim} {n : Nat} {loc found : Location}
    {segments : List String} (hne : ¬ outs found)
    (hl : Leads made aim n loc segments (.entry found)) :
    Leads t aim n loc segments (.entry found) := by
  have hadmits : ∀ {loc s rest}, ¬ outs (loc ++ [s]) → Admits made aim loc s rest →
      Admits t aim loc s rest := fun hchild ha =>
    { ha with
      directory := h.isDirectory ha.directory
      near := inReach_congr (h.others _ hchild) _ ▸ ha.near }
  generalize hf : Found.entry found = entry at hl ⊢
  induction hl with
  | done => exact .done
  | skip hd hskip _ ih => exact .skip (h.isDirectory hd) hskip (ih hf)
  | up hd _ ih => exact .up (h.isDirectory hd) (ih hf)
  | vacant _ _ => cases hf
  | link ha hentry _ ih =>
    have hchild := fun ho => h.not_link _ ho _ hentry
    exact .link (hadmits hchild ha) (h.others _ hchild ▸ hentry) (ih hf)
  | @into n loc s e rest _ ha hentry hlink hrest ih =>
    have hchild : ¬ outs (loc ++ [s]) := fun ho =>
      hne (Found.entry.inj (hf.trans (hrest.eq_of_leaf (h.not_directory _ ho))) ▸ ho)
    exact .into (hadmits hchild ha) (h.others _ hchild ▸ hentry) hlink (ih hf)

end LeafChange

end Leaves

/-- `made` has a file or a device at `target`, and is the same as `t` elsewhere. -/
structure Differs (t made : Tree) (target : Location) : Prop where
  workdir : made.workdir = t.workdir
  foreign : made.foreign = t.foreign
  others : ∀ loc ≠ target, made.get? loc = t.get? loc
  leaf : (∃ content, made.get? target = some (.file content)) ∨
    ∃ refusal, made.get? target = some (.device refusal)

namespace Differs

variable {t made : Tree} {target : Location}

theorem trans {later : Tree} (h : t.Differs made target) (h' : made.Differs later target) :
    t.Differs later target where
  workdir := h'.workdir.trans h.workdir
  foreign := h'.foreign.trans h.foreign
  others := fun loc hl => (h'.others loc hl).trans (h.others loc hl)
  leaf := h'.leaf

theorem leafChange (h : t.Differs made target) : t.LeafChange made (· = target) where
  others := h.others
  not_directory := by
    rintro _ rfl
    rcases h.leaf with ⟨content, hc⟩ | ⟨refusal, hv⟩
    · simp [isDirectory, hc]
    · simp [isDirectory, hv]
  not_link := by
    rintro _ rfl link hl
    rcases h.leaf with ⟨content, hc⟩ | ⟨refusal, hv⟩
    · simp [hl] at hc
    · simp [hl] at hv

theorem finds (h : t.Differs made target) {aim : Aim} {p : Path} {loc : Location}
    (hne : loc ≠ target) (hl : Finds made aim p loc) : Finds t aim p loc := by
  rw [Finds, h.workdir] at hl
  exact h.leafChange.leads hne hl

theorem isRegular (h : t.Differs made target) {loc : Location} (hne : loc ≠ target) :
    made.isRegular loc = t.isRegular loc := by
  rw [Tree.isRegular, h.others loc hne, ← Tree.isRegular]

/-- A path that means another file than the target means the same without the change. -/
theorem resolve (h : t.Differs made target) {root : Path} {path : String} {loc : Location}
    (hne : loc ≠ target) (hr : Source.resolve made root path = .ok loc) :
    Source.resolve t root path = .ok loc := by
  obtain ⟨hc, hregular, hfinds⟩ := Source.resolve_eq_ok_iff.mp hr
  rw [h.isRegular hne] at hregular
  exact Source.resolve_eq_ok_iff.mpr ⟨hc, hregular, h.finds hne hfinds⟩

end Differs

theorem differs_put (t : Tree) {loc : Location} (h : loc ≠ []) (content : List UInt8) :
    t.Differs (t.put loc (.file content)) loc where
  workdir := rfl
  foreign := rfl
  others := fun _ hne => get?_put_of_ne t hne _
  leaf := .inl ⟨content, get?_put_self t h _⟩

/-- A path to a new name creates an empty file there. A path to an entry empties it, unless it is a
device, which stays what it is. -/
theorem create_cases {t made : Tree} {p : Path} {target : Location}
    (h : t.create p = .ok (target, made)) :
    (∃ dir name, t.find .creating p = .ok (.vacant dir name) ∧ target = dir ++ [name] ∧
        made = t.put target (.file [])) ∨
      t.find .creating p = .ok (.entry target) ∧ t.isDirectory target = false ∧
        (made = t.put target (.file []) ∨
          (∃ refusal, t.get? target = some (.device refusal)) ∧ made = t) := by
  unfold create at h
  cases hf : t.find .creating p with
  | error e => simp [hf, bind, Except.bind] at h
  | ok found =>
    cases found with
    | vacant dir name =>
      simp only [hf, bind, Except.bind, Except.ok.injEq, Prod.mk.injEq] at h
      obtain ⟨rfl, rfl⟩ := h
      exact .inl ⟨dir, name, rfl, rfl, rfl⟩
    | entry loc =>
      simp only [hf, bind, Except.bind] at h
      split at h
      · cases h
      · cases h
      · rename_i refusal hdevice
        cases h
        exact .inr ⟨rfl, by simp [isDirectory, hdevice], .inr ⟨⟨refusal, hdevice⟩, rfl⟩⟩
      · rename_i hdirectory _ _
        cases h
        exact .inr ⟨rfl, by simpa [isDirectory] using hdirectory, .inl rfl⟩

/-- Where a file can be created there is no directory, and above all not the top. -/
theorem of_create {t made : Tree} {p : Path} {target : Location}
    (h : t.create p = .ok (target, made)) : target ≠ [] ∧
      (made = t.put target (.file []) ∨
        (∃ refusal, t.get? target = some (.device refusal)) ∧ made = t) := by
  rcases create_cases h with ⟨dir, name, _, rfl, rfl⟩ | ⟨_, hdirectory, hmade⟩
  · exact ⟨by simp, .inl rfl⟩
  · refine ⟨?_, hmade⟩
    rintro rfl
    simp [isDirectory_top] at hdirectory

/-- A created file is empty. -/
theorem differs_of_create {t made : Tree} {p : Path} {target : Location}
    (h : t.create p = .ok (target, made)) :
    t.Differs made target ∧ (made.get? target = some (.file []) ∨
      (∃ refusal, t.get? target = some (.device refusal)) ∧ made = t) := by
  obtain ⟨hne, rfl | ⟨hdevice, rfl⟩⟩ := of_create h
  · exact ⟨t.differs_put hne [], .inl (get?_put_self t hne _)⟩
  · exact ⟨⟨rfl, rfl, fun _ _ => rfl, .inr hdevice⟩, .inr ⟨hdevice, rfl⟩⟩

end Tree

end GlslFlatten
