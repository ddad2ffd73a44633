import GlslFlatten.Proofs.Numbering
import Mathlib.Data.Finset.Card

/-!
Registrations one after another, with any spellings of paths. A file keeps its number and its entry
from the first registration on, under whatever spelling it is asked for later.
-/

namespace GlslFlatten

namespace Path

/-- What the spellings of a path have in common. -/
def identity (p : Path) : Lead × List String := (p.lead, p.names)

theorem same_iff_identity {p q : Path} : p.same q = true ↔ p.identity = q.identity := by
  rw [same_iff, identity, identity, Prod.mk.injEq]

theorem same_congr {p q : Path} (h : p.same q = true) (other : Path) :
    other.same p = other.same q := by
  rw [Bool.eq_iff_iff, same_iff_identity, same_iff_identity, same_iff_identity.mp h]

end Path

namespace Registry

/-- Registers files one after another. -/
def registerAll (r : Registry) (files : List RegisteredFile) : Registry :=
  files.foldl (fun r f => (r.register f.path f.name f.includer).2) r

variable {r : Registry} {files : List RegisteredFile}

theorem registerAll_concat (r : Registry) (files : List RegisteredFile) (f : RegisteredFile) :
    r.registerAll (files ++ [f]) =
      ((r.registerAll files).register f.path f.name f.includer).2 := by
  rw [registerAll, List.foldl_append]
  rfl

theorem extends_registerAll (r : Registry) (files : List RegisteredFile) :
    r.Extends (r.registerAll files) := by
  induction files using List.reverseRecOn with
  | nil => exact .refl r
  | append_singleton files f ih =>
    rw [registerAll_concat]
    exact ih.trans (.register _ _ _ _)

theorem indexOf?_eq_none_iff {p : Path} :
    r.indexOf? p = none ↔ r.files.find? (·.path.same p) = none := by
  simp only [indexOf?, List.findIdx?_eq_none_iff, List.find?_eq_none, Bool.not_eq_true]

theorem indexOf?_congr {p q : Path} (h : p.same q = true) : r.indexOf? p = r.indexOf? q := by
  simp only [indexOf?, Path.same_congr h]

theorem get?_of_indexOf? {p : Path} {i : Nat} (h : r.indexOf? p = some i) :
    r.get? i = r.files.find? (·.path.same p) := by
  obtain ⟨hi, hs, hbefore⟩ := List.findIdx?_eq_some_iff_getElem.mp h
  have hfind : r.files.find? (·.path.same p) = some r.files[i] :=
    List.find?_eq_some_iff_getElem.mpr ⟨hs, i, hi, rfl, fun j hj => by simpa using hbefore j hj⟩
  rw [hfind, get?, List.getElem?_eq_getElem hi]

/-- The registry holds the first of the given files under each path, and nothing else. -/
structure Firsts (files : List RegisteredFile) (r : Registry) : Prop where
  found : ∀ p, r.files.find? (·.path.same p) = files.find? (·.path.same p)
  distinct : (r.files.map (·.path.identity)).Nodup

namespace Firsts

theorem empty : Firsts [] {} := ⟨fun _ => rfl, List.nodup_nil⟩

theorem register (h : Firsts files r) (f : RegisteredFile) :
    Firsts (files ++ [f]) (r.register f.path f.name f.includer).2 := by
  cases hi : r.indexOf? f.path with
  | some i =>
    rw [register_of_indexOf? hi]
    refine ⟨fun p => ?_, h.distinct⟩
    have hknown : files.find? (·.path.same f.path) ≠ none := by
      rw [← h.found, ne_eq, ← indexOf?_eq_none_iff, hi]
      simp
    rw [List.find?_append, h.found]
    by_cases hp : f.path.same p = true
    · simp only [Path.same_congr hp] at hknown
      obtain ⟨e, he⟩ := Option.ne_none_iff_exists'.mp hknown
      rw [he, Option.some_or]
    · simp [hp]
  | none =>
    have hfiles := files_register_of_new hi f.name f.includer
    refine ⟨fun p => ?_, ?_⟩
    · rw [hfiles, List.find?_append, List.find?_append, h.found]
    · have hnew : f.path.identity ∉ r.files.map (·.path.identity) := by
        intro hm
        obtain ⟨e, he, hs⟩ := List.mem_map.mp hm
        have := List.findIdx?_eq_none_iff.mp hi e he
        rw [Path.same_iff_identity.mpr hs] at this
        cases this
      rw [hfiles, List.map_append, List.nodup_append]
      refine ⟨h.distinct, by simp, fun k hk k' hk' => ?_⟩
      rw [List.map_singleton, List.mem_singleton] at hk'
      rintro rfl
      exact hnew (hk' ▸ hk)

theorem registerAll (files : List RegisteredFile) : Firsts files (({} : Registry).registerAll files) := by
  induction files using List.reverseRecOn with
  | nil => exact empty
  | append_singleton files f ih =>
    rw [registerAll_concat]
    exact ih.register f

theorem indexOf?_eq_none_iff (h : Firsts files r) {p : Path} :
    r.indexOf? p = none ↔ ∀ f ∈ files, f.path.same p = false := by
  rw [Registry.indexOf?_eq_none_iff, h.found, List.find?_eq_none]
  simp only [Bool.not_eq_true]

theorem pairwise (h : Firsts files r) : r.files.Pairwise fun e f => e.path.same f.path = false := by
  refine (List.pairwise_map.mp h.distinct).imp fun hne => ?_
  rw [← Bool.not_eq_true, Path.same_iff_identity]
  exact hne

theorem mem_identities_iff (h : Firsts files r) (k : Path.Lead × List String) :
    k ∈ r.files.map (·.path.identity) ↔ k ∈ files.map (·.path.identity) := by
  have hfind : ∀ (fs : List RegisteredFile) (p : Path),
      p.identity ∈ fs.map (·.path.identity) ↔ (fs.find? (·.path.same p)).isSome = true := by
    intro fs p
    simp only [List.mem_map, List.find?_isSome, Path.same_iff_identity]
  constructor
  · intro hk
    obtain ⟨e, _, rfl⟩ := List.mem_map.mp hk
    exact (hfind _ _).mpr (h.found e.path ▸ (hfind _ _).mp hk)
  · intro hk
    obtain ⟨e, _, rfl⟩ := List.mem_map.mp hk
    exact (hfind _ _).mpr (h.found e.path ▸ (hfind _ _).mp hk)

theorem size_eq (h : Firsts files r) : r.size = (files.map (·.path.identity)).toFinset.card := by
  have hset : (files.map (·.path.identity)).toFinset = (r.files.map (·.path.identity)).toFinset := by
    ext k
    rw [List.mem_toFinset, List.mem_toFinset, h.mem_identities_iff]
  rw [hset, List.toFinset_card_of_nodup h.distinct, List.length_map, size]

end Firsts

/-- In every registry that registrations build up there is one entry for each path. A registration gives
the number that all spellings of its path have from then on, and the entry with this number stays what
the first registration of the path has made it. -/
theorem registerAll_stable (files : List RegisteredFile) :
    let r := ({} : Registry).registerAll files
    (r.files.Pairwise fun e f => e.path.same f.path = false) ∧
      r.size = (files.map (·.path.identity)).toFinset.card ∧
      (∀ p, r.indexOf? p = none ↔ ∀ f ∈ files, f.path.same p = false) ∧
      ∀ (f : RegisteredFile) (later : List RegisteredFile),
        let registered := r.register f.path f.name f.includer
        let r' := registered.2.registerAll later
        (∀ p, p.same f.path = true → r'.indexOf? p = some registered.1) ∧
          ∃ first, r'.get? registered.1 = some first ∧ first.path.same f.path = true ∧
            (files ++ [f]).find? (·.path.same f.path) = some first := by
  intro r
  have hr : Firsts files r := .registerAll files
  refine ⟨hr.pairwise, hr.size_eq, fun p => hr.indexOf?_eq_none_iff, fun f later => ?_⟩
  have hr' := hr.register f
  have hi := r.indexOf?_register f.path f.name f.includer
  intro registered r'
  have hlater : registered.2.Extends r' := extends_registerAll registered.2 later
  obtain ⟨first, hget⟩ : ∃ first, registered.2.get? registered.1 = some first :=
    ⟨_, List.getElem?_eq_getElem (List.findIdx?_eq_some_iff_getElem.mp hi).1⟩
  have hfirst : (files ++ [f]).find? (·.path.same f.path) = some first := by
    rw [← hr'.found, ← get?_of_indexOf? hi, hget]
  have hsame : first.path.same f.path = true :=
    List.find?_some (p := fun e : RegisteredFile => e.path.same f.path) hfirst
  refine ⟨fun p hp => ?_, first, hlater.get? hget, hsame, hfirst⟩
  rw [indexOf?_congr hp]
  exact hlater.indexOf? hi

/-- Three registrations of two files. The second spelling of the first file has the same number, and
`..` is not resolved. -/
theorem registerAll_stable_sample :
    let files : List RegisteredFile :=
      [⟨⟨"/s//a/./b.glsl"⟩, "a/b.glsl", none⟩, ⟨⟨"/s/a/../b.glsl"⟩, "b.glsl", some 0⟩]
    let r := ({} : Registry).registerAll files
    r.size = 2 ∧ (r.register ⟨"/s/a/b.glsl/"⟩ "other" (some 1)).1 = 0 ∧
      ({} : Registry).indexOf? ⟨"/s/a/b.glsl"⟩ = none ∧
      (r.register ⟨"/s/a/b.glsl/"⟩ "other" (some 1)).2.indexOf? ⟨"/s/a/b.glsl"⟩ = some 0 := by
  intro files r
  obtain ⟨_, _, hnone, _⟩ := registerAll_stable []
  obtain ⟨_, hsize, _, hlater⟩ := registerAll_stable files
  obtain ⟨hindex, _⟩ := hlater ⟨⟨"/s/a/b.glsl/"⟩, "other", some 1⟩ []
  have hnumber : (r.register ⟨"/s/a/b.glsl/"⟩ "other" (some 1)).1 = 0 := by decide +kernel
  refine ⟨hsize.trans (by decide +kernel), hnumber, (hnone _).mpr (List.forall_mem_nil _), ?_⟩
  rw [← hnumber]
  exact hindex ⟨"/s/a/b.glsl"⟩ (by decide +kernel)

end Registry

end GlslFlatten
