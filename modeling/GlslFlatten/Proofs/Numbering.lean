import GlslFlatten.Proofs.Locations
import GlslFlatten.Registry

/-!
Registries that grow, registries in which every file has one number, and the chains of includers that
these numbers form. A chain leads downwards, so it is the same in every larger registry.
-/

namespace GlslFlatten

namespace Registry

def Extends (r r' : Registry) : Prop := r.files <+: r'.files

namespace Extends

theorem refl (r : Registry) : r.Extends r := List.prefix_rfl

theorem trans {r r' r'' : Registry} (h : r.Extends r') (h' : r'.Extends r'') : r.Extends r'' :=
  List.IsPrefix.trans h h'

theorem get? {r r' : Registry} (h : r.Extends r') {i : Nat} {e : RegisteredFile}
    (he : r.get? i = some e) : r'.get? i = some e := by
  obtain ⟨more, hm⟩ := h
  rw [Registry.get?, ← hm, List.getElem?_append_left (List.getElem?_eq_some_iff.mp he).1]
  exact he

theorem indexOf? {r r' : Registry} (h : r.Extends r') {p : Path} {i : Nat}
    (hi : r.indexOf? p = some i) : r'.indexOf? p = some i := by
  obtain ⟨more, hm⟩ := h
  rw [Registry.indexOf?, ← hm, List.findIdx?_append, ← Registry.indexOf?, hi]
  rfl

theorem register (r : Registry) (p : Path) (name : String) (includer : Option Nat) :
    r.Extends (r.register p name includer).2 := by
  cases h : r.indexOf? p with
  | some i =>
    rw [register_of_indexOf? h]
    exact refl r
  | none =>
    unfold Extends
    rw [files_register_of_new h]
    exact List.prefix_append _ _

end Extends

theorem known_register (r : Registry) (p : Path) (name : String) (includer : Option Nat) :
    ∃ e ∈ (r.register p name includer).2.files, e.path.same p = true := by
  cases h : r.indexOf? p with
  | some i =>
    rw [register_of_indexOf? h]
    obtain ⟨hi, hs, _⟩ := List.findIdx?_eq_some_iff_getElem.mp h
    exact ⟨r.files[i], List.getElem_mem hi, hs⟩
  | none =>
    rw [files_register_of_new h]
    exact ⟨⟨p, name, includer⟩, by simp, Path.same_refl p⟩

/-- Every entry is the only one of its file. -/
def Proper (r : Registry) : Prop :=
  ∀ i e, r.get? i = some e →
    ∃ loc : Location, loc.Plain ∧ e.path = loc.path ∧ r.indexOf? loc.path = some i

theorem proper_empty : Proper {} := by
  intro i e he
  simp [get?] at he

variable {r r' : Registry} {loc : Location} {i : Nat} {e : RegisteredFile}

theorem Proper.of_indexOf? (h : r.Proper) (hl : loc.Plain) (hi : r.indexOf? loc.path = some i) :
    ∃ e, r.get? i = some e ∧ e.path = loc.path := by
  obtain ⟨hlt, hs, _⟩ := List.findIdx?_eq_some_iff_getElem.mp hi
  have he : r.get? i = some r.files[i] := List.getElem?_eq_getElem hlt
  obtain ⟨other, ho, hp, _⟩ := h i _ he
  rw [hp] at hs
  obtain rfl := (Location.same_path_iff ho hl).mp hs
  exact ⟨_, he, hp⟩

theorem Proper.indexOf?_of_get? (h : r.Proper) (hl : loc.Plain) (he : r.get? i = some e)
    (hp : e.path = loc.path) : r.indexOf? loc.path = some i := by
  obtain ⟨other, ho, hp', hi⟩ := h i e he
  obtain rfl := Location.path_injective ho hl (hp'.symm.trans hp)
  exact hi

theorem indexOf?_register_of_new {p : Path} (h : r.indexOf? p = none) (name : String)
    (includer : Option Nat) : (r.register p name includer).2.indexOf? p = some r.size := by
  rw [indexOf?, files_register_of_new h, List.findIdx?_append, ← indexOf?, h]
  simp [List.findIdx?_cons, Path.same_refl, size]

theorem get?_register_of_new {p : Path} (h : r.indexOf? p = none) (name : String)
    (includer : Option Nat) (i : Nat) :
    (r.register p name includer).2.get? i =
      if i = r.size then some ⟨p, name, includer⟩ else r.get? i := by
  rw [get?, files_register_of_new h]
  split
  · rename_i hi
    simp [hi, size]
  · rename_i hi
    rcases Nat.lt_or_gt_of_ne hi with hlt | hgt
    · rw [List.getElem?_append_left hlt, get?]
    · have hlen : (r.files ++ [RegisteredFile.mk p name includer]).length ≤ i := by
        rw [List.length_append]
        exact hgt
      rw [get?, List.getElem?_eq_none hlen, List.getElem?_eq_none (Nat.le_of_lt hgt)]

/-- The number that a registration gives is the number of the file from then on. -/
theorem indexOf?_register (r : Registry) (p : Path) (name : String) (includer : Option Nat) :
    (r.register p name includer).2.indexOf? p = some (r.register p name includer).1 := by
  cases h : r.indexOf? p with
  | some i => rw [register_of_indexOf? h, h]
  | none =>
    rw [indexOf?_register_of_new h]
    simp [register, h]

theorem Proper.register (h : r.Proper) (hl : loc.Plain) (name : String) (includer : Option Nat) :
    (r.register loc.path name includer).2.Proper := by
  cases hi : r.indexOf? loc.path with
  | some i => rwa [register_of_indexOf? hi]
  | none =>
    intro i e he
    rw [get?_register_of_new hi] at he
    split at he
    · rename_i hsize
      obtain rfl := Option.some.inj he
      exact ⟨loc, hl, rfl, hsize ▸ indexOf?_register_of_new hi name includer⟩
    · obtain ⟨other, ho, hp, hi'⟩ := h i e he
      exact ⟨other, ho, hp, (Extends.register r _ _ _).indexOf? hi'⟩

/-- The numbers of the files that led to a file, nearest first. -/
inductive Chain (r : Registry) : Nat → List Nat → Prop
  | first {i : Nat} {e : RegisteredFile} : r.get? i = some e → e.includer = none → r.Chain i []
  | next {i j : Nat} {e : RegisteredFile} {js : List Nat} : r.get? i = some e →
      e.includer = some j → j < i → r.Chain j js → r.Chain i (j :: js)

namespace Chain

variable {js : List Nat}

theorem mono (h : r.Chain i js) (he : r.Extends r') : r'.Chain i js := by
  induction h with
  | first hg hn => exact .first (he.get? hg) hn
  | next hg hn hlt _ ih => exact .next (he.get? hg) hn hlt ih

theorem length_le (h : r.Chain i js) : js.length ≤ i := by
  induction h with
  | first => exact Nat.zero_le _
  | next _ _ hlt _ ih =>
    rw [List.length_cons]
    omega

theorem lt_size (h : r.Chain i js) : i < r.size := by
  cases h with
  | first hg _ => exact (List.getElem?_eq_some_iff.mp hg).1
  | next hg _ _ _ => exact (List.getElem?_eq_some_iff.mp hg).1

theorem includers (h : r.Chain i js) {limit : Nat} (hl : js.length ≤ limit) :
    r.includers limit i = js.filterMap r.get? := by
  induction h generalizing limit with
  | first hg hn => cases limit <;> simp [Registry.includers, hg, hn]
  | @next i j e js hg hn hlt hc ih =>
    cases limit with
    | zero => simp at hl
    | succ limit =>
      have hj : r.get? j = some (r.files.get ⟨j, hc.lt_size⟩) := List.getElem?_eq_getElem hc.lt_size
      simp only [Registry.includers, hg, hn, Option.bind_some, hj, List.filterMap_cons]
      rw [ih (by simpa using hl)]

/-- The limit that the size of a registry sets does not cut a chain off. -/
theorem includeChain (h : r.Chain i js) : r.includeChain i = js.filterMap r.get? :=
  h.includers (Nat.le_of_lt (Nat.lt_of_le_of_lt h.length_le h.lt_size))

end Chain

end Registry

end GlslFlatten
