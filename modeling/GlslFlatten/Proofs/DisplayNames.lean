import GlslFlatten.Proofs.LeadingSlashes

/-!
Names of files in messages. A file below the root is named by the names that lead to it from there, and
that name finds it again. Any other file is named by its whole path, so that the name tells the file.
-/

namespace GlslFlatten

open Text

namespace Location

variable {loc root rel : Location}

/-- The names of a location as a path that starts nowhere. -/
def relative (loc : Location) : Path := ⟨"/".intercalate loc⟩

theorem segments_relative (h : loc.Plain) (hne : loc ≠ []) : loc.relative.segments = loc :=
  splitAt_intercalate (fun s hs => (h s hs).2.2) hne

theorem not_isAbsolute_relative (h : loc.Plain) : loc.relative.isAbsolute = false := by
  cases loc with
  | nil => rfl
  | cons s rest =>
    apply Path.not_isAbsolute_of_segments (segments_relative h (by simp))
    rintro rfl
    have hcounts := (h "" List.mem_cons_self).1
    simp at hcounts

theorem relative_injective {other : Location} (h : loc.Plain) (hne : loc ≠ []) (ho : other.Plain)
    (hone : other ≠ []) (he : loc.relative = other.relative) : loc = other := by
  rw [← segments_relative h hne, he, segments_relative ho hone]

theorem dropWhile_skipped (h : loc.Plain) : loc.dropWhile Path.skipped = loc := by
  cases loc with
  | nil => rfl
  | cons s rest => exact List.dropWhile_cons_of_neg (by simp [(h s List.mem_cons_self).1])

theorem dropTrailing_skipped (h : loc.Plain) : dropTrailing Path.skipped loc = loc := by
  have hreverse : Plain loc.reverse := fun s hs => h s (List.mem_reverse.mp hs)
  rw [dropTrailing, dropWhile_skipped hreverse, List.reverse_reverse]

theorem after?_eq_some_iff (h : loc.Plain) : Path.after? loc root = some rel ↔ loc = root ++ rel := by
  induction root generalizing loc with
  | nil => simp [Path.after?]
  | cons n ns ih =>
    rw [Path.after?, dropWhile_skipped h]
    cases loc with
    | nil => simp
    | cons s rest =>
      have hrest : Plain rest := fun u hu => h u (List.mem_cons_of_mem _ hu)
      by_cases hs : s = n
      · simp [hs, ih hrest]
      · simp [hs]

/-- Only the path of the top ends in a slash. -/
theorem getLast_path_ne (h : loc.Plain) (hne : loc ≠ []) :
    loc.path.text.toList.getLast? ≠ some '/' := by
  intro hslash
  obtain ⟨cs, hcs⟩ := List.getLast?_eq_some_iff.mp hslash
  have hlast : loc.getLast? = some "" := by
    rw [← List.getLast?_cons_of_ne_nil hne, ← segments_path h hne, Path.segments_of_slash hcs,
      List.getLast?_concat]
  have hcounts := (h "" (List.mem_of_getLast? hlast)).1
  simp at hcounts

/-- Joined to the path of a location, the names below it give the path of the whole. -/
theorem path_join (hroot : root.Plain) (hrel : rel.Plain) (hne : rel ≠ []) :
    root.path.join rel.relative = Location.path (root ++ rel) := by
  have hrelative := not_isAbsolute_relative hrel
  by_cases htop : root = []
  · have hpath : root.path = ⟨"/"⟩ := by simp [htop, path]
    rw [hpath, Path.join, if_neg (by simp [hrelative]), if_pos (by decide), htop]
    rfl
  · have htext := Path.text_ne_of_isAbsolute (isAbsolute_path root)
    rw [Path.join, if_neg (by simp [hrelative, htext]), if_neg (getLast_path_ne hroot htop), path, path,
      String.intercalate_append_of_ne_nil htop hne, relative]
    simp only [String.append_assoc]

/-- Behind a location, what is left of a path are the names below it. -/
theorem stripPrefix?_path (hloc : loc.Plain) (hroot : root.Plain) (hne : loc ≠ []) :
    loc.path.stripPrefix? root.path = (Path.after? loc root).map relative := by
  have hbase : root.path.lead = .top := lead_path root
  rw [Path.stripPrefix?, hbase, if_neg (by simp), lead_path, if_pos rfl, body_path hloc hne,
    names_path hroot]
  cases hafter : Path.after? loc root with
  | none => rfl
  | some rel =>
    have hrel : Plain rel := by
      intro s hs
      apply hloc
      rw [(after?_eq_some_iff hloc).mp hafter]
      exact List.mem_append_right _ hs
    rw [Option.map_some, Option.map_some, dropWhile_skipped hrel, dropTrailing_skipped hrel]
    rfl

end Location

namespace Tree

variable {t : Tree} {aim : Aim} {loc dir : Location} {n : Nat}

/-- From the top every name of the location can be looked up, and none is that of a link. -/
def Canonical (t : Tree) (aim : Aim) (loc : Location) : Prop := ∀ above s, above ++ [s] <+: loc →
  Admits t aim above s [] ∧ ∃ e, t.get? (above ++ [s]) = some e ∧ ∀ target, e ≠ .link target

theorem canonical_top (t : Tree) (aim : Aim) : t.Canonical aim [] := by
  intro above s h
  simp at h

theorem Canonical.dropLast (h : t.Canonical aim loc) : t.Canonical aim loc.dropLast :=
  fun above s hs => h above s (hs.trans (List.dropLast_prefix loc))

/-- Less is asked of the last name. -/
theorem Admits.last {s : String} {rest : List String} (h : Admits t aim loc s rest) :
    Admits t aim loc s [] := by
  have hnear := h.near
  refine { h with creatable := by simp, near := ?_ }
  simp only [inReach, Bool.or_eq_true, decide_eq_true_eq] at hnear ⊢
  refine hnear.imp_right fun hle => Nat.le_trans ?_ hle
  split <;> simp [asksDirectory]

theorem Canonical.concat (h : t.Canonical aim loc) {s : String} {e : Entry}
    (ha : Admits t aim loc s []) (he : t.get? (loc ++ [s]) = some e)
    (hlink : ∀ target, e ≠ .link target) : t.Canonical aim (loc ++ [s]) := by
  intro above u hu
  rcases List.prefix_concat_iff.mp hu with heq | hprefix
  · obtain ⟨rfl, hlast⟩ := List.append_inj' heq rfl
    obtain rfl := List.singleton_inj.mp hlast
    exact ⟨ha, e, he, hlink⟩
  · exact h above u hprefix

/-- Links and `..` are gone from what a walk has found. -/
theorem Leads.canonical {segments : List String} (hloc : t.Canonical aim loc)
    (h : Leads t aim n loc segments (.entry dir)) : t.Canonical aim dir := by
  generalize hf : Found.entry dir = found at h
  induction h with
  | done => exact Found.entry.inj hf ▸ hloc
  | skip _ _ _ ih => exact ih hloc hf
  | up _ _ ih => exact ih hloc.dropLast hf
  | vacant _ _ => cases hf
  | @link n loc s target rest found _ _ _ ih =>
    refine ih ?_ hf
    unfold startOf
    split
    · exact t.canonical_top aim
    · exact hloc
  | into ha he hlink _ ih => exact ih (hloc.concat ha.last he hlink) hf

/-- Before a name that counts, as much is asked as before none. -/
theorem Admits.before {above : Location} {s u : String} {rest : List String}
    (h : Admits t aim loc s []) (hu : Admits t aim above u []) : Admits t aim loc s (u :: rest) := by
  have hne : u ≠ "" := by
    rintro rfl
    exact absurd hu.counts (by simp)
  have hasks : asksDirectory (u :: rest) = asksDirectory [] := by
    simp [asksDirectory, hu.counts, hu.down]
  refine { h with creatable := by simp [hne], near := ?_ }
  rw [inReach, hasks, ← inReach]
  exact h.near

theorem Canonical.leads {above rest : List String} (h : t.Canonical aim (above ++ rest)) (n : Nat) :
    Leads t aim n above rest (.entry (above ++ rest)) := by
  induction rest generalizing above with
  | nil =>
    rw [List.append_nil]
    exact .done
  | cons s rest ih =>
    obtain ⟨ha, e, he, hlink⟩ := h above s (by simp)
    have hrest : Leads t aim n (above ++ [s]) rest (.entry (above ++ [s] ++ rest)) :=
      ih (by simpa using h)
    rw [List.append_assoc, List.singleton_append] at hrest
    cases rest with
    | nil => exact .into ha he hlink hrest
    | cons u more => exact .into (ha.before (h (above ++ [s]) u (by simp)).1) he hlink hrest

/-- The path of what is found finds it again. -/
theorem finds_path {p : Path} (hp : p.isAbsolute = true) (h : Finds t aim p loc) :
    Finds t aim loc.path loc := by
  have hplain := plain_of_finds hp h
  rw [Finds, startOf, if_pos hp] at h
  have hcanonical := h.canonical (t.canonical_top aim)
  rw [Finds, startOf, if_pos (Location.isAbsolute_path loc)]
  have hskip := Path.skipped_empty
  by_cases hne : loc = []
  · subst hne
    exact .skip t.isDirectory_top hskip (.skip t.isDirectory_top hskip .done)
  · have hnames : t.Canonical aim ([] ++ loc) := hcanonical
    rw [Location.segments_path hplain hne]
    exact .skip t.isDirectory_top hskip (hnames.leads linkLimit)

/-- The path of a place that can be told is short enough to be looked up. -/
theorem checkText_path {p : Path} (hp : p.isAbsolute = true) (hne : loc ≠ [])
    (hnul : ∀ name ∈ loc, '\x00' ∉ name.toList) (h : Finds t .resolving p loc) :
    checkText loc.path = .ok () := by
  rw [checkText_eq_ok]
  refine ⟨?_, Path.text_ne_of_isAbsolute (Location.isAbsolute_path loc), ?_⟩
  · rw [Location.path, String.toList_append, List.mem_append, Path.mem_intercalate (by decide)]
    rintro (hc | ⟨name, hname, hc⟩)
    · exact absurd hc (by decide)
    · exact hnul name hname hc
  · rw [Finds, startOf, if_pos hp] at h
    have hcanonical := h.canonical (t.canonical_top .resolving)
    obtain ⟨above, s, rfl⟩ := (List.eq_nil_or_concat' loc).resolve_left hne
    have hnear := (hcanonical above s (List.prefix_refl _)).1.near
    simp only [inReach, ne_eq, not_true_eq_false, decide_false, Bool.false_or,
      decide_eq_true_eq] at hnear
    omega

end Tree

namespace Source

variable {t : Tree} {root loc rel : Location} {p : String}

/-- What a path means is found behind a relative path from the root. -/
theorem exists_underRoot (root : Path) (p : String) :
    ∃ q : Path, q.isAbsolute = false ∧ underRoot root p = root.join q := by
  cases hp : (Path.mk p).isAbsolute with
  | false => exact ⟨⟨p⟩, hp, underRoot_of_relative hp⟩
  | true =>
    obtain ⟨cs, hcs⟩ := List.head?_eq_some_iff.mp (of_decide_eq_true hp)
    have hsplit : p = slashes (0 + 1) ++ .ofList cs := by
      rw [← String.toList_inj, hcs]
      simp [slashes]
    rw [hsplit, underRoot_slashes]
    exact ⟨_, Path.not_isAbsolute_trimmed _, rfl⟩

theorem isDirectory_root (hroot : t.realPath root.path = .ok root)
    (h : resolve t root.path p = .ok loc) : t.isDirectory root = true := by
  obtain ⟨q, hq, hunder⟩ := exists_underRoot root.path p
  obtain ⟨hname, hfinds⟩ := Tree.realPath_eq_ok_iff.mp hroot
  obtain ⟨front, hsegments, hfront⟩ :=
    Tree.leads_of_join hq (Tree.text_ne_of_checkName hname) hfinds.opening
  have hleads := (resolve_eq_ok_iff.mp h).2.2.opening
  rw [hunder, Tree.Finds, hsegments] at hleads
  obtain ⟨s, rest, hcons⟩ := List.exists_cons_of_ne_nil (splitAt_ne_nil '/' q.text)
  obtain ⟨m, mid, hmid, hlast⟩ := hleads.split (splitAt_ne_nil '/' q.text)
  obtain rfl : root = mid := Tree.Found.entry.inj (hfront.unique hmid)
  exact (hcons ▸ hlast).isDirectory_of_cons

/-- What is known of a file that is found from a root. -/
structure Nameable (root loc : Location) : Prop where
  plain : loc.Plain
  ne_top : loc ≠ []
  ne_root : loc ≠ root
  letters : ∀ name ∈ loc, '\\' ∉ name.toList

theorem nameable_of_resolve (hroot : t.realPath root.path = .ok root)
    (hletters : ∀ loc e, t.get? loc = some e → ∀ name ∈ loc,
      '\\' ∉ name.toList ∧ '\x00' ∉ name.toList)
    (h : resolve t root.path p = .ok loc) : Nameable root loc := by
  have hregular := isRegular_of_resolve h
  have hfile := Tree.not_isDirectory_of_isRegular hregular
  refine ⟨plain_of_resolve (Location.isAbsolute_path root) h, ?_, ?_, ?_⟩
  · rintro rfl
    exact hfile t.isDirectory_top
  · rintro rfl
    exact hfile (isDirectory_root hroot h)
  · obtain ⟨e, he, _⟩ := (Option.any_eq_true _ _).mp hregular
    exact fun name hname => (hletters loc e he name hname).1

namespace Nameable

variable {other : Location}

theorem map_separators {text : String} (h : '\\' ∉ text.toList) :
    String.ofList (text.toList.map fun c => if c = '\\' then '/' else c) = text := by
  have hmap : (text.toList.map fun c => if c = '\\' then '/' else c) = text.toList.map id := by
    apply List.map_congr_left
    intro c hc
    rw [if_neg, id]
    rintro rfl
    exact h hc
  rw [hmap, List.map_id, String.ofList_toList]

theorem below (h : Nameable root loc) (hrel : loc = root ++ rel) : rel.Plain ∧ rel ≠ [] := by
  refine ⟨fun s hs => h.plain s (hrel ▸ List.mem_append_right root hs), ?_⟩
  rintro rfl
  exact h.ne_root (by rw [hrel, List.append_nil])

theorem displayName_of_below (h : Nameable root loc) (hroot : root.Plain) (hrel : loc = root ++ rel) :
    displayName root.path loc.path = rel.relative.text := by
  rw [displayName, Location.stripPrefix?_path h.plain hroot h.ne_top,
    (Location.after?_eq_some_iff h.plain).mpr hrel, Option.map_some, Option.getD_some, map_separators]
  rw [Location.relative, Path.mem_intercalate (by decide)]
  rintro ⟨name, hname, hc⟩
  exact h.letters name (hrel ▸ List.mem_append_right root hname) hc

theorem displayName_of_outside (h : Nameable root loc) (hroot : root.Plain) (hout : ¬ root <+: loc) :
    displayName root.path loc.path = loc.path.text := by
  have hafter : Path.after? loc root = none := by
    rw [Option.eq_none_iff_forall_ne_some]
    intro rel hrel
    exact hout ⟨rel, ((Location.after?_eq_some_iff h.plain).mp hrel).symm⟩
  rw [displayName, Location.stripPrefix?_path h.plain hroot h.ne_top, hafter, Option.map_none,
    Option.getD_none, map_separators]
  rw [Location.path, String.toList_append, List.mem_append, Path.mem_intercalate (by decide)]
  rintro (hc | ⟨name, hname, hc⟩)
  · exact absurd hc (by decide)
  · exact h.letters name hname hc

/-- Only names below the root are relative. -/
theorem displayName_ne (h : Nameable root loc) (ho : Nameable root other) (hroot : root.Plain)
    (hrel : loc = root ++ rel) (hout : ¬ root <+: other) :
    displayName root.path loc.path ≠ displayName root.path other.path := by
  intro he
  rw [h.displayName_of_below hroot hrel, ho.displayName_of_outside hroot hout] at he
  have hrelative := Location.not_isAbsolute_relative (h.below hrel).1
  rw [Path.isAbsolute, he, ← Path.isAbsolute, Location.isAbsolute_path] at hrelative
  cases hrelative

theorem displayName_injective (h : Nameable root loc) (ho : Nameable root other) (hroot : root.Plain)
    (he : displayName root.path loc.path = displayName root.path other.path) : loc = other := by
  by_cases hloc : root <+: loc
  · by_cases hother : root <+: other
    · obtain ⟨rel, hrel⟩ := hloc
      obtain ⟨rel', hrel'⟩ := hother
      rw [h.displayName_of_below hroot hrel.symm, ho.displayName_of_below hroot hrel'.symm] at he
      obtain ⟨hplain, hne⟩ := h.below hrel.symm
      obtain ⟨hplain', hne'⟩ := ho.below hrel'.symm
      rw [← hrel, ← hrel', Location.relative_injective hplain hne hplain' hne' (congrArg Path.mk he)]
    · obtain ⟨rel, hrel⟩ := hloc
      exact absurd he (h.displayName_ne ho hroot hrel.symm hother)
  · by_cases hother : root <+: other
    · obtain ⟨rel, hrel⟩ := hother
      exact absurd he.symm (ho.displayName_ne h hroot hrel.symm hloc)
    · rw [h.displayName_of_outside hroot hloc, ho.displayName_of_outside hroot hother] at he
      exact Location.path_injective h.plain ho.plain (congrArg Path.mk he)

end Nameable

/-- From a canonical root, a file below it has the names below the root for a name, and is found again by
that name. A file outside is named by its path. Two files have the same name only if they are the same.
Names hold no backslash here; that they hold no NUL is so in every file system. -/
theorem displayName_identifies (hroot : t.realPath root.path = .ok root)
    (hletters : ∀ loc e, t.get? loc = some e → ∀ name ∈ loc,
      '\\' ∉ name.toList ∧ '\x00' ∉ name.toList) :
    let nameOf (loc : Location) := displayName root.path loc.path
    (∀ p loc, resolve t root.path p = .ok loc →
      (∀ rel, loc = root ++ rel →
        (Path.mk (nameOf loc)).isAbsolute = false ∧ (Path.mk (nameOf loc)).segments = rel ∧
        (∀ s ∈ rel, s ≠ "" ∧ s ≠ "." ∧ s ≠ "..") ∧
        resolve t root.path (nameOf loc) = .ok loc) ∧
      (¬ root <+: loc → nameOf loc = loc.path.text)) ∧
    ∀ p q loc other, resolve t root.path p = .ok loc → resolve t root.path q = .ok other →
      (loc = other ↔ nameOf loc = nameOf other) := by
  intro nameOf
  have habsolute := Location.isAbsolute_path root
  have hplain := Tree.plain_of_finds habsolute (Tree.realPath_eq_ok_iff.mp hroot).2
  refine ⟨fun p loc h => ⟨fun rel hrel => ?_, ?_⟩, fun p q loc other h ho => ⟨?_, ?_⟩⟩
  · have hnameable := nameable_of_resolve hroot hletters h
    obtain ⟨hbelow, hne⟩ := hnameable.below hrel
    have hname : nameOf loc = rel.relative.text := hnameable.displayName_of_below hplain hrel
    have hrelative := Location.not_isAbsolute_relative hbelow
    rw [hname]
    refine ⟨hrelative, Location.segments_relative hbelow hne, ?_, ?_⟩
    · intro s hs
      obtain ⟨hcounts, hdown, _⟩ := hbelow s hs
      simpa [Path.skipped, and_assoc] using And.intro hcounts hdown
    · have hunder : underRoot root.path rel.relative.text = loc.path := by
        rw [hrel, ← Location.path_join hplain hbelow hne]
        exact underRoot_of_relative hrelative
      obtain ⟨_, hregular, hfinds⟩ := resolve_eq_ok_iff.mp h
      obtain ⟨e, he, _⟩ := (Option.any_eq_true _ _).mp hregular
      have hjoined := isAbsolute_underRoot habsolute p
      have hchecked := Tree.checkText_path hjoined hnameable.ne_top
        (fun name hmem => (hletters loc e he name hmem).2) hfinds
      rw [resolve_eq_ok_iff, hunder]
      exact ⟨hchecked, hregular, Tree.finds_path hjoined hfinds⟩
  · exact (nameable_of_resolve hroot hletters h).displayName_of_outside hplain
  · exact congrArg nameOf
  · exact (nameable_of_resolve hroot hletters h).displayName_injective
      (nameable_of_resolve hroot hletters ho) hplain

theorem displayName_identifies_sample :
    resolve .sample ⟨"/s"⟩ "/.././s//lib" = .ok ["s", "lib"] ∧
      resolve .sample ⟨"/s"⟩ (displayName ⟨"/s"⟩ ⟨"/s/lib"⟩) = .ok ["s", "lib"] := by
  have hletters : ∀ loc e, Tree.sample.get? loc = some e → ∀ name ∈ loc,
      '\\' ∉ name.toList ∧ '\x00' ∉ name.toList := by
    intro loc e he
    rcases Tree.stored_of_get? he with ⟨rfl, _⟩ | hstored
    · simp
    · have hall : ∀ x ∈ Tree.sample.entries, ∀ name ∈ x.1,
          '\\' ∉ name.toList ∧ '\x00' ∉ name.toList := by decide +kernel
      exact hall _ hstored
  have hroot : Tree.sample.realPath (Location.path ["s"]) = .ok ["s"] := by decide +kernel
  obtain ⟨hnames, _⟩ := displayName_identifies hroot hletters
  have hfound : resolve .sample ⟨"/s"⟩ "/.././s//lib" = .ok ["s", "lib"] := by decide +kernel
  obtain ⟨_, _, _, hagain⟩ := (hnames _ _ hfound).1 ["lib"] rfl
  exact ⟨hfound, hagain⟩

end Source

end GlslFlatten
