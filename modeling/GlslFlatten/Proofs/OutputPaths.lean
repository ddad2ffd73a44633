import GlslFlatten.Config
import GlslFlatten.Proofs.Locations
import GlslFlatten.Proofs.Utf8
import GlslFlatten.Proofs.Walking

/-!
Where the outputs lie. The output path of a source leads into the build directory, to the name of the
source, or wherever a link of that name leads.
-/

namespace GlslFlatten

open Text

namespace Path

variable {p q : Path}

/-- Between two joined texts stands a slash, unless the first one ends in one. -/
theorem text_join (hp : p.text ≠ "") :
    ∃ sep, ∀ {q : Path}, q.isAbsolute = false → (p.join q).text = p.text ++ sep ++ q.text := by
  by_cases hslash : p.text.toList.getLast? = some '/'
  · exact ⟨"", fun hq => by simp [join, hq, hp, hslash]⟩
  · exact ⟨"/", fun hq => by simp [join, hq, hp, hslash]⟩

theorem segments_of_slash {cs : List Char} (h : p.text.toList = cs ++ ['/']) :
    p.segments = (pieces '/' cs).map .ofList ++ [""] := by
  rw [segments, splitAt, h, pieces_append_cons, List.map_append]
  rfl

/-- The segments of a joined path are those of both, but for what a final slash of the first one adds. -/
theorem segments_join (hp : p.text ≠ "") :
    ∃ front, (p.segments = front ∨ p.segments = front ++ [""]) ∧
      ∀ {q : Path}, q.isAbsolute = false → (p.join q).segments = front ++ q.segments := by
  by_cases hslash : p.text.toList.getLast? = some '/'
  · obtain ⟨cs, hcs⟩ := List.getLast?_eq_some_iff.mp hslash
    refine ⟨(pieces '/' cs).map .ofList, .inr (segments_of_slash hcs), fun {q} hq => ?_⟩
    have hjoin : (p.join q).text = p.text ++ q.text := by simp [join, hq, hp, hslash]
    rw [segments, splitAt, hjoin, String.toList_append, hcs, List.append_assoc, List.singleton_append,
      pieces_append_cons, List.map_append]
    rfl
  · refine ⟨p.segments, .inl rfl, fun {q} hq => ?_⟩
    have hjoin : (p.join q).text.toList = p.text.toList ++ '/' :: q.text.toList := by
      simp [join, hq, hp, hslash]
    rw [segments, splitAt, hjoin, pieces_append_cons, List.map_append]
    rfl

theorem isAbsolute_join_of_ne (hq : q.isAbsolute = false) (hp : p.text ≠ "") :
    (p.join q).isAbsolute = p.isAbsolute := by
  have hne : p.text.toList ≠ [] := by simpa using hp
  unfold join
  split
  · rename_i h
    simp [hq, hp] at h
  · split <;> simp [isAbsolute, List.head?_append_of_ne_nil _ hne]

end Path

theorem PlainName.segments {s : String} (h : PlainName s) : (Path.mk s).segments = [s] := by
  simp [Path.segments, splitAt, pieces_of_not_mem h.2.2]

theorem PlainName.not_isAbsolute {s : String} (h : PlainName s) : (Path.mk s).isAbsolute = false := by
  rw [Path.isAbsolute, decide_eq_false_iff_not]
  exact fun hhead => h.2.2 (List.mem_of_mem_head? hhead)

/-- A foreign name has a replacement character in its text. -/
theorem FileName.plainName_foreign (n : ForeignName) : PlainName (FileName.foreign n).shown := by
  have htext : (FileName.foreign n).shown.toList = Utf8.decodeLossy n.bytes := String.toList_ofList
  have hmem := Utf8.replacement_mem_decodeLossy n.foreign
  have hne : ∀ {s : String}, Utf8.replacement ∉ s.toList → (FileName.foreign n).shown ≠ s := by
    rintro s hs heq
    rw [← heq, htext] at hs
    exact hs hmem
  refine ⟨?_, hne (by decide), ?_⟩
  · simp [Path.skipped, hne (s := "") (by decide), hne (s := ".") (by decide)]
  · rw [htext]
    exact Utf8.ascii_not_mem_decodeLossy (c := 0x2f) (by decide) (by decide) n.single

namespace Tree

/-- Every name in the tree is one that a directory can hold. -/
def Plain (t : Tree) : Prop := ∀ loc e, t.get? loc = some e → loc.Plain

variable {t : Tree} {n : Nat} {loc dir : Location} {found : Found}

/-- A walk along two lists of segments comes to an entry between them, from which it goes on along the
second. Whatever is found from there along other segments is found behind the first list as well. -/
theorem Leads.cut {front rest : List String} (hrest : rest ≠ [] ∨ ∃ dir, found = .entry dir)
    (h : Leads t .opening n loc (front ++ rest) found) :
    ∃ m mid, Leads t .opening m mid rest found ∧ ∀ {rest' found'}, Leads t .opening m mid rest' found' →
      Leads t .opening n loc (front ++ rest') found' := by
  have hadmits : ∀ {loc s front rest'}, Admits t .opening loc s (front ++ rest) →
      Admits t .opening loc s (front ++ rest') :=
    fun ha => { ha with creatable := by simp }
  have hnil : ∀ {n loc segments found}, [] ++ rest = segments → Leads t .opening n loc segments found →
      ∃ m mid, Leads t .opening m mid rest found ∧ ∀ {rest' found'}, Leads t .opening m mid rest' found' →
        Leads t .opening n loc ([] ++ rest') found' := by
    rintro n loc _ found rfl hl
    exact ⟨n, loc, hl, fun hl' => hl'⟩
  generalize hsegments : front ++ rest = segments at h
  -- A link puts the segments of its target before the rest of the first list.
  induction h generalizing front with
  | done =>
    obtain ⟨rfl, rfl⟩ := List.append_eq_nil_iff.mp hsegments
    exact hnil rfl .done
  | skip hd hskip hl ih =>
    cases front with
    | nil => exact hnil hsegments (.skip hd hskip hl)
    | cons s front =>
      obtain ⟨rfl, htail⟩ := List.cons.inj hsegments
      obtain ⟨m, mid, hmid, hmore⟩ := ih hrest htail
      exact ⟨m, mid, hmid, fun hl' => .skip hd hskip (hmore hl')⟩
  | up hd hl ih =>
    cases front with
    | nil => exact hnil hsegments (.up hd hl)
    | cons s front =>
      obtain ⟨rfl, htail⟩ := List.cons.inj hsegments
      obtain ⟨m, mid, hmid, hmore⟩ := ih hrest htail
      exact ⟨m, mid, hmid, fun hl' => .up hd (hmore hl')⟩
  | vacant ha hv =>
    cases front with
    | nil => exact hnil hsegments (.vacant ha hv)
    | cons s front =>
      obtain ⟨_, htail⟩ := List.cons.inj hsegments
      rcases hrest with hne | ⟨dir, hdir⟩
      · exact absurd (List.append_eq_nil_iff.mp htail).2 hne
      · cases hdir
  | link ha hl hleads ih =>
    cases front with
    | nil => exact hnil hsegments (.link ha hl hleads)
    | cons s front =>
      obtain ⟨rfl, rfl⟩ := List.cons.inj hsegments
      obtain ⟨m, mid, hmid, hmore⟩ := ih hrest (List.append_assoc _ _ _)
      refine ⟨m, mid, hmid, fun hl' => ?_⟩
      have hwalk := hmore hl'
      rw [List.append_assoc] at hwalk
      exact .link (hadmits ha) hl hwalk
  | into ha he hl hleads ih =>
    cases front with
    | nil => exact hnil hsegments (.into ha he hl hleads)
    | cons s front =>
      obtain ⟨rfl, rfl⟩ := List.cons.inj hsegments
      obtain ⟨m, mid, hmid, hmore⟩ := ih hrest rfl
      exact ⟨m, mid, hmid, fun hl' => .into (hadmits ha) he hl (hmore hl')⟩

/-- A walk along two lists of segments goes on, at the end of the first, from the entry found there. -/
theorem Leads.split {front rest : List String} (hrest : rest ≠ [])
    (h : Leads t .opening n loc (front ++ rest) found) :
    ∃ m mid, Leads t .opening n loc front (.entry mid) ∧ Leads t .opening m mid rest found := by
  obtain ⟨m, mid, hmid, hmore⟩ := h.cut (.inl hrest)
  have hfront : Leads t .opening n loc (front ++ []) (.entry mid) := hmore .done
  rw [List.append_nil] at hfront
  exact ⟨m, mid, hfront, hmid⟩

/-- A single plain name leads to the entry of that name, if it is no link. -/
theorem Leads.eq_concat {s : String} (hs : PlainName s)
    (hlink : ∀ target, t.get? (dir ++ [s]) ≠ some (.link target))
    (h : Leads t .opening n dir [s] (.entry loc)) : loc = dir ++ [s] := by
  cases h with
  | skip _ hskip _ => exact absurd hskip (by simp [hs.1])
  | up _ _ => exact absurd rfl hs.2.1
  | link _ hl _ => exact absurd hl (hlink _)
  | into _ _ _ hleads =>
    cases hleads
    rfl

/-- A directory is found as well along a path that ends in a slash. -/
theorem Leads.of_slash {front : List String} (h : Leads t .opening n loc (front ++ [""]) (.entry dir)) :
    Leads t .opening n loc front (.entry dir) := by
  obtain ⟨m, mid, hfront, hmid⟩ := h.split (by simp)
  obtain rfl : dir = mid := Found.entry.inj (hmid.eq_of_skipped (by simp))
  exact hfront

/-- The path of a directory and a relative path behind it: the segments before those of the second path
lead to the directory. -/
theorem leads_of_join {p q : Path} (hq : q.isAbsolute = false) (hne : p.text ≠ "")
    (hdir : Finds t .opening p dir) :
    ∃ front, (p.join q).segments = front ++ q.segments ∧
      Leads t .opening linkLimit (startOf t.workdir (p.join q)) front (.entry dir) := by
  obtain ⟨front, hfront, hsegments⟩ := Path.segments_join hne
  rw [startOf, Path.isAbsolute_join_of_ne hq hne, ← startOf, hsegments hq]
  refine ⟨front, rfl, ?_⟩
  rcases hfront with hfront | hfront
  · exact hfront ▸ hdir
  · exact .of_slash (hfront ▸ hdir)

/-- Joined to the path of a directory, a plain name leads to the entry of that name in it, if that is no
link. -/
theorem locate_join {p : Path} {s : String} (hs : PlainName s) (hdir : t.realPath p = .ok dir)
    (hlink : ∀ target, t.get? (dir ++ [s]) ≠ some (.link target))
    (hl : t.locate (p.join ⟨s⟩) = .ok loc) : loc = dir ++ [s] := by
  obtain ⟨_, hjoined⟩ := locate_eq_ok_iff.mp hl
  obtain ⟨hname, hfinds⟩ := realPath_eq_ok_iff.mp hdir
  obtain ⟨front, hsegments, hfront⟩ :=
    leads_of_join hs.not_isAbsolute (text_ne_of_checkName hname) hfinds.opening
  rw [Finds, hsegments, hs.segments] at hjoined
  obtain ⟨m, mid, hmid, hlast⟩ := hjoined.split (by simp)
  obtain rfl : mid = dir := Found.entry.inj (hmid.unique hfront)
  exact hlast.eq_concat hs hlink

/-- What is found from the end of a walk is found along both lists of segments together. A file can be
created there, if the second list does not end the path with slashes. -/
theorem Leads.append {front : List String} {mid : Location}
    (h : Leads t .opening n loc front (.entry mid)) :
    ∃ m, ∀ {aim rest found}, aim ≠ .resolving → (∃ s ∈ rest, s ≠ "") →
      Leads t aim m mid rest found → Leads t aim n loc (front ++ rest) found := by
  have hadmits : ∀ {aim loc s front rest}, Admits t .opening loc s front → aim ≠ .resolving →
      (∃ s ∈ rest, s ≠ "") → Admits t aim loc s (front ++ rest) := by
    rintro aim loc s front rest ha haim ⟨name, hname, hne⟩
    have hlast : (front ++ rest).all (· = "") = false :=
      List.all_eq_false.mpr ⟨name, List.mem_append_right _ hname, by simpa using hne⟩
    exact { ha with creatable := by simp [hlast], near := by simp [inReach, haim] }
  generalize hf : Found.entry mid = entry at h
  induction h with
  | @done n loc =>
    obtain rfl := Found.entry.inj hf
    exact ⟨n, fun _ _ hl => hl⟩
  | skip hd hskip _ ih =>
    obtain ⟨m, hm⟩ := ih hf
    exact ⟨m, fun haim hrest hl => .skip hd hskip (hm haim hrest hl)⟩
  | up hd _ ih =>
    obtain ⟨m, hm⟩ := ih hf
    exact ⟨m, fun haim hrest hl => .up hd (hm haim hrest hl)⟩
  | vacant _ _ => cases hf
  | link ha hlink _ ih =>
    obtain ⟨m, hm⟩ := ih hf
    refine ⟨m, fun haim hrest hl => ?_⟩
    have hwalk := hm haim hrest hl
    rw [List.append_assoc] at hwalk
    exact .link (hadmits ha haim hrest) hlink hwalk
  | into ha he hlink _ ih =>
    obtain ⟨m, hm⟩ := ih hf
    exact ⟨m, fun haim hrest hl => .into (hadmits ha haim hrest) he hlink (hm haim hrest hl)⟩

/-- Without links on the way, plain names lead to where they say. -/
theorem Leads.eq_of_names {segments names : List String} {aim : Aim}
    (hnames : segments.filter (!Path.skipped ·) = names) (hplain : ∀ s ∈ names, PlainName s)
    (hlink : ∀ above, above <+: names → ∀ target, t.get? (loc ++ above) ≠ some (.link target))
    (h : Leads t aim n loc segments (.entry dir)) : dir = loc ++ names := by
  induction segments generalizing loc names with
  | nil =>
    cases h
    rw [← hnames, List.filter_nil, List.append_nil]
  | cons s rest ih =>
    cases hskip : Path.skipped s with
    | true =>
      rw [List.filter_cons_of_neg (by simp [hskip])] at hnames
      exact ih hnames hplain hlink (h.of_skipped hskip)
    | false =>
      rw [List.filter_cons_of_pos (by simp [hskip])] at hnames
      subst hnames
      obtain ⟨hs, hrest⟩ := List.forall_mem_cons.mp hplain
      cases h with
      | skip _ hskip' _ => simp [hskip] at hskip'
      | up _ _ => exact absurd rfl hs.2.1
      | link _ hl _ => exact absurd hl (hlink [s] (by simp) _)
      | into _ _ _ hl =>
        rw [ih rfl hrest (fun above ha target => ?_) hl, List.append_assoc, List.singleton_append]
        rw [List.append_assoc, List.singleton_append]
        exact hlink _ (List.cons_prefix_cons.mpr ⟨rfl, ha⟩) target

end Tree

/-- What is directly in the root is what its name means, if no link is on the way. -/
theorem Source.eq_concat_of_locate {t : Tree} {root loc : Location} {name : String}
    (hroot : root.Plain) (hname : PlainName name)
    (hlink : ∀ above, above <+: root ++ [name] → ∀ target, t.get? above ≠ some (.link target))
    (h : t.locate (underRoot root.path name) = .ok loc) : loc = root ++ [name] := by
  have habsolute : (Path.mk name).isAbsolute = false := hname.not_isAbsolute
  obtain ⟨_, hleads⟩ := Tree.locate_eq_ok_iff.mp h
  have hne := Path.text_ne_of_isAbsolute (Location.isAbsolute_path root)
  rw [underRoot_of_relative habsolute, Tree.Finds, Tree.startOf,
    if_pos (Path.isAbsolute_join (Location.isAbsolute_path root) _)] at hleads
  obtain ⟨front, hfront, hsegments⟩ := Path.segments_join hne
  have hfilter : front.filter (!Path.skipped ·) = root := by
    have hpath := Location.names_path hroot
    rw [Path.names_eq_filter] at hpath
    rcases hfront with hfront | hfront
    · rwa [hfront] at hpath
    · rwa [hfront, List.filter_append, List.filter_cons_of_neg (by simp), List.filter_nil,
        List.append_nil] at hpath
  have hcounted : (root.path.join ⟨name⟩).segments.filter (!Path.skipped ·) = root ++ [name] := by
    rw [hsegments habsolute, hname.segments, List.filter_append, hfilter,
      List.filter_cons_of_pos (by simp [hname.1]), List.filter_nil]
  have hloc := hleads.eq_of_names hcounted (hroot.concat hname) hlink
  rwa [List.nil_append] at hloc

end GlslFlatten
