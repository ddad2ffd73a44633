import GlslFlatten.Proofs.OutputPaths
import GlslFlatten.Proofs.FileLines

/-!
Slashes in front of a path. A path that starts with slashes is read below the root like the path behind
them, but for segments at its ends that name nothing: they are dropped before the path is joined to the
root. At its end they would tell a directory from a file, and everywhere they add to the length of the
joined path.
-/

namespace GlslFlatten

open Text

namespace Path

variable {p q : Path}

theorem intercalate_segments (p : Path) : "/".intercalate p.segments = p.text :=
  intercalate_splitAt p.text

/-- The segments between the first and the last that count. -/
def inner (p : Path) : List String := dropTrailing skipped (p.segments.dropWhile skipped)

/-- The path without the segments at its ends that name nothing. -/
def trimmed (p : Path) : Path := ofSegments .bare p.inner

/-- The last segment is no empty one and no `.`. -/
def EndsCounting (p : Path) : Prop := ∀ s, p.segments.getLast? = some s → skipped s = false

theorem filter_dropWhile (segments : List String) :
    (segments.dropWhile skipped).filter (!skipped ·) = segments.filter (!skipped ·) := by
  induction segments with
  | nil => rfl
  | cons s rest ih =>
    cases hs : skipped s with
    | true => simp [hs, ih]
    | false => simp [hs]

theorem filter_inner (p : Path) : p.inner.filter (!skipped ·) = p.segments.filter (!skipped ·) := by
  rw [inner, dropTrailing, List.filter_reverse, filter_dropWhile, List.filter_reverse,
    List.reverse_reverse, filter_dropWhile]

theorem prefix_inner (p : Path) : p.inner <+: p.segments.dropWhile skipped := by
  rw [inner, dropTrailing, ← List.reverse_suffix, List.reverse_reverse]
  exact List.dropWhile_suffix skipped

theorem sublist_inner (p : Path) : p.inner.Sublist p.segments :=
  p.prefix_inner.sublist.trans (List.dropWhile_sublist skipped)

theorem head_inner {s : String} {rest : List String} (h : p.inner = s :: rest) : skipped s = false := by
  have hhead := List.head?_dropWhile_not skipped p.segments
  obtain ⟨more, hmore⟩ := p.prefix_inner
  rw [← hmore, h] at hhead
  exact hhead

theorem getLast_inner {s : String} (h : p.inner.getLast? = some s) : skipped s = false := by
  have hhead := List.head?_dropWhile_not skipped (p.segments.dropWhile skipped).reverse
  rw [inner, dropTrailing, List.getLast?_reverse] at h
  rw [h] at hhead
  exact hhead

theorem inner_ne_nil (h : p.EndsCounting) : p.inner ≠ [] := by
  intro hnil
  have hlast := List.getLast?_eq_some_getLast (splitAt_ne_nil '/' p.text)
  have hmem : _ ∈ p.segments.filter (!skipped ·) :=
    List.mem_filter.mpr ⟨List.mem_of_getLast? hlast, by simp [h _ hlast]⟩
  rw [← filter_inner, hnil] at hmem
  exact absurd hmem List.not_mem_nil

theorem segments_trimmed (h : p.inner ≠ []) : p.trimmed.segments = p.inner :=
  splitAt_intercalate (fun _ hs => slash_not_mem_segments (p.sublist_inner.subset hs)) h

theorem text_trimmed (p : Path) : p.trimmed.text = "/".intercalate p.inner := rfl

theorem names_trimmed (p : Path) : p.trimmed.names = p.names := by
  rw [names_eq_filter, names_eq_filter, ← p.filter_inner]
  by_cases h : p.inner = []
  · rw [segments, text_trimmed, h]
    decide
  · rw [segments_trimmed h]

theorem endsCounting_trimmed (h : p.EndsCounting) : p.trimmed.EndsCounting := by
  intro s hs
  rw [segments_trimmed (inner_ne_nil h)] at hs
  exact getLast_inner hs

theorem not_isAbsolute_of_segments {s : String} {rest : List String} (h : p.segments = s :: rest)
    (hs : s ≠ "") : p.isAbsolute = false := by
  apply Bool.eq_false_iff.mpr
  intro habsolute
  have hhead := head_segments_of_isAbsolute habsolute
  rw [h] at hhead
  exact hs (Option.some.inj hhead)

theorem not_isAbsolute_trimmed (p : Path) : p.trimmed.isAbsolute = false := by
  cases h : p.inner with
  | nil =>
    rw [isAbsolute, text_trimmed, h]
    decide
  | cons s rest =>
    have hsegments : p.trimmed.segments = s :: rest := by rw [segments_trimmed (by simp [h]), h]
    apply not_isAbsolute_of_segments hsegments
    rintro rfl
    have hcounts := head_inner h
    simp at hcounts

theorem mem_intercalate {c : Char} (hc : c ≠ '/') {segments : List String} :
    c ∈ ("/".intercalate segments).toList ↔ ∃ s ∈ segments, c ∈ s.toList := by
  induction segments with
  | nil => simp
  | cons s rest ih =>
    cases rest with
    | nil => simp
    | cons t more =>
      rw [String.intercalate_cons_cons, String.toList_append, String.toList_append]
      simp only [List.mem_append, ih, List.exists_mem_cons_iff]
      simp [hc]

/-- The characters of a path, but for those that segments naming nothing have as well. -/
theorem mem_text_iff {c : Char} (hslash : c ≠ '/') (hdot : c ≠ '.') :
    c ∈ p.text.toList ↔ ∃ s ∈ p.names, c ∈ s.toList := by
  rw [← intercalate_segments, mem_intercalate hslash, names_eq_filter]
  refine exists_congr fun s => ?_
  simp only [List.mem_filter, and_assoc]
  refine and_congr_right fun _ => ⟨fun hc => ⟨?_, hc⟩, And.right⟩
  by_contra hskip
  simp only [Bool.not_eq_true', Bool.not_eq_false, skipped, Bool.or_eq_true, decide_eq_true_eq] at hskip
  rcases hskip with rfl | rfl
  · simp at hc
  · simp [hdot] at hc

theorem utf8ByteSize_intercalate_le {part whole : List String} (h : part.Sublist whole) :
    ("/".intercalate part).utf8ByteSize ≤ ("/".intercalate whole).utf8ByteSize := by
  induction h with
  | slnil => exact Nat.le_refl _
  | @cons part whole s _ ih =>
    by_cases hwhole : whole = []
    · simp_all
    · rw [String.intercalate_cons_of_ne_nil hwhole, String.utf8ByteSize_append]
      omega
  | @cons_cons part whole s hsub ih =>
    by_cases hwhole : whole = []
    · subst hwhole
      simp [List.sublist_nil.mp hsub]
    by_cases hpart : part = []
    · subst hpart
      rw [String.intercalate_singleton, String.intercalate_cons_of_ne_nil hwhole]
      simp only [String.utf8ByteSize_append]
      omega
    · rw [String.intercalate_cons_of_ne_nil hpart, String.intercalate_cons_of_ne_nil hwhole]
      simp only [String.utf8ByteSize_append]
      omega

theorem utf8ByteSize_trimmed_le (p : Path) : p.trimmed.text.utf8ByteSize ≤ p.text.utf8ByteSize := by
  rw [← intercalate_segments p]
  exact utf8ByteSize_intercalate_le p.sublist_inner

end Path

namespace Tree

variable {t : Tree} {aim : Aim} {n : Nat} {loc dir : Location} {front rest : List String}

section

variable {s : String} (hs : Path.skipped s = true) (hcounts : ∃ u ∈ rest, Path.skipped u = false)

include hs hcounts

theorem asksDirectory_skip : asksDirectory (front ++ s :: rest) = asksDirectory (front ++ rest) := by
  obtain ⟨u, hu, _⟩ := hcounts
  have hne : rest ≠ [] := List.ne_nil_of_mem hu
  simp [asksDirectory, hs, hne]

theorem inReach_skip : t.inReach aim loc (front ++ s :: rest) = t.inReach aim loc (front ++ rest) := by
  rw [inReach, asksDirectory_skip hs hcounts, ← inReach]

/-- A segment that names nothing can be left out before one that counts. -/
theorem walkVia_skip {f : Location → String → List String → Except IoError Found}
    (hf : ∀ dir target front, f dir target (front ++ s :: rest) = f dir target (front ++ rest)) :
    t.walkVia aim f loc (front ++ s :: rest) = t.walkVia aim f loc (front ++ rest) := by
  obtain ⟨u, hu, hcount⟩ := id hcounts
  have hne : rest ≠ [] := List.ne_nil_of_mem hu
  induction front generalizing loc with
  | nil =>
    obtain ⟨v, more, rfl⟩ := List.exists_cons_of_ne_nil hne
    cases hd : t.isDirectory loc <;> simp [walkVia, hd, hs]
  | cons c front ih =>
    have hu' : u ≠ "" := by
      rintro rfl
      simp at hcount
    have hwhole : (front ++ s :: rest).all (· = "") = false :=
      List.all_eq_false.mpr ⟨u, by simp [hu], by simp [hu']⟩
    have hpart : (front ++ rest).all (· = "") = false :=
      List.all_eq_false.mpr ⟨u, by simp [hu], by simp [hu']⟩
    simp only [List.cons_append, walkVia, ih, hf, inReach_skip hs hcounts, hwhole, hpart, Bool.and_false,
      List.append_eq_nil_iff, List.cons_ne_nil, hne, and_false, if_false]

theorem walk_skip : t.walk aim n loc (front ++ s :: rest) = t.walk aim n loc (front ++ rest) := by
  induction n generalizing loc front with
  | zero => exact walkVia_skip hs hcounts fun _ _ _ => rfl
  | succ n ih =>
    refine walkVia_skip hs hcounts fun dir target front => ?_
    rw [← List.append_assoc, ih, List.append_assoc]

end

/-- A walk depends on the segments that count, if the last one does. -/
theorem walk_filter (hlast : ∀ s, rest.getLast? = some s → Path.skipped s = false) :
    t.walk aim n loc (front ++ rest) = t.walk aim n loc (front ++ rest.filter (!Path.skipped ·)) := by
  induction rest generalizing front with
  | nil => rfl
  | cons s rest ih =>
    have hrest : ∀ u, rest.getLast? = some u → Path.skipped u = false :=
      fun u hu => hlast u (by simp [List.getLast?_cons, hu])
    cases hs : Path.skipped s with
    | true =>
      have hne : rest ≠ [] := by
        rintro rfl
        simp [hs] at hlast
      have hcounts : ∃ u ∈ rest, Path.skipped u = false :=
        ⟨_, List.getLast_mem hne, hrest _ (List.getLast?_eq_some_getLast hne)⟩
      rw [walk_skip hs hcounts, ih hrest, List.filter_cons_of_neg (by simp [hs])]
    | false =>
      rw [List.append_cons, ih hrest, ← List.append_cons, List.filter_cons_of_pos (by simp [hs])]

/-- At the end, a segment that names nothing asks for a directory. -/
theorem Leads.isDirectory_of_skipped {segments : List String} {s : String} (hs : Path.skipped s = true)
    (hlast : segments.getLast? = some s) (h : Leads t aim n loc segments (.entry dir)) :
    t.isDirectory dir = true := by
  generalize hf : Found.entry dir = found at h
  have hbehind : ∀ {u rest}, Path.skipped u = false → (u :: rest).getLast? = some s →
      rest.getLast? = some s := by
    intro u rest hu h
    cases rest with
    | nil =>
      obtain rfl : u = s := by simpa using h
      simp [hs] at hu
    | cons v more => rwa [List.getLast?_cons_cons] at h
  induction h with
  | done => cases hlast
  | @skip n loc u rest found hd _ hl ih =>
    cases rest with
    | nil =>
      cases hl
      exact Found.entry.inj hf ▸ hd
    | cons v more => exact ih (by rwa [List.getLast?_cons_cons] at hlast) hf
  | up hd _ ih => exact ih (hbehind (by simp) hlast) hf
  | vacant _ _ => cases hf
  | link ha _ _ ih => exact ih (by simp [List.getLast?_append, hbehind ha.counts hlast]) hf
  | into ha _ _ _ ih => exact ih (hbehind ha.counts hlast) hf

/-- Behind the same path, a relative path finds what it finds when it is trimmed. -/
theorem finds_trimmed_iff {root q : Path} (hroot : root.text ≠ "") (hq : q.isAbsolute = false)
    (hends : q.EndsCounting) :
    Finds t aim (root.join q) loc ↔ Finds t aim (root.join q.trimmed) loc := by
  obtain ⟨front, _, hsegments⟩ := Path.segments_join hroot
  have htrimmed := q.not_isAbsolute_trimmed
  simp only [Finds, startOf, Path.isAbsolute_join_of_ne hq hroot,
    Path.isAbsolute_join_of_ne htrimmed hroot, hsegments hq, hsegments htrimmed, ← walk_eq_ok_iff]
  rw [walk_filter hends, walk_filter (Path.endsCounting_trimmed hends), ← Path.names_eq_filter,
    ← Path.names_eq_filter, Path.names_trimmed]

theorem endsCounting_of_finds {root q : Path} (hroot : root.text ≠ "") (hq : q.isAbsolute = false)
    (hregular : t.isRegular loc = true) (h : Finds t aim (root.join q) loc) : q.EndsCounting := by
  obtain ⟨front, _, hsegments⟩ := Path.segments_join hroot
  intro s hs
  by_contra hskip
  have hlast : (root.join q).segments.getLast? = some s := by
    rw [hsegments hq, List.getLast?_append, hs, Option.some_or]
  exact not_isDirectory_of_isRegular hregular (h.isDirectory_of_skipped (by simpa using hskip) hlast)

theorem checkText_eq_ok {p : Path} : checkText p = .ok () ↔
    '\x00' ∉ p.text.toList ∧ p.text ≠ "" ∧ p.text.utf8ByteSize ≤ pathLimit := by
  unfold checkText checkName
  split_ifs <;> simp_all [bind, Except.bind]

/-- Trimmed, a path is refused for nothing new, and for everything but its length as before. -/
theorem checkText_join_iff {root q : Path} (hroot : root.text ≠ "") (hq : q.isAbsolute = false) :
    checkText (root.join q) = .ok () ↔
      checkText (root.join q.trimmed) = .ok () ∧ (root.join q).text.utf8ByteSize ≤ pathLimit := by
  obtain ⟨sep, hjoin⟩ := Path.text_join hroot
  have hsize := q.utf8ByteSize_trimmed_le
  have hnul : '\x00' ∈ q.trimmed.text.toList ↔ '\x00' ∈ q.text.toList := by
    rw [Path.mem_text_iff (by decide) (by decide), Path.names_trimmed,
      ← Path.mem_text_iff (by decide) (by decide)]
  have hne : ∀ text : String, root.text ++ sep ++ text ≠ "" := by simp [hroot]
  simp only [checkText_eq_ok, hjoin hq, hjoin q.not_isAbsolute_trimmed, String.toList_append,
    List.mem_append, hnul, String.utf8ByteSize_append, hne, ne_eq, not_false_eq_true, true_and]
  grind

end Tree

def slashes (n : Nat) : String := String.ofList (List.replicate n '/')

namespace Path

variable {n : Nat} {p : String}

theorem isAbsolute_slashes : (Path.mk (slashes (n + 1) ++ p)).isAbsolute = true := by
  simp [isAbsolute, slashes, List.replicate_succ]

theorem segments_slashes :
    (Path.mk (slashes (n + 1) ++ p)).segments = "" :: (Path.mk (slashes n ++ p)).segments := by
  simp [segments, splitAt, slashes, List.replicate_succ, pieces]

theorem inner_slashes : (Path.mk (slashes n ++ p)).inner = (Path.mk p).inner := by
  induction n with
  | zero => simp [slashes]
  | succ n ih =>
    rw [inner, segments_slashes, List.dropWhile_cons_of_pos skipped_empty, ← inner, ih]

theorem stripPrefix?_slashes :
    (Path.mk (slashes (n + 1) ++ p)).stripPrefix? ⟨"/"⟩ = some (Path.mk p).trimmed := by
  have hlead : (Path.mk (slashes (n + 1) ++ p)).lead = .top := by simp [lead, isAbsolute_slashes]
  have hbase : (Path.mk "/").lead = .top ∧ (Path.mk "/").names = [] := by decide
  have hbody : (Path.mk (slashes (n + 1) ++ p)).body = (Path.mk (slashes n ++ p)).segments := by
    rw [body, hlead, segments_slashes, List.tail_cons]
  rw [stripPrefix?, hbase.1, hbase.2, hlead, hbody, if_neg (by simp), if_pos rfl, after?,
    Option.map_some, ← inner, inner_slashes, ← trimmed]

end Path

namespace Source

variable {t : Tree} {root : Path} {p : String} {loc : Location}

theorem underRoot_slashes (root : Path) (n : Nat) (p : String) :
    underRoot root (slashes (n + 1) ++ p) = root.join (Path.mk p).trimmed := by
  simp [underRoot, Path.isAbsolute_slashes, Path.stripPrefix?_slashes]

/-- A file is found behind slashes if it is found without them. It is found without them as well if the
path ends in a segment that counts and is not too long. What is not found is reported as such, and so is
a file whose place has too long a path. -/
theorem resolve_slashes (hroot : root.isAbsolute = true) (hp : (Path.mk p).isAbsolute = false)
    (n : Nat) (t : Tree) :
    (∀ loc, resolve t root p = .ok loc ↔
      resolve t root (slashes (n + 1) ++ p) = .ok loc ∧ (Path.mk p).EndsCounting ∧
        (root.join ⟨p⟩).text.utf8ByteSize ≤ Tree.pathLimit) ∧
    resolve t root (slashes (n + 1) ++ p) = resolve t root ("/" ++ p) ∧
    ∀ q e, resolve t root q = .error e →
      let joined := underRoot root q
      t.isFile joined = false ∧ e = .sourceNotFound joined ∨ t.isFile joined = true ∧
        t.realPath joined = .error .nameTooLong ∧ e = .unlocatable joined .nameTooLong := by
  have hne := Path.text_ne_of_isAbsolute hroot
  refine ⟨fun loc => ?_, ?_, fun q e h => resolve_error h⟩
  · simp only [resolve_eq_ok_iff, underRoot_of_relative hp, underRoot_slashes,
      Tree.checkText_join_iff hne hp]
    constructor
    · rintro ⟨⟨hchecked, hshort⟩, hregular, hfinds⟩
      have hends := Tree.endsCounting_of_finds hne hp hregular hfinds
      have htrimmed := (Tree.finds_trimmed_iff hne hp hends).mp hfinds
      exact ⟨⟨hchecked, hregular, htrimmed⟩, hends, hshort⟩
    · rintro ⟨⟨hchecked, hregular, hfinds⟩, hends, hshort⟩
      exact ⟨⟨hchecked, hshort⟩, hregular, (Tree.finds_trimmed_iff hne hp hends).mpr hfinds⟩
  · have hone : ("/" : String) = slashes (0 + 1) := rfl
    rw [hone, resolve, resolve, underRoot_slashes, underRoot_slashes]

/-- In front of a path with nothing to drop at its end, slashes make no difference. -/
theorem resolve_slashes_sample :
    resolve .sample ⟨"/s"⟩ "./../s//lib" = .ok ["s", "lib"] ∧
      resolve .sample ⟨"/s"⟩ "///./../s//lib" = .ok ["s", "lib"] := by
  have hthree : slashes (2 + 1) ++ "./../s//lib" = "///./../s//lib" := by decide +kernel
  have hroot : (Path.mk "/s").isAbsolute = true := rfl
  have hp : (Path.mk "./../s//lib").isAbsolute = false := rfl
  obtain ⟨hfound, _⟩ := resolve_slashes hroot hp 2 .sample
  have hwithout : resolve .sample ⟨"/s"⟩ "./../s//lib" = .ok ["s", "lib"] := by decide +kernel
  exact ⟨hwithout, hthree ▸ ((hfound _).mp hwithout).1⟩

/-- A slash at the end asks for a directory, unless there is one in front. -/
theorem resolve_slash_at_end :
    resolve .sample ⟨"/s"⟩ "/lib/" = .ok ["s", "lib"] ∧
      resolve .sample ⟨"/s"⟩ "lib/" = .error (.sourceNotFound ⟨"/s/lib/"⟩) := by
  decide +kernel

end Source

end GlslFlatten
