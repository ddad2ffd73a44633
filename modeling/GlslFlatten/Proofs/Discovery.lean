import GlslFlatten.Proofs.OutputPaths
import Mathlib.Data.List.Sort

/-!
The sources of a run: which files they are, and the order of their names, which is also that of their
bytes.
-/

namespace GlslFlatten

namespace Text.Utf8

theorem ofNat_cons_lt {a b : Nat} {xs ys : List UInt8} (ha : a < 256) (hb : b < 256) (hle : a ≤ b)
    (h : a = b → xs < ys) : UInt8.ofNat a :: xs < UInt8.ofNat b :: ys := by
  have ha' : (UInt8.ofNat a).toNat = a := by
    rw [UInt8.toNat_ofNat']
    omega
  have hb' : (UInt8.ofNat b).toNat = b := by
    rw [UInt8.toNat_ofNat']
    omega
  rw [List.cons_lt_cons_iff, UInt8.lt_iff_toNat_lt, ha', hb']
  rcases Nat.lt_or_eq_of_le hle with hlt | heq
  · exact .inl hlt
  · exact .inr ⟨congrArg UInt8.ofNat heq, h heq⟩

/-- A smaller character is encoded in smaller bytes, whatever follows either of them. -/
theorem encodeChar_append_lt {c d : Char} (h : c < d) (xs ys : List UInt8) :
    String.utf8EncodeChar c ++ xs < String.utf8EncodeChar d ++ ys := by
  have hvw : c.val.toNat < d.val.toNat := h
  have hw : d.val.toNat < 0x110000 := by
    rcases d.valid with hd | ⟨_, hd⟩
    · exact Nat.lt_trans hd (by decide)
    · exact hd
  simp only [String.utf8EncodeChar]
  generalize c.val.toNat = v at hvw
  generalize d.val.toNat = w at hvw hw
  -- Of two lengths the longer one has the greater first byte. Bytes of one length are compared like
  -- the digits of a number: while they agree, the next ones decide.
  split <;> split <;> repeat' split
  all_goals try omega
  all_goals simp only [List.cons_append, List.nil_append]
  all_goals refine ofNat_cons_lt (by omega) (by omega) (by omega) fun hfirst => ?_
  all_goals try omega
  all_goals refine ofNat_cons_lt (by omega) (by omega) (by omega) fun hsecond => ?_
  all_goals try omega
  all_goals refine ofNat_cons_lt (by omega) (by omega) (by omega) fun hthird => ?_
  all_goals try omega
  all_goals refine ofNat_cons_lt (by omega) (by omega) (by omega) fun hfourth => ?_
  all_goals omega

theorem encode_lt {cs ds : List Char} (h : cs < ds) : encode cs < encode ds := by
  induction cs generalizing ds with
  | nil =>
    cases ds with
    | nil => exact absurd h (by simp)
    | cons d ds =>
      obtain ⟨b, bs, hb⟩ := List.exists_cons_of_ne_nil (show String.utf8EncodeChar d ≠ [] by simp)
      rw [encode, encode, List.flatMap_nil, List.flatMap_cons, hb]
      exact List.nil_lt_cons _ _
  | cons c cs ih =>
    cases ds with
    | nil => exact absurd h (by simp)
    | cons d ds =>
      rw [encode, encode, List.flatMap_cons, List.flatMap_cons]
      rcases List.cons_lt_cons_iff.mp h with hlt | ⟨rfl, hrest⟩
      · exact encodeChar_append_lt hlt _ _
      · exact List.append_left_lt (ih hrest)

/-- Texts are ordered like their bytes. -/
theorem bytes_lt {s t : String} (h : s < t) : bytes s < bytes t := encode_lt (String.lt_iff.mp h)

end Text.Utf8

namespace Tree

/-- Every location has one entry at most, and so has every foreign name in a directory. -/
structure Distinct (t : Tree) : Prop where
  entries : (t.entries.map (·.1)).Nodup
  foreign : (t.foreign.map (·.1)).Nodup

theorem distinct_iff {t : Tree} :
    t.Distinct ↔ (t.entries.map (·.1)).Nodup ∧ (t.foreign.map (·.1)).Nodup :=
  ⟨fun h => ⟨h.entries, h.foreign⟩, fun h => ⟨h.1, h.2⟩⟩

instance (t : Tree) : Decidable t.Distinct := decidable_of_iff _ distinct_iff.symm

/-- What a directory holds under a name. -/
def child? (t : Tree) (dir : Location) : FileName → Option Entry
  | .text s => t.get? (dir ++ [s])
  | .foreign n => t.foreign.lookup (dir, n)

/-- Under keys that are all different, what is stored is what is found. -/
theorem lookup_eq_some_iff_mem {α β : Type} [BEq α] [LawfulBEq α] {l : List (α × β)}
    (h : (l.map (·.1)).Nodup) {k : α} {v : β} : l.lookup k = some v ↔ (k, v) ∈ l := by
  rw [List.lookup_eq_some_iff]
  constructor
  · rintro ⟨before, after, rfl, _⟩
    simp
  · intro hm
    obtain ⟨before, after, rfl⟩ := List.append_of_mem hm
    refine ⟨before, after, rfl, fun other hother => ?_⟩
    rw [List.map_append, List.nodup_append] at h
    have hne := h.2.2 other.1 (List.mem_map_of_mem hother) k (by simp)
    simpa using hne.symm

theorem Distinct.get?_eq_some_iff {t : Tree} (h : t.Distinct) {loc : Location} (hl : loc ≠ [])
    {e : Entry} : t.get? loc = some e ↔ (loc, e) ∈ t.entries := by
  rw [get?, if_neg hl, lookup_eq_some_iff_mem h.entries]

theorem textChild?_eq_some_iff {dir : Location} {x : Location × Entry} {y : FileName × Entry} :
    textChild? dir x = some y ↔ ∃ s, x.1 = dir ++ [s] ∧ y = (.text s, x.2) := by
  rw [textChild?, Option.bind_eq_some_iff]
  constructor
  · rintro ⟨s, hlast, hsome⟩
    split at hsome
    · rename_i hdir
      obtain ⟨front, hfront⟩ := List.getLast?_eq_some_iff.mp hlast
      rw [hfront, List.dropLast_concat] at hdir
      exact ⟨s, hdir ▸ hfront, (Option.some.inj hsome).symm⟩
    · cases hsome
  · rintro ⟨s, hx, rfl⟩
    exact ⟨s, by simp [hx], by simp [hx]⟩

theorem foreignChild?_eq_some_iff {dir : Location} {x : (Location × ForeignName) × Entry}
    {y : FileName × Entry} :
    foreignChild? dir x = some y ↔ ∃ n, x.1 = (dir, n) ∧ y = (.foreign n, x.2) := by
  obtain ⟨⟨loc, n⟩, e⟩ := x
  simp only [foreignChild?, Option.ite_none_right_eq_some, Option.some.injEq, Prod.mk.injEq]
  constructor
  · rintro ⟨rfl, rfl⟩
    exact ⟨n, ⟨rfl, rfl⟩, rfl⟩
  · rintro ⟨_, ⟨rfl, rfl⟩, rfl⟩
    exact ⟨rfl, rfl⟩

/-- A child, as it is stored. -/
theorem mem_children {t : Tree} {dir : Location} {name : FileName} {e : Entry} :
    (name, e) ∈ t.children dir ↔ match name with
      | .text s => (dir ++ [s], e) ∈ t.entries
      | .foreign n => ((dir, n), e) ∈ t.foreign := by
  simp only [children, List.mem_append, List.mem_filterMap, textChild?_eq_some_iff,
    foreignChild?_eq_some_iff]
  cases name with
  | text s =>
    constructor
    · rintro (⟨⟨loc, e'⟩, hm, s', hx, heq⟩ | ⟨x, hm, n, hx, heq⟩)
      · cases heq
        cases hx
        exact hm
      · cases heq
    · exact fun hm => .inl ⟨_, hm, s, rfl, rfl⟩
  | foreign n =>
    constructor
    · rintro (⟨x, hm, s, hx, heq⟩ | ⟨⟨place, e'⟩, hm, n', hx, heq⟩)
      · cases heq
      · cases heq
        cases hx
        exact hm
    · exact fun hm => .inr ⟨_, hm, n, rfl, rfl⟩

/-- Whatever is listed in a directory can be found in it. -/
theorem exists_child?_of_mem_children {t : Tree} {dir : Location} {child : FileName × Entry}
    (h : child ∈ t.children dir) : ∃ e, t.child? dir child.1 = some e := by
  have hfound : ∀ {α : Type} [BEq α] [LawfulBEq α] {l : List (α × Entry)} {k : α} {e : Entry},
      (k, e) ∈ l → ∃ e', l.lookup k = some e' := by
    intro α _ _ l k e hm
    cases hl : l.lookup k with
    | some e' => exact ⟨e', rfl⟩
    | none =>
      have := List.lookup_eq_none_iff.mp hl _ hm
      simp at this
  obtain ⟨name, e⟩ := child
  have hm := mem_children.mp h
  cases name with
  | text s =>
    obtain ⟨e', he'⟩ := hfound hm
    exact ⟨e', by rw [child?, get?, if_neg (by simp), he']⟩
  | foreign n => exact hfound hm

theorem Distinct.mem_children_iff {t : Tree} (h : t.Distinct) {dir : Location} {name : FileName}
    {e : Entry} : (name, e) ∈ t.children dir ↔ t.child? dir name = some e := by
  rw [mem_children]
  cases name with
  | text s => exact (h.get?_eq_some_iff (by simp)).symm
  | foreign n => exact (lookup_eq_some_iff_mem h.foreign).symm

/-- A list that is filtered keeps its keys apart, as long as each new key comes from one old key only. -/
theorem nodup_keys_filterMap {α β γ δ : Type} {l : List (α × β)} (h : (l.map (·.1)).Nodup)
    {f : α × β → Option (γ × δ)}
    (hf : ∀ x x' y y', f x = some y → f x' = some y' → y.1 = y'.1 → x.1 = x'.1) :
    ((l.filterMap f).map (·.1)).Nodup := by
  rw [List.Nodup, List.pairwise_map] at h ⊢
  exact h.filterMap f fun x x' hne y hy y' hy' heq => hne (hf x x' y y' hy hy' heq)

theorem Distinct.nodup_children {t : Tree} (h : t.Distinct) (dir : Location) :
    ((t.children dir).map (·.1)).Nodup := by
  rw [children, List.map_append]
  refine List.Nodup.append (nodup_keys_filterMap h.entries ?_) (nodup_keys_filterMap h.foreign ?_) ?_
  · intro x x' y y' hy hy' heq
    obtain ⟨s, hx, rfl⟩ := textChild?_eq_some_iff.mp hy
    obtain ⟨s', hx', rfl⟩ := textChild?_eq_some_iff.mp hy'
    cases heq
    rw [hx, hx']
  · intro x x' y y' hy hy' heq
    obtain ⟨n, hx, rfl⟩ := foreignChild?_eq_some_iff.mp hy
    obtain ⟨n', hx', rfl⟩ := foreignChild?_eq_some_iff.mp hy'
    cases heq
    rw [hx, hx']
  · intro name htext hforeign
    simp only [List.mem_map, List.mem_filterMap, textChild?_eq_some_iff,
      foreignChild?_eq_some_iff] at htext hforeign
    obtain ⟨_, ⟨_, _, s, _, rfl⟩, rfl⟩ := htext
    obtain ⟨_, ⟨_, _, n, _, rfl⟩, heq⟩ := hforeign
    cases heq

end Tree

namespace Source

theorem hasExtension_iff {name extension : String} : hasExtension name extension = true ↔
    ∃ front ≠ "", name = front ++ extension := by
  rw [hasExtension, Bool.and_eq_true, decide_eq_true_eq, List.isSuffixOf_iff_suffix]
  constructor
  · rintro ⟨hlt, front, hfront⟩
    have hname : name = .ofList front ++ extension := by
      rw [← String.toList_inj, String.toList_append, String.toList_ofList, hfront]
    refine ⟨.ofList front, ?_, hname⟩
    intro hempty
    rw [hempty, String.empty_append] at hname
    rw [hname] at hlt
    exact absurd hlt (Nat.lt_irrefl _)
  · rintro ⟨front, hfront, rfl⟩
    refine ⟨?_, front.toList, by rw [String.toList_append]⟩
    rw [String.utf8ByteSize_append]
    have hpos : 0 < front.utf8ByteSize :=
      Nat.pos_of_ne_zero fun hzero => hfront (String.utf8ByteSize_eq_zero_iff.mp hzero)
    omega

theorem of_discover {t : Tree} {config : Config} {sources : List String}
    (h : discover t config = .ok sources) :
    ∃ root, t.locate config.root = .ok root ∧ t.isDirectory root = true := by
  unfold discover at h
  cases hlist : t.list config.root with
  | error e =>
    rw [hlist] at h
    cases h
  | ok children =>
    unfold Tree.list at hlist
    cases hroot : t.locate config.root with
    | error e => simp [hroot, bind, Except.bind] at hlist
    | ok root =>
      refine ⟨root, rfl, ?_⟩
      by_contra hdir
      simp [hroot, hdir, bind, Except.bind] at hlist

/-- The names in the root that are listed as sources, in the order in which they are stored. -/
def names (t : Tree) (config : Config) (root : Location) : List FileName :=
  ((t.children root).filter fun child => isSource config.extensions child.1.shown child.2).map (·.1)

theorem discover_eq_of_locate {t : Tree} {config : Config} {root : Location}
    (hroot : t.locate config.root = .ok root) (hdir : t.isDirectory root = true) :
    discover t config = .ok (((names t config root).map FileName.shown).mergeSort (· ≤ ·)) := by
  simp [discover, names, Tree.list, hroot, hdir, bind, Except.bind, Function.comp_def]

theorem sorted_mergeSort (names : List String) :
    (names.mergeSort (· ≤ ·)).Pairwise (· ≤ ·) := by
  refine (List.pairwise_mergeSort ?_ ?_ names).imp of_decide_eq_true
  · intro a b c hab hbc
    exact decide_eq_true (String.le_trans (of_decide_eq_true hab) (of_decide_eq_true hbc))
  · intro a b
    simpa using String.le_total a b

variable {t : Tree} {config : Config} {root : Location} {sources : List String} {name : FileName}

/-- A source has the name of a regular file directly in the root, and its text ends with an
extension. -/
def Listed (t : Tree) (config : Config) (root : Location) (name : FileName) : Prop :=
  (∃ e, t.child? root name = some e ∧ e.isRegular = true) ∧
    ∃ extension ∈ config.extensions, ∃ front ≠ "", name.shown = front ++ extension

theorem isSource_iff {extensions : List String} {text : String} {e : Entry} :
    isSource extensions text e = true ↔
      e.isRegular = true ∧ ∃ extension ∈ extensions, ∃ front ≠ "", text = front ++ extension := by
  simp only [isSource, Bool.and_eq_true, List.any_eq_true, hasExtension_iff]

theorem mem_names_iff (h : t.Distinct) : name ∈ names t config root ↔ Listed t config root name := by
  rw [names, List.mem_map]
  constructor
  · rintro ⟨⟨_, e⟩, hm, rfl⟩
    obtain ⟨hchild, hsource⟩ := List.mem_filter.mp hm
    obtain ⟨hregular, hends⟩ := isSource_iff.mp hsource
    exact ⟨⟨e, h.mem_children_iff.mp hchild, hregular⟩, hends⟩
  · rintro ⟨⟨e, hchild, hregular⟩, hends⟩
    exact ⟨(name, e), List.mem_filter.mpr ⟨h.mem_children_iff.mpr hchild,
      isSource_iff.mpr ⟨hregular, hends⟩⟩, rfl⟩

theorem nodup_names (h : t.Distinct) (config : Config) (root : Location) :
    (names t config root).Nodup :=
  (h.nodup_children root).sublist (List.filter_sublist.map _)

/-- A source is the text of a name in the root. -/
theorem exists_child?_of_mem_discover (hroot : t.locate config.root = .ok root)
    (hdir : t.isDirectory root = true) (hs : discover t config = .ok sources) {source : String}
    (hm : source ∈ sources) : ∃ name e, name.shown = source ∧ t.child? root name = some e := by
  rw [discover_eq_of_locate hroot hdir] at hs
  cases hs
  obtain ⟨name, hname, rfl⟩ := List.mem_map.mp (List.mem_mergeSort.mp hm)
  obtain ⟨child, hchild, rfl⟩ := List.mem_map.mp hname
  obtain ⟨e, he⟩ := Tree.exists_child?_of_mem_children (List.mem_filter.mp hchild).1
  exact ⟨child.1, e, rfl, he⟩

theorem plainName_of_mem_discover (hplain : t.Plain) (hroot : t.locate config.root = .ok root)
    (hdir : t.isDirectory root = true) (hs : discover t config = .ok sources) {source : String}
    (hm : source ∈ sources) : PlainName source := by
  obtain ⟨name, e, rfl, he⟩ := exists_child?_of_mem_discover hroot hdir hs hm
  cases name with
  | text s => exact hplain _ e he s (by simp)
  | foreign n => exact FileName.plainName_foreign n

/-- The sources are the texts of the listed names, in ascending order. A text that stands for several
names comes as often. -/
theorem perm_discover (hroot : t.locate config.root = .ok root) (hdir : t.isDirectory root = true)
    (hs : discover t config = .ok sources) :
    sources.Perm ((names t config root).map FileName.shown) ∧ sources.Pairwise (· ≤ ·) := by
  rw [discover_eq_of_locate hroot hdir] at hs
  cases hs
  exact ⟨List.mergeSort_perm _ _, sorted_mergeSort _⟩

theorem mem_discover_iff (h : t.Distinct) (hroot : t.locate config.root = .ok root)
    (hdir : t.isDirectory root = true) (hs : discover t config = .ok sources) {source : String} :
    source ∈ sources ↔ ∃ name, name.shown = source ∧ Listed t config root name := by
  rw [(perm_discover hroot hdir hs).1.mem_iff, List.mem_map]
  exact exists_congr fun name => by rw [mem_names_iff h, and_comm]

/-- The order of the sources is that of their bytes. -/
theorem pairwise_discover (hroot : t.locate config.root = .ok root)
    (hdir : t.isDirectory root = true) (hs : discover t config = .ok sources) :
    (sources.map Text.Utf8.bytes).Pairwise (· ≤ ·) := by
  rw [List.pairwise_map]
  refine (perm_discover hroot hdir hs).2.imp fun {a b} hle => ?_
  by_cases heq : a = b
  · rw [heq]
    exact List.le_refl _
  · exact List.le_of_lt (Text.Utf8.bytes_lt (Std.lt_of_le_of_ne hle heq))

/-- Without foreign names every source comes once. -/
theorem strict_discover (h : t.Distinct) (hroot : t.locate config.root = .ok root)
    (hdir : t.isDirectory root = true) (hs : discover t config = .ok sources)
    (htext : ∀ n, ¬ Listed t config root (.foreign n)) :
    (sources.map Text.Utf8.bytes).Pairwise (· < ·) := by
  have hnodup : sources.Nodup := by
    refine (perm_discover hroot hdir hs).1.nodup_iff.mpr ?_
    refine (nodup_names h config root).map_on fun name hname other hother heq => ?_
    rw [mem_names_iff h] at hname hother
    cases name with
    | foreign n => exact absurd hname (htext n)
    | text s =>
      cases other with
      | foreign n => exact absurd hother (htext n)
      | text s' => exact congrArg FileName.text heq
  rw [List.pairwise_map]
  exact ((perm_discover hroot hdir hs).2.and hnodup).imp
    fun ⟨hle, hne⟩ => Text.Utf8.bytes_lt (Std.lt_of_le_of_ne hle hne)

/-- Trees with the same regular files directly in the root have the same sources. -/
theorem discover_eq {t' : Tree} (h : t.Distinct) (h' : t'.Distinct)
    (hroot : t.locate config.root = .ok root) (hdir : t.isDirectory root = true)
    (hroot' : t'.locate config.root = .ok root) (hdir' : t'.isDirectory root = true)
    (hfiles : ∀ name, (∃ e, t'.child? root name = some e ∧ e.isRegular = true) ↔
      ∃ e, t.child? root name = some e ∧ e.isRegular = true)
    (hs : discover t config = .ok sources) : discover t' config = .ok sources := by
  have hperm : (names t' config root).Perm (names t config root) := by
    refine (List.perm_ext_iff_of_nodup (nodup_names h' config root) (nodup_names h config root)).mpr
      fun name => ?_
    rw [mem_names_iff h', mem_names_iff h, Listed, Listed, hfiles]
  obtain ⟨hsources, hsorted⟩ := perm_discover hroot hdir hs
  have hs' := discover_eq_of_locate hroot' hdir'
  obtain ⟨hsources', hsorted'⟩ := perm_discover hroot' hdir' hs'
  rw [hs']
  exact congrArg Except.ok (((hsources'.trans (hperm.map _)).trans hsources.symm).eq_of_pairwise
    (fun a b _ _ hab hba => String.le_antisymm hab hba) hsorted' hsorted)

end Source

end GlslFlatten
