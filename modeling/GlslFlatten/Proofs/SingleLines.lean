import GlslFlatten.Failure
import GlslFlatten.Proofs.Locations
import GlslFlatten.Proofs.Utf8
import GlslFlatten.Text.Digit

/-!
Texts without line feeds. Paths that are made of such texts are such texts, and so are messages about
them.
-/

namespace GlslFlatten

open Text

theorem Text.subset_of_mem_pieces {α : Type} [DecidableEq α] {sep : α} {xs p : List α}
    (h : p ∈ pieces sep xs) : p ⊆ xs := by
  induction xs generalizing p with
  | nil => simp_all [pieces]
  | cons a rest ih =>
    by_cases ha : a = sep
    · simp only [pieces, if_pos ha, List.mem_cons] at h
      rcases h with rfl | h
      · exact List.nil_subset _
      · exact List.subset_cons_of_subset a (ih h)
    · simp only [pieces, if_neg ha] at h
      cases hr : pieces sep rest with
      | nil => exact absurd hr (pieces_ne_nil sep rest)
      | cons q qs =>
        simp only [hr, List.mem_cons] at h ih
        rcases h with rfl | h
        · exact List.cons_subset_cons a (ih (Or.inl rfl))
        · exact List.subset_cons_of_subset a (ih (Or.inr h))

def SingleLine (s : String) : Prop := '\n' ∉ s.toList

instance (s : String) : Decidable (SingleLine s) := inferInstanceAs (Decidable (_ ∉ _))

namespace SingleLine

theorem append_iff {s t : String} : SingleLine (s ++ t) ↔ SingleLine s ∧ SingleLine t := by
  simp [SingleLine, not_or]

theorem append {s t : String} (hs : SingleLine s) (ht : SingleLine t) : SingleLine (s ++ t) :=
  append_iff.mpr ⟨hs, ht⟩

theorem ofList_iff {cs : List Char} : SingleLine (.ofList cs) ↔ '\n' ∉ cs := by
  simp [SingleLine]

theorem toString (n : Nat) : SingleLine (toString n) := by
  have hn : '\n' ∉ Nat.toDigits 10 n := Text.not_mem_toDigits (by decide) n
  simpa [SingleLine] using hn

theorem of_subset {s t : String} (h : SingleLine t) (hs : s.toList ⊆ t.toList) : SingleLine s :=
  fun hm => h (hs hm)

/-- A text of one line is not cut up. -/
theorem splitAt {s : String} (h : SingleLine s) : splitAt '\n' s = [s] := by
  rw [Text.splitAt, pieces_of_not_mem h, List.map_singleton, String.ofList_toList]

theorem flatMap_splitAt {texts : List String} (h : ∀ text ∈ texts, SingleLine text) :
    texts.flatMap (Text.splitAt '\n') = texts := by
  induction texts with
  | nil => rfl
  | cons text texts ih =>
    obtain ⟨ht, hts⟩ := List.forall_mem_cons.mp h
    rw [List.flatMap_cons, splitAt ht, ih hts, List.singleton_append]

theorem intercalate {sep : String} (hsep : SingleLine sep) {texts : List String}
    (h : ∀ text ∈ texts, SingleLine text) : SingleLine (sep.intercalate texts) := by
  induction texts with
  | nil => exact (by decide : SingleLine "")
  | cons text texts ih =>
    obtain ⟨ht, hts⟩ := List.forall_mem_cons.mp h
    cases texts with
    | nil => simpa using ht
    | cons next more =>
      rw [String.intercalate_cons_cons]
      exact (ht.append hsep).append (ih hts)

theorem of_mem_splitAt {s piece : String} {sep : Char} (h : SingleLine s)
    (hp : piece ∈ Text.splitAt sep s) : SingleLine piece := by
  obtain ⟨cs, hcs, rfl⟩ := List.mem_map.mp hp
  refine h.of_subset ?_
  rw [String.toList_ofList]
  exact Text.subset_of_mem_pieces hcs

end SingleLine

namespace Path

variable {p q base : Path}

theorem singleLine_join (hp : SingleLine p.text) (hq : SingleLine q.text) :
    SingleLine (p.join q).text := by
  have hslash : SingleLine "/" := by decide
  unfold join
  split
  · exact hq
  · split
    · exact hp.append hq
    · exact (hp.append hslash).append hq

theorem singleLine_ofSegments (lead : Lead) {segments : List String}
    (h : ∀ s ∈ segments, SingleLine s) : SingleLine (ofSegments lead segments).text := by
  have hslash : SingleLine "/" := by decide
  have hdot : SingleLine "." := by decide
  have hhere : SingleLine "./" := by decide
  have hrest : SingleLine ("/".intercalate segments) := hslash.intercalate h
  cases lead with
  | top => exact hslash.append hrest
  | here =>
    simp only [ofSegments]
    split
    · exact hdot
    · exact hhere.append hrest
  | bare => exact hrest

theorem singleLine_of_mem_body (h : SingleLine p.text) {s : String} (hs : s ∈ p.body) :
    SingleLine s := by
  have hsegments : s ∈ p.segments := by
    unfold body at hs
    split at hs
    · exact hs
    · exact List.mem_of_mem_tail hs
  exact h.of_mem_splitAt hsegments

theorem after?_subset {segments names rest : List String} (h : after? segments names = some rest) :
    rest ⊆ segments := by
  induction names generalizing segments with
  | nil =>
    cases h
    exact fun _ hs => hs
  | cons n ns ih =>
    rw [after?] at h
    split at h
    · rename_i s more hdrop
      split at h
      · intro u hu
        have hmore : u ∈ segments.dropWhile skipped := hdrop ▸ List.mem_cons_of_mem s (ih h hu)
        exact (List.dropWhile_sublist skipped).subset hmore
      · cases h
    · cases h

theorem singleLine_stripPrefix? (h : SingleLine p.text) (hq : p.stripPrefix? base = some q) :
    SingleLine q.text := by
  unfold stripPrefix? at hq
  split at hq
  · cases hq
    exact singleLine_ofSegments _ fun s hs => singleLine_of_mem_body h (dropTrailing_subset _ _ hs)
  split at hq
  · obtain ⟨rest, hrest, rfl⟩ := Option.map_eq_some_iff.mp hq
    refine singleLine_ofSegments _ fun s hs => singleLine_of_mem_body h (after?_subset hrest ?_)
    exact (List.dropWhile_sublist skipped).subset (dropTrailing_subset _ _ hs)
  · cases hq

theorem singleLine_parent? (h : SingleLine p.text) (hq : p.parent? = some q) :
    SingleLine q.text := by
  unfold parent? at hq
  split at hq
  · cases hq
    decide
  · cases hq
  · cases hq
    refine singleLine_ofSegments _ fun s hs => singleLine_of_mem_body h ?_
    exact dropTrailing_subset _ _ (List.dropLast_subset _ (dropTrailing_subset _ _ hs))

end Path

namespace Source

theorem singleLine_underRoot {root : Path} (hroot : SingleLine root.text) {path : String}
    (hpath : SingleLine path) : SingleLine (underRoot root path).text := by
  simp only [underRoot]
  split
  · refine Path.singleLine_join hroot ?_
    cases hs : (Path.mk path).stripPrefix? ⟨"/"⟩ with
    | none => exact hpath
    | some q => exact Path.singleLine_stripPrefix? hpath hs
  · exact Path.singleLine_join hroot hpath

theorem singleLine_displayName {p : Path} (h : SingleLine p.text) (root : Path) :
    SingleLine (displayName root p) := by
  have hrest : SingleLine ((p.stripPrefix? root).getD p).text := by
    cases hs : p.stripPrefix? root with
    | none => exact h
    | some q => exact Path.singleLine_stripPrefix? h hs
  unfold displayName
  rw [SingleLine.ofList_iff]
  intro hm
  obtain ⟨c, hc, hn⟩ := List.mem_map.mp hm
  split at hn
  · cases hn
  · exact hrest (hn ▸ hc)

end Source

theorem DefectKind.singleLine_message (kind : DefectKind) : SingleLine kind.message := by
  cases kind with
  | unterminated quoting => cases quoting <;> decide
  | missingDelimiter => decide
  | emptyPath => decide
  | trailingTokens => decide

namespace Directive

theorem target?_subset {cs target : List Char} {before : Nat} (h : target? cs = some (before, target)) :
    target ⊆ cs := by
  unfold target? at h
  simp only at h
  split at h
  · split at h
    · cases h
    · cases h
      intro c hc
      have htail := (List.dropWhile_sublist isBlank).subset hc
      exact (List.dropWhile_sublist isBlank).subset (List.mem_of_mem_drop htail)
  · cases h

/-- What is blamed in a target stands in it. -/
theorem subset_of_readTarget_error {column : Nat} {target : List Char} {defect : Defect}
    (h : readTarget column target = .error defect) : defect.found.toList ⊆ target := by
  unfold readTarget at h
  split at h
  · cases h
    exact List.nil_subset _
  rename_i c inner
  split at h
  · cases h
    simp
  rename_i quoting _
  simp only at h
  split at h
  · cases h
    exact List.nil_subset _
  rename_i closing rest hrest
  split at h
  · cases h
    exact List.nil_subset _
  split at h
  · cases h
  · cases h
    intro d hd
    rw [String.toList_ofList] at hd
    have hmem : d ∈ inner.dropWhile (· ≠ quoting.closing) :=
      hrest ▸ List.mem_cons_of_mem closing ((List.dropWhile_sublist isBlank).subset hd)
    exact List.mem_cons_of_mem c ((List.dropWhile_sublist _).subset hmem)

theorem subset_of_readTarget_ok {column : Nat} {target : List Char} {quoting : Quoting}
    {path : String} (h : readTarget column target = .ok (quoting, path)) : path.toList ⊆ target := by
  unfold readTarget at h
  split at h
  · cases h
  rename_i c inner
  split at h
  · cases h
  simp only at h
  split at h
  · cases h
  split at h
  · cases h
  split at h
  · cases h
    rw [String.toList_ofList]
    exact List.subset_cons_of_subset c (List.takeWhile_sublist _).subset
  · cases h

variable {line : String} {number : Nat}

theorem target_subset {before : Nat} {target : List Char}
    (h : target? (dropTrailingBlanks line.toList) = some (before, target)) : target ⊆ line.toList :=
  fun _ hc => dropTrailingBlanks_subset _ (target?_subset h hc)

theorem singleLine_of_parse_error (h : SingleLine line) {defect : Defect}
    (hp : parse line number = .error defect) : SingleLine defect.found := by
  unfold parse at hp
  split at hp
  · cases hp
  rename_i before target htarget
  split at hp
  · rename_i hread
    cases hp
    exact h.of_subset fun c hc => target_subset htarget (subset_of_readTarget_error hread hc)
  · cases hp

theorem singleLine_of_parse_ok (h : SingleLine line) {directive : Directive}
    (hp : parse line number = .ok (some directive)) : SingleLine directive.path := by
  unfold parse at hp
  split at hp
  · cases hp
  rename_i before target htarget
  split at hp
  · cases hp
  · rename_i hread
    cases hp
    exact h.of_subset fun c hc => target_subset htarget (subset_of_readTarget_ok hread hc)

end Directive

theorem singleLine_trimEnd {bytes : List UInt8} {cs : List Char} (h : Utf8.lineFeed ∉ bytes)
    (hd : Utf8.decode? bytes = some cs) : SingleLine (trimEnd (.ofList cs)) := by
  intro hm
  refine Utf8.newline_not_mem_of_decode? h hd (dropTrailingBlanks_subset cs ?_)
  simpa [trimEnd] using hm

namespace Failure

/-- All that is said of the failure is said in single lines. -/
structure Tidy (f : Failure) : Prop where
  message : SingleLine f.message
  diagnostics : ∀ ds, f.diagnostics? = some ds → ∀ d ∈ ds, SingleLine d.text

theorem singleLine_message {f : Failure} {summary : String} {causes : List String}
    (h : f.account = (summary, causes)) (hsummary : SingleLine summary)
    (hcauses : ∀ cause ∈ causes, SingleLine cause) : SingleLine f.message := by
  have hsep : SingleLine ": " := by decide
  rw [message, Failure.summary, Failure.causes, h]
  exact hsep.intercalate (List.forall_mem_cons.mpr ⟨hsummary, hcauses⟩)

theorem singleLine_text (d : Diagnostic) (hfile : SingleLine d.file) (htoken : SingleLine d.token)
    (hmessage : SingleLine d.message) : SingleLine d.text := by
  have hcolon : SingleLine ":" := by decide
  have hopen : SingleLine ": '" := by decide
  have hclose : SingleLine "' : " := by decide
  exact (((((hfile.append hcolon).append (.toString d.line)).append hopen).append htoken).append
    hclose).append hmessage

theorem singleLine_terminating {file token message : String} (line : Nat) (hfile : SingleLine file)
    (htoken : SingleLine token) (hmessage : SingleLine message) :
    ∀ d ∈ Diagnostic.terminating file line token message, SingleLine d.text := by
  have hstop : SingleLine "compilation terminated" := by decide
  have hempty : SingleLine "" := by decide
  intro d hd
  rcases List.mem_pair.mp hd with rfl | rfl
  · exact singleLine_text _ hfile htoken hmessage
  · exact singleLine_text _ hfile hempty hstop

/-- A failure that no directive line is to blame for. -/
theorem tidy_of_account {f : Failure} {summary : String} {causes : List String}
    (hnone : f.diagnostics? = none) (h : f.account = (summary, causes)) (hsummary : SingleLine summary)
    (hcauses : ∀ cause ∈ causes, SingleLine cause) : f.Tidy where
  message := singleLine_message h hsummary hcauses
  diagnostics := by simp [hnone]

/-- A failure that a directive line is to blame for. It has no causes. -/
theorem tidy_of_blame {f : Failure} {summary file token message : String} {line : Nat}
    (hsome : f.diagnostics? = some (Diagnostic.terminating file line token message))
    (h : f.account = (summary, [])) (hsummary : SingleLine summary) (hfile : SingleLine file)
    (htoken : SingleLine token) (hmessage : SingleLine message) : f.Tidy where
  message := singleLine_message h hsummary (List.forall_mem_nil _)
  diagnostics := by
    intro ds hds
    rw [hsome] at hds
    cases hds
    exact singleLine_terminating line hfile htoken hmessage

/-- A failure of which nothing but a path is told. -/
theorem tidy_of_path {f : Failure} {what : String} {p : Path} (hnone : f.diagnostics? = none)
    (h : f.account = (what ++ p.text, [])) (hwhat : SingleLine what) (hp : SingleLine p.text) :
    f.Tidy :=
  tidy_of_account hnone h (hwhat.append hp) (List.forall_mem_nil _)

theorem tidy_sourceNotFound {p : Path} (h : SingleLine p.text) : (sourceNotFound p).Tidy :=
  tidy_of_path rfl rfl (by decide) h

theorem tidy_unending {p : Path} (h : SingleLine p.text) : (unending p).Tidy :=
  tidy_of_path rfl rfl (by decide) h

theorem tidy_system {e : IoError} (h : SingleLine e.text) : (system e).Tidy :=
  tidy_of_account rfl rfl h (List.forall_mem_nil _)

section Cause

variable {file : Path} {e : IoError} (hfile : SingleLine file.text) (he : SingleLine e.text)

include hfile he

/-- A failure of the system, told with the file and the cause. -/
theorem tidy_of_cause {f : Failure} {what : String} (hnone : f.diagnostics? = none)
    (h : f.account = (what ++ file.text, [e.text])) (hwhat : SingleLine what) : f.Tidy :=
  tidy_of_account hnone h (hwhat.append hfile) (List.forall_mem_singleton.mpr he)

theorem tidy_rootUnavailable : (rootUnavailable file e).Tidy :=
  tidy_of_cause hfile he rfl rfl (by decide)

theorem tidy_outputUncreatable : (outputUncreatable file e).Tidy :=
  tidy_of_cause hfile he rfl rfl (by decide)

theorem tidy_outputUnwritable : (outputUnwritable file e).Tidy :=
  tidy_of_cause hfile he rfl rfl (by decide)

theorem tidy_unlocatable : (unlocatable file e).Tidy :=
  tidy_of_cause hfile he rfl rfl (by decide)

theorem tidy_unreadable : (unreadable file e).Tidy :=
  tidy_of_cause hfile he rfl rfl (by decide)

end Cause

section Blame

variable {path origin : String} (hpath : SingleLine path) (horigin : SingleLine origin) (line : Nat)

include hpath horigin

theorem tidy_includeNotFound : (includeNotFound path origin line).Tidy := by
  have hwhat : SingleLine "Include file not found: " := by decide
  have hfrom : SingleLine " (included from " := by decide
  have hcolon : SingleLine ":" := by decide
  have hend : SingleLine ")" := by decide
  refine tidy_of_blame rfl rfl ?_ horigin hpath (by decide)
  exact (((((hwhat.append hpath).append hfrom).append horigin).append hcolon).append
    (.toString line)).append hend

theorem tidy_recursiveInclude {stack : String} (hstack : SingleLine stack) :
    (recursiveInclude path origin line stack).Tidy := by
  have hwhat : SingleLine "Recursive inclusion of " := by decide
  have hat : SingleLine " at " := by decide
  have hcolon : SingleLine ":" := by decide
  have hstackIs : SingleLine " (include stack: " := by decide
  have hend : SingleLine ")" := by decide
  refine tidy_of_blame rfl rfl ?_ horigin hpath (by decide)
  exact (((((((hwhat.append hpath).append hat).append horigin).append hcolon).append
    (.toString line)).append hstackIs).append hstack).append hend

theorem tidy_depthExceeded (limit : Nat) : (depthExceeded path origin line limit).Tidy := by
  have hwhat : SingleLine "Maximum include depth (" := by decide
  have hat : SingleLine ") exceeded at " := by decide
  have hcolon : SingleLine ":" := by decide
  have hincluding : SingleLine " including " := by decide
  have hmessage : SingleLine "maximum include depth (" := by decide
  have hend : SingleLine ") exceeded" := by decide
  refine tidy_of_blame rfl rfl ?_ horigin hpath ?_
  · exact ((((((hwhat.append (.toString limit)).append hat).append horigin).append hcolon).append
      (.toString line)).append hincluding).append hpath
  · exact (hmessage.append (.toString limit)).append hend

end Blame

theorem tidy_invalidDirective {file : String} {defect : Defect} (hfile : SingleLine file)
    (hfound : SingleLine defect.found) (line : Nat) : (invalidDirective file line defect).Tidy := by
  have hwhat : SingleLine "Invalid include directive at " := by decide
  have hcolon : SingleLine ":" := by decide
  have hblank : SingleLine ": " := by decide
  have hmessage := defect.kind.singleLine_message
  refine tidy_of_blame rfl rfl ?_ hfile hfound hmessage
  exact ((((((hwhat.append hfile).append hcolon).append (.toString line)).append hcolon).append
    (.toString defect.column)).append hblank).append hmessage

end Failure

end GlslFlatten
