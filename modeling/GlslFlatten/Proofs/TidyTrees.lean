import GlslFlatten.Proofs.FileOutput
import GlslFlatten.Proofs.Invariants
import GlslFlatten.Proofs.SingleLines
import GlslFlatten.Proofs.TreeGrowth

/-!
Trees whose names hold no line feeds. They stay so in a run, and whatever is said about them is said in
single lines.
-/

namespace GlslFlatten

def Location.Tidy (loc : Location) : Prop := ∀ name ∈ loc, SingleLine name

namespace Location

theorem Tidy.dropLast {loc : Location} (h : loc.Tidy) : Tidy loc.dropLast :=
  fun name hn => h name (List.dropLast_subset loc hn)

theorem Tidy.concat {loc : Location} {name : String} (h : loc.Tidy) (hn : SingleLine name) :
    Tidy (loc ++ [name]) :=
  List.forall_mem_append.mpr ⟨h, List.forall_mem_singleton.mpr hn⟩

theorem Tidy.path {loc : Location} (h : loc.Tidy) : SingleLine loc.path.text := by
  have hslash : SingleLine "/" := by decide
  exact hslash.append (hslash.intercalate h)

end Location

/-- The words in which the entry refuses to be opened or written. -/
def Entry.refusal? : Entry → Option IoError
  | .sealed e => some e
  | .device e => e
  | _ => none

namespace Tree

/-- No name in the tree holds a line feed, no text of a link does, and no refusal. -/
structure Tidy (t : Tree) : Prop where
  workdir : Location.Tidy t.workdir
  names : ∀ loc e, t.get? loc = some e → Location.Tidy loc
  links : ∀ loc target, t.get? loc = some (.link target) → SingleLine target
  refusals : ∀ loc e, t.get? loc = some e → ∀ refusal, e.refusal? = some refusal →
    SingleLine refusal.text
  foreign : ∀ x ∈ t.foreign, SingleLine (FileName.foreign x.1.2).shown

def Found.Tidy : Found → Prop
  | .entry loc => Location.Tidy loc
  | .vacant dir name => Location.Tidy (dir ++ [name])

/-- It is enough to look at what is stored. -/
theorem tidy_of_entries {t : Tree} (hw : ∀ name ∈ t.workdir, SingleLine name)
    (he : ∀ x ∈ t.entries, (∀ name ∈ x.1, SingleLine name) ∧
      (∀ target, x.2 = .link target → SingleLine target) ∧
      ∀ refusal, x.2.refusal? = some refusal → SingleLine refusal.text)
    (hf : ∀ x ∈ t.foreign, SingleLine (FileName.foreign x.1.2).shown) : t.Tidy := by
  refine ⟨hw, fun loc e hget => ?_, fun loc target hget => ?_, fun loc e hget => ?_, hf⟩
  · rcases stored_of_get? hget with ⟨rfl, _⟩ | hm
    · exact List.forall_mem_nil _
    · exact (he _ hm).1
  · rcases stored_of_get? hget with ⟨_, hlink⟩ | hm
    · cases hlink
    · exact (he _ hm).2.1 target rfl
  · rcases stored_of_get? hget with ⟨_, rfl⟩ | hm
    · simp [Entry.refusal?]
    · exact (he _ hm).2.2

theorem singleLine_lineage {p : Path} (h : SingleLine p.text) (n : Nat) :
    ∀ q ∈ lineage n p, SingleLine q.text := by
  induction n generalizing p with
  | zero => exact List.forall_mem_singleton.mpr h
  | succ n ih =>
    refine List.forall_mem_cons.mpr ⟨h, ?_⟩
    cases hparent : p.parent? with
    | none => exact List.forall_mem_nil _
    | some q => exact ih (Path.singleLine_parent? h hparent)

namespace Tidy

variable {t : Tree} {p : Path}

theorem startOf {dir : Location} (h : dir.Tidy) (p : Path) : Location.Tidy (startOf dir p) := by
  unfold Tree.startOf
  split
  · exact List.forall_mem_nil _
  · exact h

theorem leads (h : t.Tidy) {aim : Aim} {n : Nat} {loc : Location} {segments : List String}
    {found : Found} (hl : Leads t aim n loc segments found) (hloc : loc.Tidy)
    (hs : ∀ s ∈ segments, SingleLine s) : found.Tidy := by
  induction hl with
  | done => exact hloc
  | skip _ _ _ ih => exact ih hloc (List.forall_mem_cons.mp hs).2
  | up _ _ ih => exact ih hloc.dropLast (List.forall_mem_cons.mp hs).2
  | vacant _ _ => exact hloc.concat (List.forall_mem_cons.mp hs).1
  | link _ hentry _ ih =>
    have htarget := h.links _ _ hentry
    refine ih (startOf hloc _) (List.forall_mem_append.mpr ⟨?_, (List.forall_mem_cons.mp hs).2⟩)
    exact fun s hm => htarget.of_mem_splitAt hm
  | into _ hentry _ _ ih => exact ih (h.names _ _ hentry) (List.forall_mem_cons.mp hs).2

theorem find (h : t.Tidy) (hp : SingleLine p.text) {aim : Aim} {found : Found}
    (hf : t.find aim p = .ok found) : found.Tidy :=
  h.leads (find_eq_ok_iff.mp hf).2 (startOf h.workdir p) fun _ hs => hp.of_mem_splitAt hs

theorem realPath (h : t.Tidy) (hp : SingleLine p.text) {loc : Location}
    (hl : t.realPath p = .ok loc) : loc.Tidy :=
  h.leads (realPath_eq_ok_iff.mp hl).2 (startOf h.workdir p) fun _ hs => hp.of_mem_splitAt hs

/-- What stands at a place may change, if the place has a tidy name and no one says more there. -/
theorem replace (h : t.Tidy) {t' : Tree} {loc : Location} (hworkdir : t'.workdir = t.workdir)
    (hforeign : t'.foreign = t.foreign) (hothers : ∀ other ≠ loc, t'.get? other = t.get? other)
    (hloc : loc.Tidy) (hlink : ∀ target, t'.get? loc ≠ some (.link target))
    (hrefusal : ∀ e, t'.get? loc = some e → ∀ refusal, e.refusal? = some refusal →
      SingleLine refusal.text) : t'.Tidy where
  workdir := hworkdir ▸ h.workdir
  names := by
    intro other e hget
    by_cases ho : other = loc
    · exact ho ▸ hloc
    · exact h.names other e (hothers other ho ▸ hget)
  links := by
    intro other target hget
    by_cases ho : other = loc
    · exact absurd (ho ▸ hget) (hlink target)
    · exact h.links other target (hothers other ho ▸ hget)
  refusals := by
    intro other e hget
    by_cases ho : other = loc
    · exact hrefusal e (ho ▸ hget)
    · exact h.refusals other e (hothers other ho ▸ hget)
  foreign := hforeign ▸ h.foreign

theorem put_directory (h : t.Tidy) {loc : Location} (hloc : loc.Tidy) (htop : loc ≠ []) :
    (t.put loc .directory).Tidy := by
  have hself := t.get?_put_self htop .directory
  refine h.replace rfl rfl (fun _ ho => get?_put_of_ne t ho _) hloc (by simp [hself]) ?_
  simp [hself, Entry.refusal?]

theorem of_differs (h : t.Tidy) {made : Tree} {target : Location} (hd : t.Differs made target)
    (htarget : target.Tidy)
    (hdevice : ∀ e, made.get? target = some (.device (some e)) → SingleLine e.text) : made.Tidy := by
  refine h.replace hd.workdir hd.foreign hd.others htarget (hd.leafChange.not_link _ rfl) ?_
  rintro e he refusal hrefusal
  rcases hd.leaf with ⟨content, hc⟩ | ⟨refusal', hv⟩
  · cases he.symm.trans hc
    cases hrefusal
  · cases he.symm.trans hv
    cases hrefusal
    exact hdevice _ hv

/-- Where a file is created there is a file, or the device that was there. -/
theorem create (h : t.Tidy) (hp : SingleLine p.text) {target : Location} {made : Tree}
    (hc : t.create p = .ok (target, made)) : target.Tidy ∧ made.Tidy := by
  have htarget : target.Tidy := by
    rcases create_cases hc with ⟨dir, name, hfind, rfl, _⟩ | ⟨hfind, _⟩
    · exact h.find hp hfind
    · exact h.find hp hfind
  refine ⟨htarget, ?_⟩
  obtain ⟨hd, hmade⟩ := differs_of_create hc
  refine h.of_differs hd htarget fun e he => ?_
  rcases hmade with hfile | ⟨_, rfl⟩
  · rw [hfile] at he
    cases he
  · exact h.refusals _ _ he e rfl

theorem makeDir (h : t.Tidy) (hp : SingleLine p.text) {t' : Tree} (hm : t.makeDir p = .ok t') :
    t'.Tidy := by
  obtain ⟨segments, hsub, dir, name, hname, hl, _, rfl⟩ := makeDir_eq_ok hm
  have hdir : Location.Tidy dir :=
    h.leads hl (startOf h.workdir p) fun s hs => hp.of_mem_splitAt (hsub hs)
  exact h.put_directory (hdir.concat (hp.of_mem_splitAt hname)) (by simp)

theorem makeDirs (h : t.Tidy) (hp : SingleLine p.text) : (t.makeDirs p).2.Tidy :=
  makeLineage_induct (fun q hq _ _ ht hm => ht.makeDir (singleLine_lineage hp _ q hq) hm) h

end Tidy

section Errors

variable {t : Tree} {aim : Aim} {p : Path} {e : IoError}

/-- An error that the tree reports by itself, and not in the words of a caller. -/
abbrev Own (e : IoError) : Prop := ∀ text, e ≠ .other text

theorem singleLine_of_own (h : Own e) : SingleLine e.text := by
  cases e with
  | other text => exact absurd rfl (h text)
  | _ => decide +kernel

theorem own_of_checkName (h : checkName p = .error e) : Own e := by
  unfold checkName at h
  split at h
  · cases h
    simp [Own]
  split at h
  · cases h
    simp [Own]
  · cases h

theorem own_of_checkText (h : checkText p = .error e) : Own e := by
  unfold checkText at h
  cases hc : checkName p with
  | error e' =>
    simp only [hc, bind, Except.bind, Except.error.injEq] at h
    exact h ▸ own_of_checkName hc
  | ok _ =>
    simp only [hc, bind, Except.bind] at h
    split at h
    · cases h
      simp [Own]
    · cases h

theorem own_of_walkVia {follow : Location → String → List String → Except IoError Found}
    (hf : ∀ dir target rest e, follow dir target rest = .error e → Own e) {loc : Location}
    {segments : List String} (h : t.walkVia aim follow loc segments = .error e) : Own e := by
  induction segments generalizing loc with
  | nil => cases h
  | cons s rest ih =>
    unfold walkVia at h
    split at h
    · cases h
      simp [Own]
    split at h
    · exact ih h
    split at h
    · exact ih h
    split at h
    · cases h
      simp [Own]
    split at h
    · cases h
      simp [Own]
    split at h
    · split at h
      · cases h
      · cases h
        simp [Own]
    · exact hf _ _ _ _ h
    · exact ih h

theorem own_of_walk {n : Nat} {loc : Location} {segments : List String}
    (h : t.walk aim n loc segments = .error e) : Own e := by
  induction n generalizing loc segments e with
  | zero =>
    refine own_of_walkVia (fun _ _ _ e he => ?_) h
    cases he
    simp [Own]
  | succ n ih => exact own_of_walkVia (fun _ _ _ _ he => ih he) h

theorem own_of_find (h : t.find aim p = .error e) : Own e := by
  unfold find at h
  cases hc : checkText p with
  | error e' =>
    simp only [hc, bind, Except.bind, Except.error.injEq] at h
    exact h ▸ own_of_checkText hc
  | ok _ =>
    simp only [hc, bind, Except.bind] at h
    exact own_of_walk h

theorem own_of_realPath (h : t.realPath p = .error e) : Own e := by
  unfold realPath at h
  cases hc : checkName p with
  | error e' =>
    simp only [hc, bind, Except.bind, Except.error.injEq] at h
    exact h ▸ own_of_checkName hc
  | ok _ =>
    cases hw : t.walk .resolving linkLimit (Tree.startOf t.workdir p) p.segments with
    | error e' =>
      simp only [hc, hw, bind, Except.bind, Except.error.injEq] at h
      exact h ▸ own_of_walk hw
    | ok found =>
      simp only [hc, hw, bind, Except.bind] at h
      cases found with
      | entry loc => cases h
      | vacant dir name =>
        cases h
        simp [Own]

/-- A file that cannot be created says so in words of the tree, or in its own. -/
theorem Tidy.singleLine_create (ht : t.Tidy) (h : t.create p = .error e) : SingleLine e.text := by
  unfold Tree.create at h
  cases hf : t.find .creating p with
  | error e' =>
    simp only [hf, bind, Except.bind, Except.error.injEq] at h
    exact h ▸ singleLine_of_own (own_of_find hf)
  | ok found =>
    cases found with
    | vacant dir name => simp [hf, bind, Except.bind] at h
    | entry loc =>
      simp only [hf, bind, Except.bind] at h
      split at h
      · cases h
        decide +kernel
      · rename_i refusal hsealed
        cases h
        exact ht.refusals _ _ hsealed _ rfl
      · cases h
      · cases h

/-- So does a file that cannot be opened. -/
theorem Tidy.singleLine_load (ht : t.Tidy) {loc : Location} (h : t.load loc = .error e) :
    SingleLine e.text := by
  unfold Tree.load at h
  split at h
  · cases h
  · rename_i refusal hsealed
    cases h
    exact ht.refusals _ _ hsealed _ rfl
  · cases h
    decide +kernel
  · cases h
    decide +kernel

end Errors

end Tree

end GlslFlatten
