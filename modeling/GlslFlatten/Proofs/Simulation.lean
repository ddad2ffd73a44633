import GlslFlatten.Proofs.Invariants
import GlslFlatten.Proofs.OpenFiles
import GlslFlatten.Proofs.Utf8
import GlslFlatten.Text.Digit

/-!
Every expansion follows the walk. An expansion recurses, with bounds on its depth and on the length
of files, and writes to an output of its own; the walk does none of this. Main statement: an expansion
ends where the walk ends, well or not, and has written what the walk has written.
-/

namespace GlslFlatten

open Text

/-- An output through which the files with safe paths and the meaning of paths stay as in a tree.
`holds` says which lines are in it, and `refuses` what is known when the last of some lines is refused. -/
structure Output.Serves {σ : Type} (o : Output σ) (t : Tree) (root : Path) (safe : Path → Prop)
    (holds : List FlatLine → σ → Prop) (refuses : List FlatLine → σ → Failure → Prop) : Prop where
  write : ∀ {lines s} (line : FlatLine), holds lines s → '\n' ∉ line.text.toList →
    match o.write line s with
    | (.ok (), s') => holds (lines ++ [line]) s'
    | (.error e, s') => refuses (lines ++ [line]) s' (.system e)
  resolve : ∀ {lines s}, holds lines s → ∀ path,
    Source.resolve (o.tree s) root path = Source.resolve t root path
  load : ∀ {lines s}, holds lines s → ∀ loc : Location, safe loc.path →
    (o.tree s).load loc = t.load loc
  safe_same : ∀ {p q : Path}, p.same q = true → safe p → safe q

/-- An output that leaves the tree alone. -/
theorem Output.serves_of_tree {σ : Type} {o : Output σ} {t : Tree} {holds : List FlatLine → σ → Prop}
    {refuses : List FlatLine → σ → Failure → Prop} (h : ∀ s, o.tree s = t)
    (write : ∀ {lines s} (line : FlatLine), holds lines s → '\n' ∉ line.text.toList →
      match o.write line s with
      | (.ok (), s') => holds (lines ++ [line]) s'
      | (.error e, s') => refuses (lines ++ [line]) s' (.system e)) (root : Path) :
    o.Serves t root (fun _ => True) holds refuses where
  write := write
  resolve := by
    intro lines s hh path
    rw [h]
  load := by
    intro lines s hh loc hsafe
    rw [h]
  safe_same := fun _ _ => trivial

/-- If nothing is known of an output, it may have refused any line. -/
theorem Output.serves_of_fixed {σ : Type} {o : Output σ} {t : Tree} (h : ∀ s, o.tree s = t)
    (root : Path) : o.Serves t root (fun _ => True) (fun _ _ => True)
      (fun _ _ _ => ∃ line s e, (o.write line s).1 = .error e) := by
  apply serves_of_tree h
  intro lines s line hh hl
  split
  · trivial
  · rename_i e s' hx
    exact ⟨line, s, e, by rw [hx]⟩

/-- From a state on, an output takes whatever is written to it. -/
def Output.TakesAll {σ : Type} (o : Output σ) (s : σ) : Prop :=
  ∃ takes : σ → Prop, takes s ∧
    ∀ s line, takes s → ∃ s', o.write line s = (.ok (), s') ∧ takes s'

theorem Output.serves_of_takes {σ : Type} {o : Output σ} {t : Tree} {takes : σ → Prop}
    (h : ∀ s, o.tree s = t)
    (hw : ∀ s line, takes s → ∃ s', o.write line s = (.ok (), s') ∧ takes s') (root : Path) :
    o.Serves t root (fun _ => True) (fun _ => takes) (fun _ _ _ => False) := by
  apply serves_of_tree h
  intro lines s line hh hl
  obtain ⟨s', hs, htakes⟩ := hw s line hh
  rw [hs]
  exact htakes

def Registry.Safe (safe : Path → Prop) (r : Registry) : Prop := ∀ e ∈ r.files, safe e.path

namespace FlatLine

theorem newline_not_mem_marker (line index : Nat) : '\n' ∉ (marker line index).text.toList := by
  have hn : ∀ n, '\n' ∉ Nat.toDigits 10 n := not_mem_toDigits (by decide)
  simp [text, hn]

end FlatLine

theorem newline_not_mem_copied {t : Tree} {loc : Location} {i : Nat} {text : String}
    (h : t.line? loc i = some (.copied text)) : '\n' ∉ text.toList := by
  obtain ⟨_, bytes, _, hb, hr⟩ := Tree.exists_read_of_line? h (by simp)
  obtain ⟨cs, hd, rfl⟩ := Line.mem_of_read_copied hr
  have hf : Utf8.lineFeed ∉ bytes := not_mem_of_mem_lines Utf8.lineFeed (List.mem_of_getElem? hb)
  intro hm
  refine Utf8.newline_not_mem_of_decode? hf hd (dropTrailingBlanks_subset cs ?_)
  simpa [trimEnd] using hm

namespace Traversal

open Expansion

variable {σ : Type} {o : Output σ} {t : Tree} {root : Path} {safe : Path → Prop}
  {holds : List FlatLine → σ → Prop} {refuses : List FlatLine → σ → Failure → Prop} {m m' : State}
  {s : Progress σ}

/-- From `m` on, the walk is inside safe files, as long as it registers nothing that is not in `r`. -/
def Guards (t : Tree) (safe : Path → Prop) (m : State) (r : Registry) : Prop :=
  ∀ m', Run t m m' → m'.context.registry.Extends r → safe m'.top.file.loc.path

theorem Guards.of_extends {r r' : Registry} (h : Guards t safe m r') (he : r.Extends r') :
    Guards t safe m r :=
  fun m' hrun hr => h m' hrun (hr.trans he)

theorem Guards.of_run {r : Registry} (h : Guards t safe m r) (hrun : Run t m m') :
    Guards t safe m' r :=
  fun m'' hrun' hr => h m'' (hrun.trans hrun') hr

/-- The state of an expansion that has come as far as the walk. -/
def Tracks (holds : List FlatLine → σ → Prop) (m : State) (s : Progress σ) : Prop :=
  s.context = m.context ∧ holds m.lines s.out

/-- The walk goes on from `m` to where an expansion has failed: at a line that cannot be processed, or
behind a line that it has written and the output has refused. -/
def Stops (t : Tree) (holds : List FlatLine → σ → Prop)
    (refuses : List FlatLine → σ → Failure → Prop) (m : State) (failure : Failure) (s : Progress σ) :
    Prop :=
  ∃ m', Run t m m' ∧ s.context = m'.context ∧
    (step t m' = .error failure ∧ holds m'.lines s.out ∨
      (∃ e, failure = .system e) ∧ refuses m'.lines s.out failure)

/-- The walk goes on from `m` to where a computation has ended: behind the last line of a file, with
the frames `outer` left, or at a failure. -/
def Ends (t : Tree) (holds : List FlatLine → σ → Prop)
    (refuses : List FlatLine → σ → Failure → Prop) (after : Context → Context) (outer : List Frame)
    (m : State) : EStateM.Result Failure (Progress σ) Unit → Prop
  | .ok () s => ∃ m', Run t m m' ∧ m'.line? t = none ∧ m'.outer = outer ∧
      s.context = after m'.context ∧ holds m'.lines s.out
  | .error failure s => Stops t holds refuses m failure s

theorem Stops.of_run {failure : Failure} (hr : Run t m m')
    (h : Stops t holds refuses m' failure s) : Stops t holds refuses m failure s := by
  obtain ⟨m'', hr', hrest⟩ := h
  exact ⟨m'', hr.trans hr', hrest⟩

theorem Stops.of_step {failure : Failure} (h : step t m = .error failure) (ht : Tracks holds m s) :
    Stops t holds refuses m failure s :=
  ⟨m, .refl, ht.1, .inl ⟨h, ht.2⟩⟩

theorem Stops.of_refuses {e : IoError} (hr : refuses m.lines s.out (.system e))
    (hc : s.context = m.context) : Stops t holds refuses m (.system e) s :=
  ⟨m, .refl, hc, .inr ⟨⟨e, rfl⟩, hr⟩⟩

theorem Ends.of_run {after : Context → Context} {outer : List Frame}
    {r : EStateM.Result Failure (Progress σ) Unit} (hr : Run t m m')
    (h : Ends t holds refuses after outer m' r) : Ends t holds refuses after outer m r := by
  cases r with
  | ok u s =>
    obtain ⟨m'', hr', hrest⟩ := h
    exact ⟨m'', hr.trans hr', hrest⟩
  | error e s => exact Stops.of_run hr h

/-- What `descend` has to do for a directive: expand the file that it means. -/
def Descends (t : Tree) (root : Path) (safe : Path → Prop)
    (holds : List FlatLine → σ → Prop) (refuses : List FlatLine → σ → Failure → Prop) (levels : Nat)
    (descend : String → Origin → Expand σ Unit) : Prop :=
  ∀ {base m s d}, Nested t base m → m.context.root = root → Tracks holds m s →
    m.line? t = some (.directive d) → t.entries.length < levels + m.frames.length →
    Guards t safe m (remains (descend d.path (m.top.file.origin m.number) s)).context.registry →
    Ends t holds refuses Context.leave m.frames m (descend d.path (m.top.file.origin m.number) s)

theorem emit_tracks (hs : o.Serves t root safe holds refuses) {lines : List FlatLine}
    (line : FlatLine) (h : holds lines s.out) (hl : '\n' ∉ line.text.toList) :
    (∃ out, emit o line s = .ok () { s with out } ∧ holds (lines ++ [line]) out) ∨
    (∃ e out, emit o line s = .error (.system e) { s with out } ∧
      refuses (lines ++ [line]) out (.system e)) := by
  have hw := hs.write line h hl
  cases hx : o.write line s.out with
  | mk result out =>
    rw [hx] at hw
    cases result with
    | ok u => exact .inl ⟨out, by simp [emit, hx], hw⟩
    | error e => exact .inr ⟨e, out, by simp [emit, hx], hw⟩

/-- The walk passes the next line of the innermost file, or it has come to a line below it that cannot
be processed. -/
def Passes (t : Tree) (holds : List FlatLine → σ → Prop)
    (refuses : List FlatLine → σ → Failure → Prop) (m : State) :
    EStateM.Result Failure (Progress σ) Unit → Prop
  | .ok () s => ∃ m', Run t m m' ∧ m'.top = m.top.next ∧ m'.outer = m.outer ∧ Tracks holds m' s
  | .error failure s => Stops t holds refuses m failure s

theorem process_passes (hs : o.Serves t root safe holds refuses) {levels : Nat}
    {descend : String → Origin → Expand σ Unit}
    (hd : Descends t root safe holds refuses levels descend) {base : List Path} {line : Line}
    (hn : Nested t base m) (hroot : m.context.root = root)
    (ht : Tracks holds m s) (hlevels : t.entries.length < levels + m.frames.length)
    (hl : m.line? t = some line)
    (hguards : Guards t safe m
      (remains (process o descend m.top.file m.number line s)).context.registry) :
    Passes t holds refuses m (process o descend m.top.file m.number line s) := by
  cases line with
  | unreadable reason => exact Stops.of_step (by simp [step, hl]) ht
  | malformed defect => exact Stops.of_step (by simp [step, hl]) ht
  | copied text =>
    rw [process]
    rcases emit_tracks hs (.copied text) ht.2 (newline_not_mem_copied hl) with
      ⟨out, he, hh⟩ | ⟨e, out, he, href⟩
    · rw [he]
      exact ⟨m.copy text, .single (step_copied hl), rfl, rfl, ht.1, hh⟩
    · rw [he]
      exact Stops.of_run (.single (step_copied hl)) (Stops.of_refuses href ht.1)
  | directive d =>
    have hnumber : d.line = m.number := Tree.line_of_line? hl
    simp only [process, hnumber, bind_run, note_run] at hguards ⊢
    generalize hlog : s.log ++ _ = log at hguards ⊢
    have hdesc := hd (s := { s with log }) hn hroot ht hl hlevels
    cases hx : descend d.path (m.top.file.origin m.number) { s with log } with
    | error e s' =>
      simp only [hx] at hguards hdesc ⊢
      exact hdesc hguards
    | ok u s' =>
      simp only [hx] at hguards hdesc ⊢
      have hgrow := emit_grows o (.marker (m.number + 1) m.top.file.index) s'
      obtain ⟨m', hrun, hend, houter, hc, hh⟩ := hdesc (hguards.of_extends hgrow)
      have hrun := hrun.tail (step_end hend houter)
      rcases emit_tracks (s := s') hs (.marker (m.number + 1) m.top.file.index) hh
        (FlatLine.newline_not_mem_marker _ _) with ⟨out, he, hh⟩ | ⟨e, out, he, href⟩
      · rw [he]
        exact ⟨m'.resume m.top m.outer, hrun, rfl, rfl, hc, hh⟩
      · rw [he]
        exact Stops.of_run hrun (Stops.of_refuses href hc)

/-- Copying from line `m.number` on follows the walk to the end of the file. The induction is on the
bound, which the remaining lines never reach, so copying does not stop for it. -/
theorem copyLines_ends (hs : o.Serves t root safe holds refuses) {levels : Nat}
    {descend : String → Origin → Expand σ Unit} (hg : ∀ path origin, Grows (descend path origin))
    (hd : Descends t root safe holds refuses levels descend) (limit : Nat) (reader : Reader)
    {base : List Path} (hn : Nested t base m) (hroot : m.context.root = root)
    (ht : Tracks holds m s) (hlevels : t.entries.length < levels + m.frames.length)
    {content : List UInt8} (hload : t.load m.top.file.loc = .ok content)
    (hr : lines Utf8.lineFeed (reader.rest content) = (Reader.lines content).drop m.top.done)
    (hdone : m.top.done ≤ (Reader.lines content).length)
    (hlimit : (Reader.lines content).length < limit + m.top.done)
    (hguards : Guards t safe m
      (remains (copyLines o descend m.top.file limit reader m.number s)).context.registry) :
    Ends t holds refuses id m.outer m (copyLines o descend m.top.file limit reader m.number s) := by
  induction limit generalizing reader m s with
  | zero => omega
  | succ limit ih =>
    have hopened : (o.tree s.out).load m.top.file.loc = .ok content := by
      have hgrow := copyLines_grows o hg m.top.file (limit + 1) reader m.number s
      exact (hs.load ht.2 _ (hguards m .refl (ht.1 ▸ hgrow))).trans hload
    have hline? := Tree.line?_of_load hload m.top.done
    rw [copyLines_run, hopened] at hguards ⊢
    simp only at hguards ⊢
    by_cases hrest : reader.rest content = []
    · rw [Reader.next_of_rest_eq_nil hrest]
      rw [hrest] at hr
      have hend : (Reader.lines content)[m.top.done]? = none :=
        List.getElem?_eq_none (List.drop_eq_nil_iff.mp hr.symm)
      exact ⟨m, .refl, hline?.trans (by rw [hend]; rfl), rfl, ht⟩
    · obtain ⟨reader', hnext, hrest'⟩ := Reader.next_of_rest_ne_nil hrest
      rw [lines_eq_cons _ hrest, ← hrest'] at hr
      simp only [hnext, bind_run] at hguards ⊢
      generalize firstLine Utf8.lineFeed (reader.rest _) = first at hr hguards ⊢
      have hget : (Reader.lines content)[m.top.done]? = some first.1 := by
        rw [← List.head?_drop, ← hr, List.head?_cons]
      have hl : m.line? t = some (Line.read m.number first.1) :=
        hline?.trans (by rw [hget, State.number, Option.map_some])
      have hdrop : lines Utf8.lineFeed (reader'.rest content) =
          (Reader.lines content).drop (m.top.done + 1) := by
        rw [← List.tail_drop, ← hr, List.tail_cons]
      have hlt : m.top.done < (Reader.lines content).length :=
        (List.getElem?_eq_some_iff.mp hget).1
      have hpass := process_passes hs hd hn hroot ht hlevels hl
      cases hp : process o descend m.top.file m.number (Line.read m.number first.1) s with
      | error e s' =>
        simp only [hp] at hguards hpass ⊢
        exact hpass hguards
      | ok u s' =>
        simp only [hp] at hguards hpass ⊢
        have hgrow := copyLines_grows o hg m.top.file limit reader' (m.number + 1) s'
        obtain ⟨m', hrun, htop, houter, ht'⟩ := hpass (hguards.of_extends hgrow)
        have hframes : m'.frames.length = m.frames.length := by simp [State.frames, houter]
        have hroot' := (root_of_run hrun).trans hroot
        have hrest := ih reader' (hn.run hrun) hroot' ht' (hframes ▸ hlevels)
          (by rw [htop]; exact hload) (by rw [htop]; exact hdrop)
          (by rw [htop]; exact hlt) (by rw [htop]; simp only [Frame.next]; omega)
        simp only [State.number, htop, houter, Frame.next] at hrest
        exact .of_run hrun (hrest (hguards.of_run hrun))

theorem head_tracks (hs : o.Serves t root safe holds refuses) {lines : List FlatLine} (index : Nat)
    (h : holds lines s.out) :
    (∃ out, head o index s = .ok () { s with out } ∧ holds (lines ++ heading index) out) ∨
    (∃ e out, head o index s = .error (.system e) { s with out } ∧
      refuses (lines ++ heading index) out (.system e)) := by
  by_cases hi : index = 0
  · subst hi
    exact .inl ⟨s.out, rfl, by simpa [heading] using h⟩
  · rw [head, if_pos hi, heading, if_neg hi]
    exact emit_tracks hs _ h (FlatLine.newline_not_mem_marker _ _)

theorem copyFile_ends (hs : o.Serves t root safe holds refuses) {levels : Nat}
    {descend : String → Origin → Expand σ Unit} (hg : ∀ path origin, Grows (descend path origin))
    (hd : Descends t root safe holds refuses levels descend) {base : List Path}
    {lines : List FlatLine} (hn : Nested t base m) (hroot : m.context.root = root)
    (hdone : m.top.done = 0)
    (hlines : m.lines = lines ++ heading m.top.file.index) (hc : s.context = m.context)
    (hh : holds lines s.out) (hlevels : t.entries.length < levels + m.frames.length)
    (hguards : Guards t safe m (remains (copyFile o descend m.top.file s)).context.registry) :
    Ends t holds refuses Context.leave m.outer m (copyFile o descend m.top.file s) := by
  simp only [copyFile, bind_run, note_run] at hguards ⊢
  generalize hlog : s.log ++ _ = log at hguards ⊢
  rcases head_tracks (s := { s with log }) hs m.top.file.index hh with
    ⟨out, he, hh⟩ | ⟨e, out, he, href⟩
  case inr =>
    rw [he]
    exact Stops.of_refuses (hlines ▸ href) hc
  rw [← hlines] at hh
  simp only [he] at hguards ⊢
  have hgrow := copyAll_grows o hg m.top.file { s with out, log }
  generalize hx : copyAll o descend m.top.file { s with out, log } = copied at hgrow hguards ⊢
  have hguards' : Guards t safe m (remains copied).context.registry := by
    cases copied <;> simpa [remains, leave_run, Context.leave] using hguards
  have hopened : (o.tree out).load m.top.file.loc = t.load m.top.file.loc :=
    hs.load hh _ (hguards' m .refl (hc ▸ hgrow))
  simp only [copyAll, bind_run, load_run, hopened] at hx
  cases hload : t.load m.top.file.loc with
  | error e =>
    have hline : m.line? t = some (.unreadable e) := by
      simp [State.line?, Tree.line?, Tree.linesOf, hload, hdone]
    simp only [hload] at hx
    rw [← hx]
    exact Stops.of_step (by simp [step, hline]) ⟨hc, hh⟩
  | ok content =>
    simp only [hload] at hx
    have hcopy := copyLines_ends (s := { s with out, log }) hs hg hd (Reader.lineLimit content) {} hn
      hroot ⟨hc, hh⟩ hlevels hload
    simp only [State.number, hdone, Reader.rest_start, List.drop_zero, Nat.zero_add, Nat.add_zero,
      hx] at hcopy
    have hlength := Tree.length_linesOf_lt hload
    rw [Tree.linesOf_of_load hload, List.length_mapIdx] at hlength
    have hends := hcopy rfl (Nat.zero_le _) hlength hguards'
    cases copied with
    | error e s' => exact hends
    | ok u s' =>
      obtain ⟨m', hrun, hend, houter, hc', hh'⟩ := hends
      exact ⟨m', hrun, hend, houter, congrArg Context.leave hc', hh'⟩

theorem entered_ends (hs : o.Serves t root safe holds refuses) {levels : Nat}
    {descend : String → Origin → Expand σ Unit} (hg : ∀ path origin, Grows (descend path origin))
    (hd : Descends t root safe holds refuses levels descend) {base : List Path} {c : Context}
    {outer : List Frame} {lines : List FlatLine} {loc : Location} {includer : Option Nat}
    (hn : Nested t base (openFile c outer lines loc includer)) (hroot : c.root = root)
    (hh : holds lines s.out) (hlevels : t.entries.length ≤ levels + outer.length)
    (hguards : Guards t safe (openFile c outer lines loc includer)
      (remains (copyFile o descend (openFile c outer lines loc includer).top.file
        { s with context := (openFile c outer lines loc includer).context })).context.registry) :
    Ends t holds refuses Context.leave outer (openFile c outer lines loc includer)
      (copyFile o descend (openFile c outer lines loc includer).top.file
        { s with context := (openFile c outer lines loc includer).context }) := by
  refine copyFile_ends (m := openFile c outer lines loc includer) hs hg hd hn hroot rfl rfl rfl hh ?_
    hguards
  simp only [openFile, State.frames, List.length_cons]
  omega

/-- With a level for every file that is not open, the file of a directive is expanded in full. The
induction is on the levels, and open files differ, so there is always one left. -/
theorem expandWithin_descends (hs : o.Serves t root safe holds refuses) (levels : Nat) :
    Descends t root safe holds refuses levels
      fun target asked => expandWithin o levels target (some asked) := by
  induction levels with
  | zero =>
    intro base m s d hn hroot ht hl hlevels hguards
    have := hn.length_le
    omega
  | succ levels ih =>
    intro base m s d hn hroot ht hl hlevels hguards
    simp only [expandWithin, expandFile_run, hs.resolve ht.2, ht.1, hroot] at hguards ⊢
    cases hr : Source.resolve t root d.path with
    | error e => exact Stops.of_step (by simp [step, hl, hroot, hr]) ht
    | ok loc =>
      simp only [hr] at hguards ⊢
      cases he : m.context.enter loc.path (some (m.top.file.origin m.number)) with
      | error failure => exact Stops.of_step (by simp [step, hl, hroot, hr, he]) ht
      | ok c =>
        simp only [he] at hguards ⊢
        have hstep := step_directive hl (hroot ▸ hr) he
        have hnext := hn.step hstep
        have hroot' := (root_of_step hstep).trans hroot
        obtain ⟨_, _, rfl⟩ := Context.of_enter_some he
        refine .of_run (.single hstep) ?_
        exact entered_ends hs (fun path asked => expandWithin_grows o levels path (some asked)) ih
          hnext hroot' ht.2 (by omega) (hguards.of_run (.single hstep))

end Traversal

section Ends

open Traversal Expansion

variable {σ : Type} {o : Output σ} {t : Tree} {safe : Path → Prop} {holds : List FlatLine → σ → Prop}
  {refuses : List FlatLine → σ → Failure → Prop} {source : String} {loc : Location} {s : Progress σ}

/-- An expansion ends where the walk over its source ends, if the walk stays in safe files. -/
theorem expand_ends_of_guards (hs : o.Serves t s.context.root safe holds refuses) (hh : holds [] s.out)
    (hentries : (o.tree s.out).entries.length = t.entries.length)
    (hr : Source.resolve t s.context.root source = .ok loc)
    (hguards : Guards t safe (start s.context loc) (remains (expand o source s)).context.registry) :
    Ends t holds refuses Context.leave [] (start s.context loc) (expand o source s) := by
  simp only [expand, bind_run, get_run, hentries, expandWithin, expandFile_run, hs.resolve hh, hr]
    at hguards ⊢
  exact entered_ends hs (fun path asked => expandWithin_grows o _ path (some asked))
    (expandWithin_descends hs _) (Nested.start (Source.isRegular_of_resolve hr)) rfl hh (by simp) hguards

/-- Every file that a walk is in is registered, so it is enough that the registered files are safe. -/
theorem expand_ends (hs : o.Serves t s.context.root safe holds refuses) (hh : holds [] s.out)
    (hentries : (o.tree s.out).entries.length = t.entries.length)
    (hr : Source.resolve t s.context.root source = .ok loc)
    (hsafe : (remains (expand o source s)).context.registry.Safe safe) :
    Ends t holds refuses Context.leave [] (start s.context loc) (expand o source s) := by
  refine expand_ends_of_guards hs hh hentries hr fun m hrun hr' => ?_
  have hn := (Nested.start (c := s.context) (Source.isRegular_of_resolve hr)).run hrun
  obtain ⟨e, he, hsame⟩ := hn.known m.top.file.loc (by simp [State.opened, State.frames])
  exact hs.safe_same hsame (hsafe e (hr'.subset he))

end Ends

open Traversal Expansion in
/-- However an expansion over a fixed tree ends, the walk comes to a point with the same registry. -/
theorem registry_of_expand {σ : Type} {o : Output σ} {t : Tree} {source : String} {loc : Location}
    {s : Progress σ} (ho : ∀ out, o.tree out = t)
    (hr : Source.resolve t s.context.root source = .ok loc) :
    ∃ m, Run t (start s.context loc) m ∧
      (remains (expand o source s)).context.registry = m.context.registry := by
  have hends := expand_ends (Output.serves_of_fixed ho s.context.root) trivial (by rw [ho]) hr
    (fun _ _ => trivial)
  cases hx : expand o source s with
  | ok u s' =>
    rw [hx] at hends
    obtain ⟨m, hrun, _, _, hc, _⟩ := hends
    refine ⟨m, hrun, ?_⟩
    rw [remains, hc]
    rfl
  | error e s' =>
    rw [hx] at hends
    obtain ⟨m, hrun, hc, _⟩ := hends
    refine ⟨m, hrun, ?_⟩
    rw [remains, hc]

open Expansion in
/-- A source that is no file gives an error and nothing else. -/
theorem expand_of_unresolved {σ : Type} {o : Output σ} {source : String} {failure : Failure}
    {s : Progress σ} (hr : Source.resolve (o.tree s.out) s.context.root source = .error failure) :
    expand o source s = .error failure s := by
  simp only [expand, bind_run, get_run, expandWithin, expandFile_run, hr]
  rfl

end GlslFlatten
