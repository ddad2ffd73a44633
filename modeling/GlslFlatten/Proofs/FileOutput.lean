import GlslFlatten.Flatten
import GlslFlatten.Proofs.Simulation
import GlslFlatten.Proofs.TreeChange

/-!
A file as the output of an expansion. However the buffer is filled and emptied, the bytes in the file
and those that are pending are the lines that were written, and the rest of the tree stays as it was.
-/

namespace GlslFlatten

open Text

/-- The bytes of whole lines. -/
def FlatLine.bytes (lines : List FlatLine) : List UInt8 :=
  Utf8.encode (lines.flatMap fun line => line.text.toList ++ ['\n'])

theorem Text.Utf8.encode_append (cs ds : List Char) : encode (cs ++ ds) = encode cs ++ encode ds :=
  List.flatMap_append

namespace FlatLine

theorem bytes_concat (lines : List FlatLine) (line : FlatLine) :
    bytes (lines ++ [line]) = bytes lines ++ line.parts.flatMap Utf8.bytes := by
  rw [bytes, bytes, List.flatMap_append, Utf8.encode_append]
  congr 1
  cases line <;> simp [parts, text, Utf8.bytes, Utf8.encode]

end FlatLine

namespace FileSink

/-- In a tree that was `made` with an empty file at `target`, the bytes `bs` have been written. A
device keeps none of them. -/
structure Keeps (made : Tree) (target : Location) (bs : List UInt8) (f : FileSink) : Prop where
  place : f.target = target
  workdir : f.tree.workdir = made.workdir
  foreign : f.tree.foreign = made.foreign
  others : ∀ loc ≠ target, f.tree.get? loc = made.get? loc
  kept : (∃ refusal, made.get? target = some (.device refusal) ∧
      f.tree.get? target = some (.device refusal)) ∨
    (∃ content, made.get? target = some (.file content)) ∧
      ∃ written, f.tree.get? target = some (.file written) ∧ written ++ f.pending = bs

/-- The target takes no bytes. -/
def Refuses (made : Tree) (target : Location) (e : IoError) : Prop :=
  made.get? target = some (.device (some e))

variable {made : Tree} {target : Location} {bs bs' : List UInt8} {f : FileSink}

theorem Keeps.alike (h : Keeps made target bs f) : f.tree.Alike made := by
  refine ⟨h.workdir, fun loc => ?_⟩
  by_cases hl : loc = target
  · subst hl
    rcases h.kept with ⟨refusal, hm, hf⟩ | ⟨⟨content, hm⟩, written, hf, _⟩
    · exact .inl (hf.trans hm.symm)
    · exact .inr ⟨written, content, hf, hm⟩
  · exact .inl (h.others loc hl)

theorem Keeps.differs (h : Keeps made target bs f) : made.Differs f.tree target where
  workdir := h.workdir
  foreign := h.foreign
  others := h.others
  leaf := h.kept.symm.imp (fun ⟨_, written, hw, _⟩ => ⟨written, hw⟩)
    fun ⟨refusal, _, hv⟩ => ⟨refusal, hv⟩

/-- Of a device nothing is known but that it is there. -/
theorem Keeps.of_device (h : Keeps made target bs f) {refusal : Option IoError}
    (hm : made.get? target = some (.device refusal)) (pending : List UInt8) :
    Keeps made target bs' { f with pending } := by
  refine ⟨h.place, h.workdir, h.foreign, h.others, .inl ⟨refusal, hm, ?_⟩⟩
  rcases h.kept with ⟨refusal', hm', hf⟩ | ⟨⟨content, hm'⟩, _⟩
  · obtain rfl : refusal' = refusal := by simpa [hm] using hm'.symm
    exact hf
  · simp [hm] at hm'

theorem send_of_none (h : f.refusal? = none) (bytes : List UInt8) :
    FileSink.send bytes f = .ok () { f with tree := f.tree.append f.target bytes } := by
  simp [FileSink.send, h]

theorem send_of_some {e : IoError} (h : f.refusal? = some e) (bytes : List UInt8) :
    FileSink.send bytes f = if bytes = [] then .ok () f else .error e f := by
  simp [FileSink.send, h]

/-- Bytes that are handed on are behind those in the file, with `pending` bytes left. -/
theorem Keeps.send (h : Keeps made target bs f) (bytes pending : List UInt8)
    (hbs : ∀ written, written ++ f.pending = bs → written ++ bytes ++ pending = bs') :
    match FileSink.send bytes f with
    | .ok () f' => Keeps made target bs' { f' with pending } ∧ f'.pending = f.pending
    | .error e f' => Keeps made target bs' f' ∧ Refuses made target e := by
  rcases h.kept with ⟨refusal, hm, hf⟩ | ⟨hm, written, hf, hw⟩
  · have hrefusal : f.refusal? = refusal := by simp [refusal?, h.place, hf]
    cases refusal with
    | none =>
      have hsame : f.tree.append f.target bytes = f.tree := by
        simp [Tree.append, Tree.content?, h.place, hf]
      rw [send_of_none hrefusal, hsame]
      exact ⟨h.of_device hm pending, rfl⟩
    | some e =>
      rw [send_of_some hrefusal]
      by_cases hb : bytes = []
      · rw [if_pos hb]
        exact ⟨h.of_device hm pending, rfl⟩
      · rw [if_neg hb]
        exact ⟨h.of_device hm f.pending, hm⟩
  · have hrefusal : f.refusal? = none := by simp [refusal?, h.place, hf]
    have hput : f.tree.append f.target bytes = f.tree.put target (.file (written ++ bytes)) := by
      simp [Tree.append, Tree.content?, h.place, hf]
    have htop : target ≠ [] := by
      rintro rfl
      cases hf
    rw [send_of_none hrefusal, hput]
    refine ⟨⟨h.place, h.workdir, h.foreign, fun loc hl => ?_, .inr ⟨hm, written ++ bytes, ?_,
      hbs written hw⟩⟩, rfl⟩
    · exact (Tree.get?_put_of_ne _ hl _).trans (h.others loc hl)
    · exact Tree.get?_put_self _ htop _

theorem Keeps.flush (h : Keeps made target bs f) :
    match FileSink.flush f with
    | .ok () f' => Keeps made target bs f' ∧ f'.pending = []
    | .error e f' => Keeps made target bs f' ∧ Refuses made target e := by
  have hsend := h.send f.pending [] fun written hw =>
    (by rw [List.append_nil, hw] : written ++ f.pending ++ [] = bs)
  simp only [FileSink.flush, bind_run, get_run]
  cases hr : FileSink.send f.pending f with
  | ok u f' =>
    rw [hr] at hsend
    exact ⟨hsend.1, rfl⟩
  | error e f' =>
    rw [hr] at hsend
    exact hsend

/-- What is put into the buffer once there is room for it, or is too much for any. -/
theorem Keeps.fill (h : Keeps made target bs f) (bytes : List UInt8)
    (hroom : f.pending = [] ∨ bytes.length < capacity) :
    Upholds (Keeps made target (bs ++ bytes)) (Refuses made target)
      ((if bytes.length < capacity then modify fun f => { f with pending := f.pending ++ bytes }
        else FileSink.send bytes : Writing Unit) f) := by
  split
  · refine ⟨h.place, h.workdir, h.foreign, h.others, ?_⟩
    rcases h.kept with hv | ⟨hm, written, hf, hw⟩
    · exact .inl hv
    · exact .inr ⟨hm, written, hf, by rw [← List.append_assoc, hw]⟩
  · rename_i hlarge
    have hp : f.pending = [] := hroom.resolve_right hlarge
    have hbytes : ∀ written, written ++ f.pending = bs → written ++ bytes ++ [] = bs ++ bytes := by
      intro written hw
      rw [hp, List.append_nil] at hw
      rw [List.append_nil, hw]
    have hsend := h.send bytes [] hbytes
    cases hr : FileSink.send bytes f with
    | ok u f' =>
      rw [hr] at hsend
      have hpending : f'.pending = [] := hsend.2.trans hp
      have hkeeps := hsend.1
      rw [← hpending] at hkeeps
      exact hkeeps
    | error e f' =>
      rw [hr] at hsend
      exact hsend

theorem Keeps.put (h : Keeps made target bs f) (bytes : List UInt8) :
    Upholds (Keeps made target (bs ++ bytes)) (Refuses made target) (FileSink.put bytes f) := by
  simp only [FileSink.put, bind_run, get_run]
  split
  · have hflush := h.flush
    rw [bind_run]
    cases hr : FileSink.flush f with
    | ok u f' =>
      rw [hr] at hflush
      exact hflush.1.fill bytes (.inl hflush.2)
    | error e f' =>
      rw [hr] at hflush
      exact ⟨hflush.1.of_device hflush.2 f'.pending, hflush.2⟩
  · rename_i hfits
    refine h.fill bytes ?_
    rcases Nat.lt_or_ge bytes.length capacity with hlt | hge
    · exact .inr hlt
    · exact .inl (List.length_eq_zero_iff.mp (by omega))

theorem Keeps.puts (h : Keeps made target bs f) (parts : List String) :
    Upholds (Keeps made target (bs ++ parts.flatMap Utf8.bytes)) (Refuses made target)
      ((parts.forM fun part => FileSink.put (Utf8.bytes part) : Writing Unit) f) := by
  induction parts generalizing bs f with
  | nil => simpa [pure_run, Upholds] using h
  | cons part parts ih =>
    have hput := h.put (Utf8.bytes part)
    rw [forM_cons_run, List.flatMap_cons, ← List.append_assoc]
    cases hr : FileSink.put (Utf8.bytes part) f with
    | ok u f' =>
      rw [hr] at hput
      exact ih hput
    | error e f' =>
      rw [hr] at hput
      exact ⟨hput.1.of_device hput.2 f'.pending, hput.2⟩

/-- Paths that are not spelled like the output's own. -/
def Elsewhere (target : Location) (p : Path) : Prop := p.same target.path = false

/-- A file takes every line, and a device may refuse some. The other files can be read meanwhile. -/
theorem serves (made : Tree) (target : Location) (root : Path) :
    FileSink.output.Serves made root (Elsewhere target)
      (fun lines f => Keeps made target (FlatLine.bytes lines) f)
      (fun _ f failure => (∃ bs, Keeps made target bs f) ∧
        ∃ e, failure = .system e ∧ Refuses made target e) where
  write := by
    intro lines f line h hnewline
    have hputs := h.puts line.parts
    rw [FlatLine.bytes_concat]
    simp only [output, writeLine]
    cases hr : (line.parts.forM fun part => FileSink.put (Utf8.bytes part) : Writing Unit) f with
    | ok u f' =>
      rw [hr] at hputs
      exact hputs
    | error e f' =>
      rw [hr] at hputs
      exact ⟨⟨_, hputs.1⟩, e, rfl, hputs.2⟩
  resolve := fun h path => h.alike.resolve root path
  load := by
    intro lines f h loc hsafe
    have hl : loc ≠ target := by
      rintro rfl
      rw [Elsewhere, Path.same_refl] at hsafe
      cases hsafe
    change f.tree.load loc = made.load loc
    rw [Tree.load, h.others loc hl, ← Tree.load]
  safe_same := by
    intro p q hs hp
    rw [Elsewhere, Bool.eq_false_iff, ne_eq, Path.same_iff] at hp ⊢
    obtain ⟨hlead, hnames⟩ := Path.same_iff.mp hs
    rwa [← hlead, ← hnames]

/-- A file that has just been created keeps the empty text. -/
theorem keeps_created {t : Tree} {p : Path} (h : t.create p = .ok (target, made)) :
    Keeps made target (FlatLine.bytes []) { tree := made, target } := by
  refine ⟨rfl, rfl, rfl, fun _ _ => rfl, ?_⟩
  rcases (Tree.differs_of_create h).2 with hfile | ⟨⟨refusal, hdevice⟩, rfl⟩
  · exact .inr ⟨⟨[], hfile⟩, [], hfile, rfl⟩
  · exact .inl ⟨refusal, hdevice, hdevice⟩

/-- When the buffer of a file is emptied at the end, everything is in the file. -/
theorem Keeps.content? (h : Keeps made target bs f) {content : List UInt8}
    (hm : made.get? target = some (.file content)) :
    ∃ f', FileSink.flush f = .ok () f' ∧ f'.tree.content? target = some bs := by
  have hflush := h.flush
  cases hr : FileSink.flush f with
  | ok u f' =>
    rw [hr] at hflush
    obtain ⟨hkeeps, hpending⟩ := hflush
    obtain ⟨_, written, hf, hw⟩ := hkeeps.kept.resolve_left fun ⟨_, hk, _⟩ => by simp [hm] at hk
    rw [hpending, List.append_nil] at hw
    exact ⟨f', rfl, by rw [Tree.content?, hf, hw]⟩
  | error e f' =>
    rw [hr] at hflush
    simp [Refuses, hm] at hflush

theorem Keeps.endState_flush (h : Keeps made target bs f) :
    Keeps made target bs (endState (FileSink.flush f)) := by
  have hflush := h.flush
  cases hr : FileSink.flush f with
  | ok u f' =>
    rw [hr] at hflush
    exact hflush.1
  | error e f' =>
    rw [hr] at hflush
    exact hflush.1

end FileSink

/-- Whatever an expansion writes to a file and however it ends, the file is all that changes. -/
theorem FileSink.expand_keeps {made : Tree} {target : Location} (source : String) :
    Preserves (fun s : Progress FileSink => ∃ bs, FileSink.Keeps made target bs s.out)
      (fun _ => True) (expand FileSink.output source) := by
  have hemit : ∀ line, Preserves (fun s : Progress FileSink =>
      ∃ bs, FileSink.Keeps made target bs s.out) (fun _ => True)
      (Expansion.emit FileSink.output line) := by
    rintro line s ⟨bs, hs⟩
    have hputs := hs.puts line.parts
    simp only [Expansion.emit, FileSink.output, FileSink.writeLine]
    cases hr : (line.parts.forM fun part => FileSink.put (Utf8.bytes part) : Writing Unit) s.out with
    | ok u f =>
      rw [hr] at hputs
      exact ⟨_, hputs⟩
    | error e f =>
      rw [hr] at hputs
      exact ⟨⟨_, hputs.1⟩, trivial⟩
  have h : Expansion.Invariant FileSink.output
      (fun s => ∃ bs, FileSink.Keeps made target bs s.out) (fun _ => True) (fun _ _ => True)
      (fun _ => True) :=
    .of_progress (fun _ hs => hs) hemit (fun _ _ _ hs _ => hs) (fun hs => hs)
  exact h.expand trivial

section Created

variable {t made : Tree} {config : Config} {context : Context} {source : String} {output : Path}
  {target : Location}

/-- What flattening leaves behind where the output can be created. -/
theorem tree_flatten (hcontext : Context.start t config = .ok context)
    (hcreate : t.create output = .ok (target, made)) :
    (flatten t config source output).tree = (endState (FileSink.flush (endState
      (expand FileSink.output source { out := { tree := made, target }, context })).out)).tree := by
  have hclose : ∀ (s : Progress FileSink) (result : Except Failure Registry),
      (flatten.close output s result).tree = (endState (FileSink.flush s.out)).tree := by
    intro s result
    unfold flatten.close
    cases FileSink.flush s.out <;> rfl
  simp only [flatten, hcontext, hcreate]
  cases expand FileSink.output source { out := { tree := made, target }, context } <;>
    exact hclose _ _

/-- Flattening ends well if the expansion does, and what it has left pending can be written. -/
theorem of_flatten_ok {r : Registry} (hcontext : Context.start t config = .ok context)
    (hcreate : t.create output = .ok (target, made))
    (h : (flatten t config source output).result = .ok r) :
    ∃ s f, expand FileSink.output source { out := { tree := made, target }, context } = .ok () s ∧
      FileSink.flush s.out = .ok () f ∧ s.context.registry = r ∧
      (flatten t config source output).tree = f.tree := by
  simp only [flatten, hcontext, hcreate] at h ⊢
  cases hx : expand FileSink.output source { out := { tree := made, target }, context } with
  | ok u s =>
    simp only [hx, flatten.close] at h ⊢
    cases hf : FileSink.flush s.out with
    | ok u' f =>
      simp only [hf, Except.ok.injEq] at h
      exact ⟨s, f, rfl, hf, h, rfl⟩
    | error e f =>
      rw [hf] at h
      cases h
  | error failure s =>
    simp only [hx, flatten.close] at h
    cases hf : FileSink.flush s.out <;> simp [hf] at h

end Created

/-- Flattening changes nothing, or the file alone that it creates. -/
theorem flatten_differs (t : Tree) (config : Config) (source : String) (output : Path) :
    let t' := (flatten t config source output).tree
    t' = t ∨ ∃ target made, t.create output = .ok (target, made) ∧ t.Differs t' target := by
  intro t'
  cases hcontext : Context.start t config with
  | error failure => exact .inl (by simp only [t', flatten, hcontext])
  | ok context =>
    cases hcreate : t.create output with
    | error e => exact .inl (by simp only [t', flatten, hcontext, hcreate])
    | ok created =>
      obtain ⟨target, made⟩ := created
      refine .inr ⟨target, made, rfl, ?_⟩
      have hkeeps := FileSink.expand_keeps source
        { out := { tree := made, target }, context } ⟨_, FileSink.keeps_created hcreate⟩
      obtain ⟨bs, hs⟩ := hkeeps.endState
      simp only [t', tree_flatten hcontext hcreate]
      exact (Tree.differs_of_create hcreate).1.trans hs.endState_flush.differs

end GlslFlatten
