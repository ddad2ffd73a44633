import GlslFlatten.Proofs.Effects
import GlslFlatten.Proofs.Running

/-!
Invariants of expansions. What the single parts of an expansion preserve is preserved by every
expansion, over every tree and however it ends. One of them is that the registry only grows.
-/

namespace GlslFlatten

namespace Reader

open Text.Utf8 (lineFeed)

/-- No line that is handed out holds a line feed, whatever has become of the file meanwhile. -/
theorem lineFeed_not_mem_of_next {content line : List UInt8} {r r' : Reader}
    (h : r.next content = some (line, r')) : lineFeed ∉ line := by
  have hfirst : ∀ bytes, lineFeed ∉ (Text.firstLine lineFeed bytes).1 := by
    intro bytes
    induction bytes with
    | nil => simp [Text.firstLine]
    | cons b bytes ih =>
      by_cases hb : b = lineFeed
      · simp [Text.firstLine, hb]
      · simpa [Text.firstLine, hb, Ne.symm hb] using ih
  unfold next at h
  split at h
  · cases h
    exact hfirst _
  · rename_i hahead
    have hahead : lineFeed ∉ r.ahead := by simpa using hahead
    simp only at h
    split at h
    · cases h
      simp [hahead, hfirst]
    · rename_i hunread
      split at h
      · cases h
      · cases h
        simpa [hahead] using hunread

end Reader

namespace Expansion

variable {σ : Type}

/-- What the parts of an expansion preserve of its progress, where more may come to be known of it with
every file that is opened: `k` tells how much is known. What was known before is known again behind the
file. `asks` tells which files may be asked for, and `opens` what is known of a file whose lines are
copied. -/
structure InvariantFamily {κ : Type} (o : Output σ) (P : κ → Progress σ → Prop) (Q : Failure → Prop)
    (asks : κ → String → Option Origin → Prop) (opens : κ → OpenFile → Prop) : Prop where
  log : ∀ {k s} log, P k s → P k { s with log := log }
  emit : ∀ k line, Preserves (P k) Q (emit o line)
  unresolved : ∀ {k s path origin e}, P k s → asks k path origin →
    Source.resolve (o.tree s.out) s.context.root path = .error e →
    Q (blame path origin e)
  refused : ∀ {k s path origin loc failure}, P k s → asks k path origin →
    Source.resolve (o.tree s.out) s.context.root path = .ok loc →
    s.context.enter loc.path origin = .error failure → Q failure
  opened : ∀ {k s path origin loc c}, P k s → asks k path origin →
    Source.resolve (o.tree s.out) s.context.root path = .ok loc →
    s.context.enter loc.path origin = .ok c →
    let name := s.context.nameOf loc.path
    let entered := c.register loc.path name (origin.map (·.index))
    ∃ k', P k' { s with context := entered.2 } ∧ opens k' ⟨loc, name, entered.1⟩ ∧
      ∀ s', P k' s' → P k s'
  left : ∀ {k s}, P k s → P k { s with context := s.context.leave }
  unopened : ∀ {k s file e}, P k s → opens k file → (o.tree s.out).load file.loc = .error e →
    Q (.unreadable file.loc.path e)
  endless : ∀ {k file}, opens k file → Q (.unending file.loc.path)
  bottomless : ∀ {k path origin}, asks k path origin → Q (.unending ⟨path⟩)
  line : ∀ {k file bytes} number, opens k file → Text.Utf8.lineFeed ∉ bytes →
    match Line.read number bytes with
    | .unreadable reason => Q (.unreadable file.loc.path reason)
    | .malformed defect => Q (.invalidDirective file.name number defect)
    | .copied _ => True
    | .directive d => asks k d.path (some (file.origin d.line))

namespace InvariantFamily

variable {κ : Type} {o : Output σ} {P : κ → Progress σ → Prop} {Q : Failure → Prop}
  {asks : κ → String → Option Origin → Prop} {opens : κ → OpenFile → Prop}
  {descend : String → Origin → Expand σ Unit} {file : OpenFile} {k : κ}

theorem note (h : InvariantFamily o P Q asks opens) (text : String) :
    Preserves (P k) Q (note text : Expand σ Unit) := fun _ hs => h.log _ hs

theorem process (h : InvariantFamily o P Q asks opens)
    (hd : ∀ path origin, asks k path (some origin) → Preserves (P k) Q (descend path origin))
    (hf : opens k file) (number : Nat) {bytes : List UInt8} (hb : Text.Utf8.lineFeed ∉ bytes) :
    Preserves (P k) Q (process o descend file number (Line.read number bytes)) := by
  have hl := h.line number hf hb
  cases hr : Line.read number bytes with
  | unreadable reason =>
    rw [hr] at hl
    exact .throw hl
  | malformed defect =>
    rw [hr] at hl
    exact .throw hl
  | copied text => exact h.emit k _
  | directive d =>
    rw [hr] at hl
    exact .bind (h.note _) fun _ => .bind (hd _ _ hl) fun _ => h.emit k _

theorem copyLines (h : InvariantFamily o P Q asks opens)
    (hd : ∀ path origin, asks k path (some origin) → Preserves (P k) Q (descend path origin))
    (hf : opens k file) (limit : Nat) (reader : Reader) (number : Nat) :
    Preserves (P k) Q (copyLines o descend file limit reader number) := by
  induction limit generalizing reader number with
  | zero => exact .throw (h.endless hf)
  | succ limit ih =>
    intro s hs
    rw [copyLines_run]
    cases hload : (o.tree s.out).load file.loc with
    | error e => exact ⟨hs, h.unopened hs hf hload⟩
    | ok content =>
      simp only
      cases hnext : reader.next content with
      | none => exact hs
      | some next =>
        have hb := Reader.lineFeed_not_mem_of_next hnext
        exact Preserves.bind (h.process hd hf number hb) (fun _ => ih next.2 (number + 1)) s hs

theorem copyAll (h : InvariantFamily o P Q asks opens)
    (hd : ∀ path origin, asks k path (some origin) → Preserves (P k) Q (descend path origin))
    (hf : opens k file) : Preserves (P k) Q (copyAll o descend file) := by
  intro s hs
  rw [Expansion.copyAll, bind_run, load_run]
  cases hload : (o.tree s.out).load file.loc with
  | error e => exact ⟨hs, h.unopened hs hf hload⟩
  | ok content => exact h.copyLines hd hf _ {} 1 s hs

theorem copyFile (h : InvariantFamily o P Q asks opens)
    (hd : ∀ path origin, asks k path (some origin) → Preserves (P k) Q (descend path origin))
    (hf : opens k file) : Preserves (P k) Q (copyFile o descend file) := by
  have hhead : Preserves (P k) Q (head o file.index) := by
    unfold head
    split
    · exact h.emit k _
    · exact .pure ()
  exact .bind (h.note _) fun _ => .bind hhead fun _ => .bind (h.copyAll hd hf) fun _ =>
    fun _ hs => h.left hs

theorem expandFile (h : InvariantFamily o P Q asks opens)
    (hd : ∀ k path origin, asks k path (some origin) → Preserves (P k) Q (descend path origin))
    {path : String} {origin : Option Origin} (ha : asks k path origin) :
    Preserves (P k) Q (expandFile o descend path origin) := by
  intro s hs
  rw [expandFile_run]
  cases hr : Source.resolve (o.tree s.out) s.context.root path with
  | error e => exact ⟨hs, h.unresolved hs ha hr⟩
  | ok loc =>
    cases he : s.context.enter loc.path origin with
    | error failure =>
      simp only [he]
      exact ⟨hs, h.refused hs ha hr he⟩
    | ok c =>
      obtain ⟨k', hp, hf, hback⟩ := h.opened hs ha hr he
      simp only [he]
      exact (h.copyFile (hd k') hf _ hp).imp hback

theorem expandWithin (h : InvariantFamily o P Q asks opens) (levels : Nat) {path : String}
    {origin : Option Origin} (ha : asks k path origin) :
    Preserves (P k) Q (expandWithin o levels path origin) := by
  induction levels generalizing k path origin with
  | zero => exact .throw (h.bottomless ha)
  | succ levels ih => exact h.expandFile (fun _ _ _ ha => ih ha) ha

theorem expand (h : InvariantFamily o P Q asks opens) {source : String} (ha : asks k source none) :
    Preserves (P k) Q (expand o source) := by
  intro s hs
  exact h.expandWithin _ ha s hs

end InvariantFamily

/-- What the parts of an expansion preserve of its progress, with `asks` and `opens` as in a family. -/
structure Invariant (o : Output σ) (P : Progress σ → Prop) (Q : Failure → Prop)
    (asks : String → Option Origin → Prop) (opens : OpenFile → Prop) : Prop where
  log : ∀ {s} log, P s → P { s with log := log }
  emit : ∀ line, Preserves P Q (emit o line)
  unresolved : ∀ {s path origin e}, P s → asks path origin →
    Source.resolve (o.tree s.out) s.context.root path = .error e →
    Q (blame path origin e)
  refused : ∀ {s path origin loc failure}, P s → asks path origin →
    Source.resolve (o.tree s.out) s.context.root path = .ok loc →
    s.context.enter loc.path origin = .error failure → Q failure
  opened : ∀ {s path origin loc c}, P s → asks path origin →
    Source.resolve (o.tree s.out) s.context.root path = .ok loc →
    s.context.enter loc.path origin = .ok c →
    let name := s.context.nameOf loc.path
    let entered := c.register loc.path name (origin.map (·.index))
    P { s with context := entered.2 } ∧ opens ⟨loc, name, entered.1⟩
  left : ∀ {s}, P s → P { s with context := s.context.leave }
  unopened : ∀ {s file e}, P s → opens file → (o.tree s.out).load file.loc = .error e →
    Q (.unreadable file.loc.path e)
  endless : ∀ {file}, opens file → Q (.unending file.loc.path)
  bottomless : ∀ {path origin}, asks path origin → Q (.unending ⟨path⟩)
  line : ∀ {file bytes} number, opens file → Text.Utf8.lineFeed ∉ bytes →
    match Line.read number bytes with
    | .unreadable reason => Q (.unreadable file.loc.path reason)
    | .malformed defect => Q (.invalidDirective file.name number defect)
    | .copied _ => True
    | .directive d => asks d.path (some (file.origin d.line))

namespace Invariant

variable {o : Output σ} {P : Progress σ → Prop} {Q : Failure → Prop}
  {asks : String → Option Origin → Prop} {opens : OpenFile → Prop}

/-- The family in which nothing more comes to be known. -/
theorem family (h : Invariant o P Q asks opens) :
    InvariantFamily o (fun _ : Unit => P) Q (fun _ => asks) (fun _ => opens) where
  log := h.log
  emit := fun _ => h.emit
  unresolved := h.unresolved
  refused := h.refused
  opened := fun hs ha hr he =>
    have ⟨hp, hf⟩ := h.opened hs ha hr he
    ⟨(), hp, hf, fun _ hs' => hs'⟩
  left := h.left
  unopened := h.unopened
  endless := h.endless
  bottomless := h.bottomless
  line := h.line

theorem expand (h : Invariant o P Q asks opens) {source : String} (ha : asks source none) :
    Preserves P Q (expand o source) := h.family.expand (k := ()) ha

/-- What is known of the progress alone, whatever is asked for and whatever goes wrong. -/
theorem of_progress (log : ∀ {s} log, P s → P { s with log := log })
    (emit : ∀ line, Preserves P (fun _ => True) (Expansion.emit o line))
    (opened : ∀ {s c} (p : Path) (origin : Option Origin) (name : String), P s →
      s.context.enter p origin = .ok c →
      P { s with context := (c.register p name (origin.map (·.index))).2 })
    (left : ∀ {s}, P s → P { s with context := s.context.leave }) :
    Invariant o P (fun _ => True) (fun _ _ => True) (fun _ => True) where
  log := log
  emit := emit
  unresolved := fun _ _ _ => trivial
  refused := fun _ _ _ _ => trivial
  opened := fun hs _ _ he => ⟨opened _ _ _ hs he, trivial⟩
  left := left
  unopened := fun _ _ _ => trivial
  endless := fun _ => trivial
  bottomless := fun _ => trivial
  line := fun {_ bytes} number _ _ => by cases Line.read number bytes <;> trivial

end Invariant

/-- Output is none of the context's business. -/
theorem emit_context (P : Context → Prop) (o : Output σ) (line : FlatLine) :
    Preserves (fun s => P s.context) (fun _ => True) (emit o line) := by
  intro s h
  unfold emit
  split
  · exact h
  · exact ⟨h, trivial⟩

/-- Files that are registered stay so, under their numbers. -/
theorem invariant_extends (o : Output σ) (r : Registry) :
    Invariant o (fun s => r.Extends s.context.registry) (fun _ => True) (fun _ _ => True)
      (fun _ => True) := by
  refine .of_progress (fun _ h => h) (emit_context (fun c => r.Extends c.registry) o)
    (fun p origin name h he => ?_) (fun h => h)
  rw [← Context.registry_enter he] at h
  exact h.trans (Context.extends_register _ p name _)

theorem grows_iff {α : Type} {x : Expand σ α} : Grows x ↔
    ∀ r : Registry, Preserves (fun s => r.Extends s.context.registry) (fun _ => True) x := by
  constructor
  · intro h r s hr
    have hx := hr.trans (h s)
    cases he : x s with
    | ok a s' =>
      rw [he] at hx
      exact hx
    | error e s' =>
      rw [he] at hx
      exact ⟨hx, trivial⟩
  · intro h s
    have hx := h _ s (.refl s.context.registry)
    cases he : x s with
    | ok a s' =>
      rw [he] at hx
      exact hx
    | error e s' =>
      rw [he] at hx
      exact hx.1

theorem emit_grows (o : Output σ) (line : FlatLine) : Grows (emit o line) :=
  grows_iff.mpr fun r => (invariant_extends o r).emit line

theorem copyLines_grows (o : Output σ) {descend : String → Origin → Expand σ Unit}
    (hd : ∀ path origin, Grows (descend path origin)) (file : OpenFile) (limit : Nat)
    (reader : Reader) (number : Nat) : Grows (copyLines o descend file limit reader number) :=
  grows_iff.mpr fun r => (invariant_extends o r).family.copyLines (k := ())
    (fun path origin _ => grows_iff.mp (hd path origin) r) trivial limit reader number

theorem copyAll_grows (o : Output σ) {descend : String → Origin → Expand σ Unit}
    (hd : ∀ path origin, Grows (descend path origin)) (file : OpenFile) :
    Grows (copyAll o descend file) :=
  grows_iff.mpr fun r => (invariant_extends o r).family.copyAll (k := ())
    (fun path origin _ => grows_iff.mp (hd path origin) r) trivial

theorem expandWithin_grows (o : Output σ) (levels : Nat) (path : String) (origin : Option Origin) :
    Grows (expandWithin o levels path origin) :=
  grows_iff.mpr fun r => (invariant_extends o r).family.expandWithin (k := ()) levels trivial

theorem expand_grows (o : Output σ) (source : String) : Grows (expand o source) :=
  grows_iff.mpr fun r => (invariant_extends o r).expand trivial

end Expansion

end GlslFlatten
