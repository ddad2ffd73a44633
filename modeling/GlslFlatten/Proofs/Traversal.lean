import GlslFlatten.Expansion
import GlslFlatten.Proofs.FileLines
import Mathlib.Logic.Relation

/-!
The walk over the lines of a source, depth first and one line at a time, as a machine. Its state is a
stack of open files, each with the number of its lines that are done. The machine has no bounds on
depth or length, and it stops where a line cannot be processed.
-/

namespace GlslFlatten

namespace Traversal

open Expansion

structure Frame where
  file : OpenFile
  /-- How many of its lines are done. -/
  done : Nat := 0
  deriving DecidableEq, Repr

def Frame.next (f : Frame) : Frame := { f with done := f.done + 1 }

/-- The innermost open file is on top, and the one that includes it comes first among the others. -/
structure State where
  context : Context
  top : Frame
  outer : List Frame
  /-- What has been written. -/
  lines : List FlatLine
  deriving DecidableEq, Repr

namespace State

def frames (m : State) : List Frame := m.top :: m.outer

/-- The open files, innermost first. -/
def opened (m : State) : List Location := m.frames.map (·.file.loc)

/-- The line that comes next in the innermost file. -/
def line? (t : Tree) (m : State) : Option Line := t.line? m.top.file.loc m.top.done

/-- The number of that line. -/
def number (m : State) : Nat := m.top.done + 1

end State

/-- The first file needs no marker. -/
def heading (index : Nat) : List FlatLine := if index = 0 then [] else [.marker 1 index]

theorem eq_marker_of_mem_heading {index : Nat} {line : FlatLine} (h : line ∈ heading index) :
    ∃ n i, line = .marker n i := by
  unfold heading at h
  split at h
  · cases h
  · exact ⟨1, index, List.mem_singleton.mp h⟩

/-- A state with one more file, of which nothing is done. -/
def openFile (c : Context) (outer : List Frame) (lines : List FlatLine) (loc : Location)
    (includer : Option Nat) : State :=
  let name := c.nameOf loc.path
  let (index, context) := c.register loc.path name includer
  { context, top := ⟨⟨loc, name, index⟩, 0⟩, outer, lines := lines ++ heading index }

namespace State

def copy (m : State) (text : String) : State :=
  { m with top := m.top.next, lines := m.lines ++ [.copied text] }

/-- Leaves the innermost file and goes on behind the directive that asked for it. -/
def resume (m : State) (includer : Frame) (outer : List Frame) : State where
  context := m.context.leave
  top := includer.next
  outer := outer
  lines := m.lines ++ [.marker (includer.done + 2) includer.file.index]

end State

/-- One step of the walk. It ends behind the last line of the first file. -/
def step (t : Tree) (m : State) : Except Failure (Option State) :=
  match m.line? t with
  | none =>
    match m.outer with
    | [] => .ok none
    | includer :: outer => .ok (some (m.resume includer outer))
  | some (.unreadable reason) => .error (.unreadable m.top.file.loc.path reason)
  | some (.malformed defect) => .error (.invalidDirective m.top.file.name m.number defect)
  | some (.copied text) => .ok (some (m.copy text))
  | some (.directive d) =>
    match Source.resolve t m.context.root d.path with
    | .error failure => .error (blame d.path (some (m.top.file.origin m.number)) failure)
    | .ok loc =>
      match m.context.enter loc.path (some (m.top.file.origin m.number)) with
      | .error failure => .error failure
      | .ok context =>
        .ok (some (openFile context m.frames m.lines loc (some m.top.file.index)))

def Step (t : Tree) (m m' : State) : Prop := step t m = .ok (some m')

abbrev Run (t : Tree) : State → State → Prop := Relation.ReflTransGen (Step t)

/-- The state in which a source has just been opened. -/
def start (c : Context) (loc : Location) : State :=
  openFile { c with stack := c.stack ++ [loc.path] } [] [] loc none

variable {t : Tree} {m m' : State}

/-- What a step can do: copy a line, open the file that a directive means, or go on behind a
directive whose file is done. -/
theorem step_cases (h : Step t m m') :
    (∃ text, m.line? t = some (.copied text) ∧ m' = m.copy text) ∨
    (∃ d loc context, m.line? t = some (.directive d) ∧
      Source.resolve t m.context.root d.path = .ok loc ∧
      m.context.enter loc.path (some (m.top.file.origin m.number)) = .ok context ∧
      m' = openFile context m.frames m.lines loc (some m.top.file.index)) ∨
    (∃ includer outer, m.line? t = none ∧ m.outer = includer :: outer ∧
      m' = m.resume includer outer) := by
  unfold Step step at h
  split at h
  · rename_i hl
    split at h
    · cases h
    · rename_i includer outer ho
      exact .inr (.inr ⟨includer, outer, hl, ho, (Option.some.inj (Except.ok.inj h)).symm⟩)
  · cases h
  · cases h
  · rename_i text hl
    exact .inl ⟨text, hl, (Option.some.inj (Except.ok.inj h)).symm⟩
  · rename_i d hl
    split at h
    · cases h
    · rename_i loc hr
      split at h
      · cases h
      · rename_i context he
        exact .inr (.inl ⟨d, loc, context, hl, hr, he, (Option.some.inj (Except.ok.inj h)).symm⟩)

/-- A step writes markers, or the line that it copies. -/
theorem written_of_step (h : Step t m m') : ∃ more, m'.lines = m.lines ++ more ∧
    ∀ line ∈ more, (∃ n index, line = .marker n index) ∨
      ∃ text, m.line? t = some (.copied text) ∧ line = .copied text := by
  rcases step_cases h with ⟨text, hl, rfl⟩ | ⟨d, loc, context, hl, hr, he, rfl⟩ |
    ⟨includer, outer, hl, ho, rfl⟩
  · refine ⟨[.copied text], rfl, fun line hline => .inr ⟨text, hl, ?_⟩⟩
    exact List.mem_singleton.mp hline
  · refine ⟨_, rfl, fun line hline => .inl ?_⟩
    exact eq_marker_of_mem_heading hline
  · refine ⟨_, rfl, fun line hline => .inl ?_⟩
    exact ⟨_, _, List.mem_singleton.mp hline⟩

theorem step_copied {text : String} (h : m.line? t = some (.copied text)) :
    Step t m (m.copy text) := by
  simp [Step, step, h]

theorem step_directive {d : Directive} {loc : Location} {context : Context}
    (h : m.line? t = some (.directive d)) (hr : Source.resolve t m.context.root d.path = .ok loc)
    (he : m.context.enter loc.path (some (m.top.file.origin m.number)) = .ok context) :
    Step t m (openFile context m.frames m.lines loc (some m.top.file.index)) := by
  simp [Step, step, h, hr, he]

theorem step_end {includer : Frame} {outer : List Frame} (h : m.line? t = none)
    (ho : m.outer = includer :: outer) : Step t m (m.resume includer outer) := by
  simp [Step, step, h, ho]

/-- The walk ends well behind the last line of the source. -/
theorem step_eq_end_iff : step t m = .ok none ↔ m.line? t = none ∧ m.outer = [] := by
  constructor
  · intro h
    unfold step at h
    split at h
    · rename_i hl
      split at h
      · rename_i ho
        exact ⟨hl, ho⟩
      · cases h
    · cases h
    · cases h
    · cases h
    · split at h
      · cases h
      · split at h <;> cases h
  · rintro ⟨hl, ho⟩
    simp [step, hl, ho]

theorem Step.unique {m₁ m₂ : State} (h₁ : Step t m m₁) (h₂ : Step t m m₂) : m₁ = m₂ :=
  Option.some.inj (Except.ok.inj (h₁.symm.trans h₂))

end Traversal

end GlslFlatten
