import GlslFlatten.Diagnostic.ValidatorLine
import GlslFlatten.Proofs.Expanded

/-!
Flattened text as a compiler reads it: from left to right, with a position that markers set and every
other line moves on. Main statement: each line of an expansion is found at the place that it comes
from.
-/

namespace GlslFlatten

open Text

namespace FlatLine

/-- What a compiler takes a line for. A marker is written with blanks between its parts. -/
def ofText (line : String) : FlatLine :=
  match pieces ' ' line.toList with
  | [['#', 'l', 'i', 'n', 'e'], number, index] =>
    if number.all isAsciiDigit && index.all isAsciiDigit then
      marker (digitsValue number) (digitsValue index)
    else copied line
  | _ => copied line

theorem pieces_marker (line index : Nat) : pieces ' ' (marker line index).text.toList =
    [['#', 'l', 'i', 'n', 'e'], Nat.toDigits 10 line, Nat.toDigits 10 index] := by
  have htext : (marker line index).text.toList =
      ['#', 'l', 'i', 'n', 'e'] ++ ' ' :: (Nat.toDigits 10 line ++ ' ' :: Nat.toDigits 10 index) := by
    simp [text]
  have hblank : ∀ n, ' ' ∉ Nat.toDigits 10 n := not_mem_toDigits (by decide)
  rw [htext, pieces_append_sep (by decide), pieces_append_sep (hblank line),
    pieces_of_not_mem (hblank index)]

/-- A line is taken for what it was written as, if no line of source looks like a marker. -/
theorem ofText_text (l : FlatLine)
    (h : ∀ text, l = copied text → ¬ "#line".toList <+: text.toList) : ofText l.text = l := by
  cases l with
  | marker line index =>
    have hdigits : ∀ n, (Nat.toDigits 10 n).all isAsciiDigit = true :=
      fun n => List.all_eq_true.mpr fun c hc => isAsciiDigit_of_mem_toDigits hc
    rw [ofText, pieces_marker]
    simp [hdigits, digitsValue_toDigits]
  | copied line =>
    unfold ofText
    split
    · rename_i hp
      exact absurd (prefix_of_pieces hp) (h line rfl)
    · rfl

end FlatLine

/-- The lines of source, each with the position at which a reader finds it who begins at `p`. -/
def ascribe : Position → List FlatLine → List (Position × String)
  | _, [] => []
  | _, .marker line index :: ls => ascribe ⟨index, line⟩ ls
  | p, .copied text :: ls => (p, text) :: ascribe ⟨p.index, p.line + 1⟩ ls

/-- The position behind the last line. -/
def arrive : Position → List FlatLine → Position
  | p, [] => p
  | _, .marker line index :: ls => arrive ⟨index, line⟩ ls
  | p, .copied _ :: ls => arrive ⟨p.index, p.line + 1⟩ ls

theorem ascribe_append (p : Position) (ls more : List FlatLine) :
    ascribe p (ls ++ more) = ascribe p ls ++ ascribe (arrive p ls) more := by
  induction ls generalizing p with
  | nil => rfl
  | cons l ls ih => cases l <;> simp [ascribe, arrive, ih]

theorem arrive_append (p : Position) (ls more : List FlatLine) :
    arrive p (ls ++ more) = arrive (arrive p ls) more := by
  induction ls generalizing p with
  | nil => rfl
  | cons l ls ih => cases l <;> simp [arrive, ih]

theorem exists_ascribe {ls : List FlatLine} {text : String} (h : .copied text ∈ ls) (p : Position) :
    ∃ q, (q, text) ∈ ascribe p ls := by
  induction ls generalizing p with
  | nil => cases h
  | cons l ls ih =>
    cases l with
    | marker line index =>
      rcases List.mem_cons.mp h with h | h
      · cases h
      · exact ih h _
    | copied other =>
      rcases List.mem_cons.mp h with h | h
      · cases h
        exact ⟨p, List.mem_cons_self⟩
      · obtain ⟨q, hq⟩ := ih h ⟨p.index, p.line + 1⟩
        exact ⟨q, List.mem_cons_of_mem _ hq⟩

/-- A line that is no directive, with the file that it is in and its number there. -/
structure SourceLine where
  file : Location
  number : Nat
  text : String
  deriving DecidableEq, Repr

/-- The splice of the first `n` lines of the file at `f`: the lines in their order, with the splice of
its target in the place of each directive. -/
inductive Splice (t : Tree) (root : Path) : (f : Location) → (n : Nat) → List SourceLine → Prop
  | nil {f : Location} : Splice t root f 0 []
  | copied {f : Location} {n : Nat} {xs : List SourceLine} {text : String} :
      Splice t root f n xs → t.line? f n = some (.copied text) →
      Splice t root f (n + 1) (xs ++ [⟨f, n + 1, text⟩])
  | included {f g : Location} {n : Nat} {xs ys : List SourceLine} {d : Directive} :
      Splice t root f n xs → t.line? f n = some (.directive d) →
      Source.resolve t root d.path = .ok g → Splice t root g (t.linesOf g).length ys →
      Splice t root f (n + 1) (xs ++ ys)

variable {t t' : Tree} {root : Path} {r : Registry} {f : Location} {n i : Nat} {ls : List FlatLine}

/-- There is only one splice. -/
theorem Splice.unique {xs ys : List SourceLine} (h : Splice t root f n xs)
    (h' : Splice t root f n ys) : xs = ys := by
  induction h generalizing ys with
  | nil =>
    cases h'
    rfl
  | copied _ hl ih =>
    cases h' with
    | copied hs hl' =>
      cases hl.symm.trans hl'
      rw [ih hs]
    | included _ hl' _ _ => cases hl.symm.trans hl'
  | included _ hl hr _ ih ih' =>
    cases h' with
    | copied _ hl' => cases hl.symm.trans hl'
    | included hs hl' hr' hg =>
      cases hl.symm.trans hl'
      cases hr.symm.trans hr'
      rw [ih hs, ih' hg]

namespace Emitted

/-- An expansion is the same in a tree that has the same registered files. -/
theorem transfer (h : Emitted t root r f n ls)
    (hlines : ∀ g j, r.indexOf? g.path = some j → t.linesOf g = t'.linesOf g)
    (hresolve : ∀ path g j, Source.resolve t root path = .ok g → r.indexOf? g.path = some j →
      Source.resolve t' root path = .ok g)
    (hi : r.indexOf? f.path = some i) : Emitted t' root r f n ls := by
  induction h generalizing i with
  | nil => exact .nil
  | @copied f n ls text _ hl ih =>
    rw [Tree.line?, hlines f i hi] at hl
    exact .copied (ih hi) hl
  | @included f g n i' j ls body d _ hl hr hf hg _ ih ih' =>
    rw [Tree.line?, hlines f i hi] at hl
    have hbody := ih' hg
    rw [hlines g j hg] at hbody
    exact .included (ih hi) hl (hresolve d.path g j hr hg) hf hg hbody

/-- A position by the path of its file. -/
def place (r : Registry) (a : Position × String) : Option Path × Nat × String :=
  ((r.get? a.1.index).map (·.path), a.1.line, a.2)

def origin (x : SourceLine) : Option Path × Nat × String := (some x.file.path, x.number, x.text)

/-- A reader who comes to an expansion at the first line of its file finds the splice, and is then at
the line behind. -/
theorem ascribed (h : Emitted t root r f n ls) (hp : r.Proper) (ha : root.isAbsolute = true)
    (hf : f.Plain) (hi : r.indexOf? f.path = some i) :
    ∃ xs, Splice t root f n xs ∧ (ascribe ⟨i, 1⟩ ls).map (place r) = xs.map origin ∧
      arrive ⟨i, 1⟩ ls = ⟨i, n + 1⟩ := by
  induction h generalizing i with
  | nil => exact ⟨[], .nil, rfl, rfl⟩
  | @copied f n ls text _ hl ih =>
    obtain ⟨xs, hs, hx, harrive⟩ := ih hf hi
    obtain ⟨e, he, hpath⟩ := hp.of_indexOf? hf hi
    refine ⟨_, .copied hs hl, ?_, ?_⟩
    · rw [ascribe_append, List.map_append, List.map_append, hx, harrive]
      simp [ascribe, place, origin, he, hpath]
    · rw [arrive_append, harrive]
      rfl
  | @included f g n i' j ls body d _ hl hr hf' hg _ ih ih' =>
    cases hi.symm.trans hf'
    obtain ⟨xs, hs, hx, harrive⟩ := ih hf hi
    obtain ⟨ys, hs', hy, _⟩ := ih' (Source.plain_of_resolve ha hr) hg
    refine ⟨_, .included hs hl hr hs', ?_, ?_⟩
    · rw [ascribe_append, List.map_append, List.map_append, hx, List.cons_append, ascribe,
        ascribe_append, List.map_append, hy]
      simp [ascribe]
    · rw [arrive_append, List.cons_append, arrive, arrive_append]
      rfl

end Emitted

end GlslFlatten
