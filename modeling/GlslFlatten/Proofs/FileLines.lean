import GlslFlatten.Proofs.Locations
import GlslFlatten.Proofs.Reading

/-!
The lines of a file and what they ask for, and the files that a file includes. Nothing here depends
on a run.
-/

namespace GlslFlatten

open Text

/-- A line as it will be taken, or the reason why there is none to take. -/
inductive Line where
  | unreadable (reason : IoError)
  | malformed (defect : Defect)
  | copied (text : String)
  | directive (directive : Directive)
  deriving DecidableEq, Repr

def Line.read (number : Nat) (bytes : List UInt8) : Line :=
  match Utf8.decode? bytes with
  | none => unreadable .notUtf8
  | some cs =>
    match Directive.parse (trimEnd (.ofList cs)) number with
    | .error defect => malformed defect
    | .ok none => copied (trimEnd (.ofList cs))
    | .ok (some found) => directive found

theorem Directive.line_of_parse {text : String} {number : Nat} {d : Directive}
    (h : parse text number = .ok (some d)) : d.line = number := by
  unfold parse at h
  split at h
  · cases h
  · split at h
    · cases h
    · cases h
      rfl

theorem Line.line_of_read {number : Nat} {bytes : List UInt8} {d : Directive}
    (h : read number bytes = directive d) : d.line = number := by
  unfold read at h
  split at h
  · cases h
  · split at h
    · cases h
    · cases h
    · rename_i hp
      cases h
      exact Directive.line_of_parse hp

theorem Line.mem_of_read_copied {number : Nat} {bytes : List UInt8} {text : String}
    (h : read number bytes = copied text) :
    ∃ cs, Utf8.decode? bytes = some cs ∧ text = trimEnd (.ofList cs) := by
  unfold read at h
  split at h
  · cases h
  · rename_i cs hd
    split at h
    · cases h
    · cases h
      exact ⟨cs, hd, rfl⟩
    · cases h

theorem Line.parse_of_read_copied {number : Nat} {bytes : List UInt8} {text : String}
    (h : read number bytes = copied text) : Directive.parse text number = .ok none := by
  unfold read at h
  split at h
  · cases h
  · split at h
    · cases h
    · rename_i hp
      cases h
      exact hp
    · cases h

namespace Tree

/-- The lines of a file. One that cannot be opened ends at its first. -/
def linesOf (t : Tree) (loc : Location) : List Line :=
  match t.load loc with
  | .error e => [.unreadable e]
  | .ok content => (Reader.lines content).mapIdx fun i => Line.read (i + 1)

/-- Line `i + 1` of a file. -/
def line? (t : Tree) (loc : Location) (i : Nat) : Option Line := (t.linesOf loc)[i]?

theorem linesOf_of_load {t : Tree} {loc : Location} {content : List UInt8}
    (h : t.load loc = .ok content) :
    t.linesOf loc = (Reader.lines content).mapIdx fun i => Line.read (i + 1) := by
  simp [linesOf, h]

theorem line?_of_load {t : Tree} {loc : Location} {content : List UInt8}
    (h : t.load loc = .ok content) (i : Nat) :
    t.line? loc i = (Reader.lines content)[i]?.map (Line.read (i + 1)) := by
  simp [line?, linesOf_of_load h]

/-- Lines that can be taken are lines of a file that can be opened. -/
theorem exists_read_of_line? {t : Tree} {loc : Location} {i : Nat} {line : Line}
    (h : t.line? loc i = some line) (hline : ∀ reason, line ≠ .unreadable reason) :
    ∃ content bytes, t.load loc = .ok content ∧ (Reader.lines content)[i]? = some bytes ∧
      Line.read (i + 1) bytes = line := by
  cases hload : t.load loc with
  | error e =>
    simp only [line?, linesOf, hload, List.getElem?_singleton] at h
    split at h
    · exact absurd (Option.some.inj h).symm (hline e)
    · cases h
  | ok content =>
    rw [line?_of_load hload] at h
    obtain ⟨bytes, hbytes, hread⟩ := Option.map_eq_some_iff.mp h
    exact ⟨content, bytes, rfl, hbytes, hread⟩

/-- Some line of `file` is a directive that means `target`. -/
def Includes (t : Tree) (root : Path) (file target : Location) : Prop :=
  ∃ i d, t.line? file i = some (.directive d) ∧ Source.resolve t root d.path = .ok target

theorem line?_eq_none_iff {t : Tree} {loc : Location} {i : Nat} :
    t.line? loc i = none ↔ (t.linesOf loc).length ≤ i := by
  simp [line?]

theorem lt_length_of_line? {t : Tree} {loc : Location} {i : Nat} {line : Line}
    (h : t.line? loc i = some line) : i < (t.linesOf loc).length := by
  by_contra hle
  rw [line?_eq_none_iff.mpr (Nat.le_of_not_lt hle)] at h
  cases h

/-- Every line stands before the end. -/
theorem lt_of_line? {t : Tree} {loc : Location} {i n : Nat} {line : Line}
    (h : t.line? loc i = some line) (hend : t.line? loc n = none) : i < n :=
  Nat.lt_of_lt_of_le (lt_length_of_line? h) (line?_eq_none_iff.mp hend)

theorem line_of_line? {t : Tree} {loc : Location} {i : Nat} {d : Directive}
    (h : t.line? loc i = some (.directive d)) : d.line = i + 1 := by
  obtain ⟨_, _, _, _, hr⟩ := exists_read_of_line? h (by simp)
  exact Line.line_of_read hr

/-- Every file has fewer lines than the limit. -/
theorem length_linesOf_lt {t : Tree} {loc : Location} {content : List UInt8}
    (h : t.load loc = .ok content) : (t.linesOf loc).length < Reader.lineLimit content := by
  have hlines := lines_length_le Utf8.lineFeed content
  rw [linesOf_of_load h, List.length_mapIdx]
  unfold Reader.lines Reader.lineLimit
  omega

theorem mem_entries_of_isRegular {t : Tree} {loc : Location} (h : t.isRegular loc = true) :
    loc ∈ t.entries.map (·.1) := by
  rcases isRegular_iff.mp h with ⟨_, hget⟩ | ⟨_, hget⟩ <;>
    rcases stored_of_get? hget with ⟨_, hdir⟩ | hm
  all_goals first
    | cases hdir
    | exact List.mem_map.mpr ⟨_, hm, rfl⟩

/-- Files at different locations are at most as many as there are entries. -/
theorem length_le_of_nodup {t : Tree} {locs : List Location} (hn : locs.Nodup)
    (hf : ∀ loc ∈ locs, t.isRegular loc = true) : locs.length ≤ t.entries.length := by
  have hs : locs ⊆ t.entries.map (·.1) := fun loc hm => mem_entries_of_isRegular (hf loc hm)
  simpa using hn.length_le_of_subset hs

/-- A source that includes one file twice, and one that includes itself. -/
def sample : Tree where
  entries := [(["s"], .directory),
    (["s", "main"], .file (Utf8.bytes "#include <b>\nvoid main\n#include <lib>\n")),
    (["s", "b"], .file (Utf8.bytes "#include \"lib\"\ntwo\n")),
    (["s", "lib"], .file (Utf8.bytes "one \n")),
    (["s", "loop"], .file (Utf8.bytes "x\n#include <b>\n#include <loop> // again\n"))]
  workdir := []

example : sample.line? ["s", "b"] 0 = some (.directive ⟨1, 10, "lib", .quotes⟩) := by decide +kernel

end Tree

end GlslFlatten
