import GlslFlatten.IoError
import GlslFlatten.Path
import GlslFlatten.Text.Utf8

/-!
A finite tree of regular files, directories, symbolic links and devices. An entry is stored under its
location, the names that lead to it from the top without any link.

What a path can reach is text: every path, every link's target and every name on the way. A file name
that is not UTF-8 is therefore never reached, but its directory lists it, so such entries are kept
apart. Left out are further names of one file (hard links), directories that cannot be entered or
written, files that can be read but not written or the other way round, and errors of the medium. The
system refuses a file as a whole, when it is opened.
-/

namespace GlslFlatten

abbrev Location := List String

def Location.path (loc : Location) : Path := ⟨"/" ++ "/".intercalate loc⟩

inductive Entry where
  | file (content : List UInt8)
  /-- A regular file that the system refuses to open. -/
  | sealed (refusal : IoError)
  | directory
  | link (target : String)
  /-- A device that holds nothing. It takes every byte, or refuses all of them. -/
  | device (refusal : Option IoError)
  deriving DecidableEq, Repr

def Entry.isRegular : Entry → Bool
  | .file _ | .sealed _ => true
  | _ => false

/-- A name that is not UTF-8. Like every name it holds no slash. -/
structure ForeignName where
  bytes : List UInt8
  foreign : Text.Utf8.decode? bytes = none
  single : 0x2f ∉ bytes
  deriving DecidableEq, Repr

/-- A name in a directory. -/
inductive FileName where
  | text (s : String)
  | foreign (n : ForeignName)
  deriving DecidableEq, Repr

/-- The name as text, with a replacement character for each malformed sequence. -/
def FileName.shown : FileName → String
  | .text s => s
  | .foreign n => .ofList (Text.Utf8.decodeLossy n.bytes)

/-- Relative paths start at `workdir`. Foreign entries are stored under their directory and their name. -/
structure Tree where
  entries : List (Location × Entry)
  workdir : Location
  foreign : List ((Location × ForeignName) × Entry) := []
  deriving DecidableEq, Repr

namespace Tree

/-- The top directory is always there. -/
def get? (t : Tree) (loc : Location) : Option Entry :=
  if loc = [] then some .directory else t.entries.lookup loc

def isDirectory (t : Tree) (loc : Location) : Bool := t.get? loc = some .directory

def isRegular (t : Tree) (loc : Location) : Bool := (t.get? loc).any Entry.isRegular

def content? (t : Tree) (loc : Location) : Option (List UInt8) :=
  match t.get? loc with
  | some (.file content) => some content
  | _ => none

/-- Opens the regular file at a location, for all that it holds. -/
def load (t : Tree) (loc : Location) : Except IoError (List UInt8) :=
  match t.get? loc with
  | some (.file content) => .ok content
  | some (.sealed refusal) => .error refusal
  | some .directory => .error .isDirectory
  | _ => .error .missing

/-- Replaces the entry at a location or adds it. -/
def put (t : Tree) (loc : Location) (e : Entry) : Tree :=
  { t with entries := (loc, e) :: t.entries.filter (·.1 != loc) }

/-- The name of an entry, if it is in the directory. -/
def textChild? (dir : Location) (x : Location × Entry) : Option (FileName × Entry) :=
  x.1.getLast?.bind fun name => if x.1.dropLast = dir then some (.text name, x.2) else none

def foreignChild? (dir : Location) (x : (Location × ForeignName) × Entry) :
    Option (FileName × Entry) :=
  if x.1.1 = dir then some (.foreign x.1.2, x.2) else none

/-- The names in a directory with their entries. -/
def children (t : Tree) (dir : Location) : List (FileName × Entry) :=
  t.entries.filterMap (textChild? dir) ++ t.foreign.filterMap (foreignChild? dir)

/-- An entry is stored, unless it is the top. -/
theorem stored_of_get? {t : Tree} {loc : Location} {e : Entry} (h : t.get? loc = some e) :
    loc = [] ∧ e = .directory ∨ (loc, e) ∈ t.entries := by
  unfold get? at h
  split at h
  · rename_i htop
    exact .inl ⟨htop, (Option.some.inj h).symm⟩
  · obtain ⟨before, after, hsplit, _⟩ := List.lookup_eq_some_iff.mp h
    exact .inr (by simp [hsplit])

theorem get?_of_content? {t : Tree} {loc : Location} {content : List UInt8}
    (h : t.content? loc = some content) : t.get? loc = some (.file content) := by
  unfold content? at h
  split at h
  · rename_i bytes hget
    rw [hget, Option.some.inj h]
  · cases h

theorem load_eq_ok {t : Tree} {loc : Location} {content : List UInt8} :
    t.load loc = .ok content ↔ t.content? loc = some content := by
  unfold load content?
  split <;> simp_all

/-- A regular file is one that can be opened, or one that the system refuses to open. -/
theorem isRegular_iff {t : Tree} {loc : Location} : t.isRegular loc = true ↔
    (∃ content, t.get? loc = some (.file content)) ∨ ∃ e, t.get? loc = some (.sealed e) := by
  unfold isRegular
  cases h : t.get? loc with
  | none => simp
  | some e => cases e <;> simp [Entry.isRegular]

theorem not_isDirectory_of_isRegular {t : Tree} {loc : Location} (h : t.isRegular loc = true) :
    ¬ t.isDirectory loc = true := by
  rcases isRegular_iff.mp h with ⟨content, hget⟩ | ⟨e, hget⟩ <;> simp [isDirectory, hget]

theorem get?_put_self (t : Tree) {loc : Location} (h : loc ≠ []) (e : Entry) :
    (t.put loc e).get? loc = some e := by
  simp [get?, put, h]

theorem lookup_filter_ne {entries : List (Location × Entry)} {loc other : Location}
    (h : other ≠ loc) :
    (entries.filter (·.1 != loc)).lookup other = entries.lookup other := by
  induction entries with
  | nil => rfl
  | cons x xs ih =>
    obtain ⟨l, e⟩ := x
    by_cases hl : l = loc
    · subst hl
      simp [List.lookup_cons, beq_false_of_ne h, ih]
    · simp [hl, List.lookup_cons, ih]

theorem get?_put_of_ne (t : Tree) {loc other : Location} (h : other ≠ loc) (e : Entry) :
    (t.put loc e).get? other = t.get? other := by
  simp [get?, put, List.lookup_cons, beq_false_of_ne h, lookup_filter_ne h]

end Tree

end GlslFlatten
