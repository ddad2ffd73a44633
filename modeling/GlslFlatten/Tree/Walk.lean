import GlslFlatten.Tree.Basic

/-!
Finding the entry that a path names. Links are followed wherever they stand, and what a path finds is
therefore never a link.
-/

namespace GlslFlatten.Tree

open Text

/-- An entry, or a name that its directory does not hold. -/
inductive Found where
  | entry (loc : Location)
  | vacant (dir : Location) (name : String)
  deriving DecidableEq, Repr

/-- What a path is followed for: what is there, a file that may be new, or the place without links. -/
inductive Aim where
  | opening
  | creating
  | resolving
  deriving DecidableEq, Repr

def nameLimit : Nat := 255

def pathLimit : Nat := 4095

/-- More links than this on one walk are refused. -/
def linkLimit : Nat := 40

def tooLong (name : String) : Bool := name.utf8ByteSize > nameLimit

/-- The segments behind a name ask whether it is a directory: they end, or go back up, before they name
anything. -/
def asksDirectory (rest : List String) : Bool :=
  rest ≠ [] && (rest.find? (!Path.skipped ·)).all (· = "..")

/-- Resolving looks at every place on the way by its whole path, which may be too long for that. The
question whether a place is a directory takes one more slash. -/
def inReach (t : Tree) (aim : Aim) (loc : Location) (rest : List String) : Bool :=
  let asked := match t.get? loc with
    | none | some (.link _) => false
    | some _ => asksDirectory rest
  aim ≠ .resolving || loc.path.text.utf8ByteSize + (if asked then 1 else 0) ≤ pathLimit

/-- Walks until the first link, which `follow` takes over with the segments behind it. A path that is
to be created may not end in a slash. -/
def walkVia (t : Tree) (aim : Aim)
    (follow : Location → String → List String → Except IoError Found) :
    Location → List String → Except IoError Found
  | loc, [] => .ok (.entry loc)
  | loc, s :: rest =>
    if !t.isDirectory loc then .error .notDirectory
    else if Path.skipped s then walkVia t aim follow loc rest
    else if s = ".." then walkVia t aim follow loc.dropLast rest
    else if aim = .creating && rest ≠ [] && rest.all (· = "") then .error .isDirectory
    else if tooLong s || !t.inReach aim (loc ++ [s]) rest then .error .nameTooLong
    else match t.get? (loc ++ [s]) with
      | none => if rest = [] then .ok (.vacant loc s) else .error .missing
      | some (.link target) => follow loc target rest
      | some _ => walkVia t aim follow (loc ++ [s]) rest

/-- Where a path starts when it is read in the directory `dir`. -/
def startOf (dir : Location) (p : Path) : Location := if p.isAbsolute then [] else dir

/-- Walks along segments, following at most as many links as the first argument says. -/
def walk (t : Tree) (aim : Aim) : Nat → Location → List String → Except IoError Found
  | 0 => walkVia t aim fun _ _ _ => .error .tooManyLinks
  | n + 1 => walkVia t aim fun dir target rest =>
    walk t aim n (startOf dir ⟨target⟩) ((Path.mk target).segments ++ rest)

/-- A text that cannot name anything is refused before the walk. -/
def checkName (p : Path) : Except IoError Unit :=
  if p.text.toList.contains '\x00' then .error .nulInPath
  else if p.text = "" then .error .missing
  else .ok ()

/-- The system takes a path only up to a certain length. -/
def checkText (p : Path) : Except IoError Unit := do
  checkName p
  if p.text.utf8ByteSize > pathLimit then .error .nameTooLong else .ok ()

def find (t : Tree) (aim : Aim) (p : Path) : Except IoError Found := do
  checkText p
  t.walk aim linkLimit (startOf t.workdir p) p.segments

/-- The location of the entry that is found. -/
def Found.location : Found → Except IoError Location
  | .entry loc => .ok loc
  | .vacant _ _ => .error .missing

/-- The location of the entry that a path names. -/
def locate (t : Tree) (p : Path) : Except IoError Location := do
  (← t.find .opening p).location

/-- The location of the entry that a path names, by way of every place that leads there. The path is
taken apart before the system sees it, so its own length does not count. -/
def realPath (t : Tree) (p : Path) : Except IoError Location := do
  checkName p
  (← t.walk .resolving linkLimit (startOf t.workdir p) p.segments).location

section

variable {t : Tree} {aim : Aim} {p : Path}

theorem checkName_of_checkText (h : checkText p = .ok ()) : checkName p = .ok () := by
  unfold checkText at h
  cases hname : checkName p with
  | ok u => rfl
  | error e =>
    rw [hname] at h
    cases h

theorem Found.location_eq_ok {found : Found} {loc : Location} :
    found.location = .ok loc ↔ found = .entry loc := by
  cases found <;> simp [Found.location]

theorem find_eq_ok {found : Found} : t.find aim p = .ok found ↔
    checkText p = .ok () ∧
      t.walk aim linkLimit (startOf t.workdir p) p.segments = .ok found := by
  unfold find
  cases checkText p <;> simp [bind, Except.bind]

theorem locate_eq_ok {loc : Location} :
    t.locate p = .ok loc ↔ t.find .opening p = .ok (.entry loc) := by
  unfold locate
  cases t.find .opening p <;> simp [bind, Except.bind, Found.location_eq_ok]

theorem realPath_eq_ok {loc : Location} : t.realPath p = .ok loc ↔
    checkName p = .ok () ∧
      t.walk .resolving linkLimit (startOf t.workdir p) p.segments = .ok (.entry loc) := by
  unfold realPath
  cases checkName p with
  | error e => simp [bind, Except.bind]
  | ok u =>
    cases t.walk .resolving linkLimit (startOf t.workdir p) p.segments <;>
      simp [bind, Except.bind, Found.location_eq_ok]

end

def isFile (t : Tree) (p : Path) : Bool :=
  match t.locate p with
  | .ok loc => t.isRegular loc
  | .error _ => false

def isDir (t : Tree) (p : Path) : Bool :=
  match t.locate p with
  | .ok loc => t.isDirectory loc
  | .error _ => false

theorem isFile_iff {t : Tree} {p : Path} :
    t.isFile p = true ↔ ∃ loc, t.locate p = .ok loc ∧ t.isRegular loc = true := by
  unfold isFile
  cases t.locate p <;> simp

/-- The names in the directory that a path names, with their entries. -/
def list (t : Tree) (p : Path) : Except IoError (List (FileName × Entry)) := do
  let loc ← t.locate p
  if t.isDirectory loc then .ok (t.children loc) else .error .notDirectory

end GlslFlatten.Tree
