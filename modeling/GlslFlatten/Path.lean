import GlslFlatten.Text.Lines

/-!
Paths as they are written. Two spellings are the same path when they have the same lead and the same
names: repeated and trailing slashes do not count, nor does a `.` that is not the lead.
-/

namespace GlslFlatten

open Text

structure Path where
  text : String
  deriving DecidableEq, Repr, Inhabited

namespace Path

/-- What a path starts from: the top directory, an explicit `.`, or nothing written. -/
inductive Lead where
  | top
  | here
  | bare
  deriving DecidableEq, Repr

/-- A segment that names nothing. -/
def skipped (segment : String) : Bool := segment = "" || segment = "."

def segments (p : Path) : List String := splitAt '/' p.text

def isAbsolute (p : Path) : Bool := p.text.toList.head? = some '/'

def lead (p : Path) : Lead :=
  if p.isAbsolute then .top
  else if p.segments.head? = some "." then .here
  else .bare

/-- The segments behind the lead. -/
def body (p : Path) : List String :=
  match p.lead with
  | .bare => p.segments
  | _ => p.segments.tail

/-- The segments that count, `..` among them. -/
def names (p : Path) : List String := p.body.filter (!skipped ·)

def same (p q : Path) : Bool := p.lead = q.lead && p.names = q.names

def ofSegments (lead : Lead) (segments : List String) : Path :=
  let rest := "/".intercalate segments
  match lead with
  | .top => ⟨"/" ++ rest⟩
  | .here => ⟨if segments.isEmpty then "." else "./" ++ rest⟩
  | .bare => ⟨rest⟩

/-- Nothing is normalised, and an absolute path replaces the one before it. -/
def join (p q : Path) : Path :=
  if q.isAbsolute || p.text = "" then q
  else if p.text.toList.getLast? = some '/' then ⟨p.text ++ q.text⟩
  else ⟨p.text ++ "/" ++ q.text⟩

/-- The segments that follow the given names, which must come first among those that count. -/
def after? : List String → List String → Option (List String)
  | segments, [] => some segments
  | segments, n :: ns =>
    match segments.dropWhile skipped with
    | s :: rest => if s = n then after? rest ns else none
    | [] => none

/-- The rest of `p` behind `base`, as written but for segments that name nothing at its ends. An empty
base leaves the lead of `p` in place. -/
def stripPrefix? (p base : Path) : Option Path :=
  if base.lead = .bare ∧ base.names = [] then
    some (ofSegments p.lead (dropTrailing skipped p.body))
  else if p.lead = base.lead then
    (after? p.body base.names).map fun rest =>
      ofSegments .bare (dropTrailing skipped (rest.dropWhile skipped))
  else none

/-- The path without its last name. The top directory has no parent, and neither has nothing. -/
def parent? (p : Path) : Option Path :=
  match p.names, p.lead with
  | [], .here => some ⟨""⟩
  | [], _ => none
  | _ :: _, _ =>
    some (ofSegments p.lead
      (dropTrailing skipped (dropTrailing skipped p.body).dropLast))

/-- The last name, unless it is `..`. -/
def fileName? (p : Path) : Option String :=
  p.names.getLast?.filter (· ≠ "..")

example : (Path.mk "/s/./lib//./a/").stripPrefix? ⟨"/s"⟩ = some ⟨"lib//./a"⟩ := by decide +kernel

example : (Path.mk "./s//a/.").same ⟨"./s/a"⟩ = true ∧ (Path.mk "./s").same ⟨"s"⟩ = false := by
  decide +kernel

@[simp] theorem skipped_empty : skipped "" = true := rfl

@[simp] theorem skipped_up : skipped ".." = false := rfl

theorem same_refl (p : Path) : p.same p = true := by simp [same]

theorem same_iff {p q : Path} : p.same q = true ↔ p.lead = q.lead ∧ p.names = q.names := by
  simp [same]

end Path

end GlslFlatten
