import GlslFlatten.Standin.Pattern.Basic
import GlslFlatten.Standin.Unicode.Property

/-!
Searching a text for a match. A text of `n` characters has `n + 1` places, and a matcher takes a row of
marks, one for each place, to the marks of the places that it reaches from a marked one.
-/

namespace GlslFlatten.Pattern

open Unicode

/-- What stands at the sides of a place. -/
structure Place where
  before : Option Char
  after : Option Char
  deriving DecidableEq, Repr

/-- The places of a text, behind the character that precedes it. -/
def placesBehind (before : Option Char) : List Char → List Place
  | [] => [⟨before, none⟩]
  | c :: cs => ⟨before, some c⟩ :: placesBehind (some c) cs

def places (text : List Char) : List Place := placesBehind none text

def Words.contains (w : Words) (c : Option Char) : Bool :=
  match c with
  | none => false
  | some c =>
    if c.toNat < 128 then c = '_' || c.isAlphanum
    else match w with
      | ascii => false
      | unicode => wordChars.contains c.toNat

def Look.holds (l : Look) (p : Place) : Bool :=
  match l with
  | textStart => p.before = none
  | textEnd => p.after = none
  | lineStart => p.before = none || p.before = some '\n'
  | lineEnd => p.after = none || p.after = some '\n'
  | carriageStart =>
    p.before = none || p.before = some '\n' || p.before = some '\r' && p.after ≠ some '\n'
  | carriageEnd =>
    p.after = none || p.after = some '\r' || p.after = some '\n' && p.before ≠ some '\r'
  | boundary w => w.contains p.before != w.contains p.after
  | noBoundary w => w.contains p.before == w.contains p.after
  | wordStart w => !w.contains p.before && w.contains p.after
  | wordEnd w => w.contains p.before && !w.contains p.after
  | wordStartHalf w => !w.contains p.before
  | wordEndHalf w => !w.contains p.after

abbrev Marks := List Bool

namespace Marks

def union (a b : Marks) : Marks := List.zipWith (· || ·) a b

def without (a b : Marks) : Marks := List.zipWith (fun x y => x && !y) a b

def isBlank (a : Marks) : Bool := a.all (!·)

/-- The marked places whose next character is wanted, moved behind that character. -/
def advance (s : CharSet) (places : List Place) (a : Marks) : Marks :=
  false :: (List.zipWith (fun mark place =>
    mark && place.after.any fun c => s.contains c.toNat) a places).dropLast

/-- The marked places at which a condition holds. -/
def restrict (l : Look) (places : List Place) (a : Marks) : Marks :=
  List.zipWith (fun mark place => mark && l.holds place) a places

/-- Repeats a step. Once a step changes nothing, neither do those behind it. -/
def iterate (step : Marks → Marks) : Nat → Marks → Marks
  | 0, a => a
  | n + 1, a =>
    let next := step a
    if next = a then a else iterate step n next

/-- Adds all places that are reached in at most the given number of steps. -/
def spread (step : Marks → Marks) : Nat → (fresh reached : Marks) → Marks
  | 0, _, reached => reached
  | n + 1, fresh, reached =>
    let new := (step fresh).without reached
    if new.isBlank then reached else spread step n new (reached.union new)

end Marks

namespace Matcher

/-- The places that a matcher reaches from the marked ones. Without a limit, every further repetition
must reach a new place, and there are no more of these than places. -/
def reach (places : List Place) : Matcher → Marks → Marks
  | empty, a => a
  | chars s, a => a.advance s places
  | look l, a => a.restrict l places
  | seq p q, a => q.reach places (p.reach places a)
  | alt p q, a => (p.reach places a).union (q.reach places a)
  | repeated least most p, a =>
    let first := Marks.iterate (p.reach places) least a
    let further := match most with
      | some most => most - least
      | none => places.length
    Marks.spread (p.reach places) further first first
  | capture p, a => p.reach places a

/-- Whether a text holds a match. -/
def occursIn (m : Matcher) (text : String) : Bool :=
  let places := places text.toList
  (m.reach places (places.map fun _ => true)).any id

end Matcher

end GlslFlatten.Pattern
