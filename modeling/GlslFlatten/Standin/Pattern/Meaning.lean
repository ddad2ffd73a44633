import GlslFlatten.Standin.Pattern.Basic
import GlslFlatten.Standin.Pattern.Parser
import GlslFlatten.Standin.Unicode.CaseFolding
import GlslFlatten.Standin.Unicode.Names

/-!
What a written pattern means. Flags hold from where they are set to the end of the group. Texts are
valid UTF-8, so a pattern that could match half a character is refused.
-/

namespace GlslFlatten.Pattern

open Unicode

structure Flags where
  caseInsensitive : Bool := false
  multiLine : Bool := false
  dotMatchesNewLine : Bool := false
  unicode : Bool := true
  carriageReturn : Bool := false
  deriving DecidableEq, Repr

def Flags.change (f : Flags) (c : FlagChange) : Flags where
  caseInsensitive := (c.of? .caseInsensitive).getD f.caseInsensitive
  multiLine := (c.of? .multiLine).getD f.multiLine
  dotMatchesNewLine := (c.of? .dotMatchesNewLine).getD f.dotMatchesNewLine
  unicode := (c.of? .unicode).getD f.unicode
  carriageReturn := (c.of? .carriageReturn).getD f.carriageReturn

/-- Reading a meaning keeps track of the flags. -/
abbrev Understand := EStateM SyntaxError Flags

namespace Flags

/-- The largest member that a class may have: without Unicode, classes consist of bytes. -/
def last (f : Flags) : Nat := if f.unicode then lastCodePoint else 255

def closeCase (f : Flags) (s : CharSet) : CharSet :=
  if !f.caseInsensitive then s
  else if f.unicode then Unicode.closeCase s
  else closeAsciiCase s

/-- A class with the other case added and turned around. A byte beyond ASCII is no character. -/
def finish (f : Flags) (span : Span) (negated : Bool) (s : CharSet) :
    Except SyntaxError CharSet :=
  let s := f.closeCase s
  let s := if negated then s.complement f.last else s
  if f.unicode || s.within 127 then .ok s else .error ⟨.invalidUtf8, span⟩

def letterChars (f : Flags) : Letter → CharSet
  | .digit => if f.unicode then ofCategories ["Nd"] else .ofRanges AsciiClass.digit.ranges
  | .space => if f.unicode then .ofRanges Text.blankRanges else .ofRanges AsciiClass.space.ranges
  | .word => if f.unicode then wordChars else .ofRanges AsciiClass.word.ranges

/-- Letter classes are closed under case already. -/
def escapeClass (f : Flags) : EscapeClass → Except SyntaxError CharSet
  | .letter span letter negated =>
    { f with caseInsensitive := false }.finish span negated (f.letterChars letter)
  | .property span name negated =>
    if !f.unicode then .error ⟨.beyondAscii, span⟩
    else
      let found := match name with
        | .alone name => named name
        | .valued property value => valued property value
      match found with
      | .ok s => f.finish span negated s
      | .error .property => .error ⟨.propertyUnknown, span⟩
      | .error .value => .error ⟨.propertyValueUnknown, span⟩

/-- Without Unicode, two hexadecimal digits stand for a byte, and one beyond ASCII is no character. -/
def literalChar (f : Flags) (l : Literal) : Except SyntaxError Nat :=
  if !f.unicode && l.byte && l.char.toNat > 127 then .error ⟨.invalidUtf8, l.span⟩
  else .ok l.char.toNat

/-- A character in a class. -/
def classChar (f : Flags) (l : Literal) : Except SyntaxError Nat :=
  match f.literalChar l with
  | .error e => .error e
  | .ok c => if f.unicode || c ≤ 127 then .ok c else .error ⟨.beyondAscii, l.span⟩

mutual

def classSet (f : Flags) : ClassSet → Except SyntaxError CharSet
  | .empty _ => .ok .empty
  | .literal l => return .single (← f.classChar l)
  | .range _ low high => return .range (← f.classChar low) (← f.classChar high)
  | .ascii span kind negated => f.finish span negated (.ofRanges kind.ranges)
  | .escape e => f.escapeClass e
  | .bracketed span negated set => do f.finish span negated (← f.classSet set)
  | .union _ items => f.classUnion items
  | .operation _ op left right => do
    let left := f.closeCase (← f.classSet left)
    let right := f.closeCase (← f.classSet right)
    match op with
    | .intersection => return left.intersection right
    | .difference => return left.difference right
    | .symmetricDifference => return left.symmetricDifference right

def classUnion (f : Flags) : List ClassSet → Except SyntaxError CharSet
  | [] => .ok .empty
  | item :: items => return (← f.classSet item).union (← f.classUnion items)

end

/-- Any character, but for line ends unless these count as well. -/
def dotChars (f : Flags) : CharSet :=
  let ends : CharSet := if f.dotMatchesNewLine then .empty
    else if f.carriageReturn then .ofRanges [(10, 10), (13, 13)]
    else .single 10
  ends.complement lastCodePoint

def look (f : Flags) (a : Anchor) : Look :=
  let words := if f.unicode then Words.unicode else .ascii
  match a with
  | .lineStart =>
    if !f.multiLine then .textStart else if f.carriageReturn then .carriageStart else .lineStart
  | .lineEnd =>
    if !f.multiLine then .textEnd else if f.carriageReturn then .carriageEnd else .lineEnd
  | .textStart => .textStart
  | .textEnd => .textEnd
  | .boundary => .boundary words
  | .noBoundary => .noBoundary words
  | .wordStart => .wordStart words
  | .wordEnd => .wordEnd words
  | .wordStartHalf => .wordStartHalf words
  | .wordEndHalf => .wordEndHalf words

end Flags

def understood {α : Type} (result : Except SyntaxError α) : Understand α :=
  match result with
  | .ok a => return a
  | .error e => throw e

mutual

def Node.meaning : Node → Understand Matcher
  | .empty _ => return .empty
  | .setFlags _ change => do
    modify (·.change change)
    return .empty
  | .literal l => do
    let f ← get
    let c ← understood (f.literalChar l)
    return .chars (f.closeCase (.single c))
  | .dot span => do
    let f ← get
    if f.unicode then return .chars f.dotChars else throw ⟨.invalidUtf8, span⟩
  | .anchor _ a => return .look ((← get).look a)
  | .escape e => return .chars (← understood ((← get).escapeClass e))
  | .bracketed span negated set => do
    let f ← get
    let s ← understood (f.classSet set)
    return .chars (← understood (f.finish span negated s))
  | .repetition _ least most node => return .repetition least most (← node.meaning)
  | .group _ kind node => do
    let f ← get
    match kind with
    | .flags change => set (f.change change)
    | .capture => pure ()
    let p ← node.meaning
    set f
    match kind with
    | .flags _ => return p
    | .capture => return .capture p
  | .alternation _ nodes => return .alternatives (← Node.meanings nodes)
  | .concat _ nodes => return .sequence (← Node.meanings nodes)

def Node.meanings : List Node → Understand (List Matcher)
  | [] => return []
  | node :: nodes => return (← node.meaning) :: (← Node.meanings nodes)

end

end GlslFlatten.Pattern
