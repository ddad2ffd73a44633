import GlslFlatten.Standin.Pattern.Position

/-!
The parts of a pattern as they are written, with their places in its text.
-/

namespace GlslFlatten.Pattern

/-- A single character. `byte` tells that it was written as two hexadecimal digits. -/
structure Literal where
  span : Span
  char : Char
  byte : Bool := false
  deriving DecidableEq, Repr

/-- The letters after a backslash that stand for a class. -/
inductive Letter where
  | digit
  | space
  | word
  deriving DecidableEq, Repr

/-- Classes that are written in a bracket as a name between colons. -/
inductive AsciiClass where
  | alnum
  | alpha
  | ascii
  | blank
  | cntrl
  | digit
  | graph
  | lower
  | print
  | punct
  | space
  | upper
  | word
  | xdigit
  deriving DecidableEq, Repr

namespace AsciiClass

def named? : String → Option AsciiClass
  | "alnum" => some alnum
  | "alpha" => some alpha
  | "ascii" => some ascii
  | "blank" => some blank
  | "cntrl" => some cntrl
  | "digit" => some digit
  | "graph" => some graph
  | "lower" => some lower
  | "print" => some print
  | "punct" => some punct
  | "space" => some space
  | "upper" => some upper
  | "word" => some word
  | "xdigit" => some xdigit
  | _ => none

def ranges : AsciiClass → List (Nat × Nat)
  | alnum => [(48, 57), (65, 90), (97, 122)]
  | alpha => [(65, 90), (97, 122)]
  | ascii => [(0, 127)]
  | blank => [(9, 9), (32, 32)]
  | cntrl => [(0, 31), (127, 127)]
  | digit => [(48, 57)]
  | graph => [(33, 126)]
  | lower => [(97, 122)]
  | print => [(32, 126)]
  | punct => [(33, 47), (58, 64), (91, 96), (123, 126)]
  | space => [(9, 13), (32, 32)]
  | upper => [(65, 90)]
  | word => [(48, 57), (65, 90), (95, 95), (97, 122)]
  | xdigit => [(48, 57), (65, 70), (97, 102)]

end AsciiClass

/-- The name of a set of characters, alone or as a property and its value. -/
inductive PropertyName where
  | alone (name : List Char)
  | valued (property value : List Char)
  deriving DecidableEq, Repr

/-- A class that a backslash begins. -/
inductive EscapeClass where
  | letter (span : Span) (letter : Letter) (negated : Bool)
  | property (span : Span) (name : PropertyName) (negated : Bool)
  deriving DecidableEq, Repr

def EscapeClass.span : EscapeClass → Span
  | letter span _ _ => span
  | property span _ _ => span

inductive Anchor where
  | lineStart
  | lineEnd
  | textStart
  | textEnd
  | boundary
  | noBoundary
  | wordStart
  | wordEnd
  | wordStartHalf
  | wordEndHalf
  deriving DecidableEq, Repr

inductive SetOperation where
  | intersection
  | difference
  | symmetricDifference
  deriving DecidableEq, Repr

/-- What stands in brackets. -/
inductive ClassSet where
  | empty (span : Span)
  | literal (l : Literal)
  | range (span : Span) (low high : Literal)
  | ascii (span : Span) (kind : AsciiClass) (negated : Bool)
  | escape (e : EscapeClass)
  | bracketed (span : Span) (negated : Bool) (set : ClassSet)
  | union (span : Span) (items : List ClassSet)
  | operation (span : Span) (op : SetOperation) (left right : ClassSet)
  deriving Repr

def ClassSet.span : ClassSet → Span
  | empty s => s
  | literal l => l.span
  | range s _ _ => s
  | ascii s _ _ => s
  | escape e => e.span
  | bracketed s _ _ => s
  | union s _ => s
  | operation s _ _ _ => s

inductive Flag where
  | caseInsensitive
  | multiLine
  | dotMatchesNewLine
  | swapGreed
  | unicode
  | carriageReturn
  | verbose
  deriving DecidableEq, Repr

/-- Flags that are switched on and flags that are switched off. -/
structure FlagChange where
  on : List Flag := []
  off : List Flag := []
  deriving DecidableEq, Repr

/-- Whether a flag is switched, and how. -/
def FlagChange.of? (c : FlagChange) (f : Flag) : Option Bool :=
  if c.on.contains f then some true else if c.off.contains f then some false else none

/-- A group that captures, or one that changes flags. -/
inductive GroupKind where
  | capture
  | flags (change : FlagChange)
  deriving DecidableEq, Repr

inductive Node where
  | empty (span : Span)
  | setFlags (span : Span) (change : FlagChange)
  | literal (l : Literal)
  | dot (span : Span)
  | anchor (span : Span) (a : Anchor)
  | escape (e : EscapeClass)
  | bracketed (span : Span) (negated : Bool) (set : ClassSet)
  | repetition (span : Span) (least : Nat) (most : Option Nat) (node : Node)
  | group (span : Span) (kind : GroupKind) (node : Node)
  | alternation (span : Span) (nodes : List Node)
  | concat (span : Span) (nodes : List Node)
  deriving Repr

def Node.span : Node → Span
  | empty s => s
  | setFlags s _ => s
  | literal l => l.span
  | dot s => s
  | anchor s _ => s
  | escape e => e.span
  | bracketed s _ _ => s
  | repetition s _ _ _ => s
  | group s _ _ => s
  | alternation s _ => s
  | concat s _ => s

end GlslFlatten.Pattern
