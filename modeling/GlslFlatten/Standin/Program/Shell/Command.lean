/-!
Commands of a script. Scripts are sequences of bytes, and a byte is kept as the character with its
number.
-/

namespace GlslFlatten.Shell

/-- Bytes as characters below 256. -/
abbrev Octets := List Char

mutual

/-- A part of a word. What is quoted is neither split nor taken as a pattern. -/
inductive Part where
  | text (quoted : Bool) (octets : Octets)
  | parameter (quoted : Bool) (name : Octets) (use : Use)
  /-- The output of a script. -/
  | output (quoted : Bool) (script : Octets)
  | arithmetic (quoted : Bool) (expression : List Part)

/-- What is made of a parameter. Some uses take an empty value for a missing one. -/
inductive Use where
  | plain
  | length
  | fallback (orEmpty : Bool) (word : List Part)
  | assign (orEmpty : Bool) (word : List Part)
  | complain (orEmpty : Bool) (word : List Part)
  | instead (orEmpty : Bool) (word : List Part)
  | strip (suffix longest : Bool) (pattern : List Part)
  | bad

end

abbrev Word := List Part

inductive FileMode where
  | read
  | write
  | append
  deriving DecidableEq, Repr

/-- A change of where a numbered stream leads. -/
inductive Redirection where
  | file (stream : Nat) (mode : FileMode) (target : Word)
  | duplicate (stream : Nat) (source : Word)
  /-- The document with the given number. -/
  | document (stream : Nat) (number : Nat)

inductive Command where
  | nothing
  | simple (line : Nat) (assignments : List (Octets × Word)) (words : List Word)
    (redirections : List Redirection)
  | pipe (first second : Command)
  | negated (c : Command)
  | both (first second : Command)
  | either (first second : Command)
  | seq (first second : Command)
  | branch (test yes no : Command)
  | loop (untilTrue : Bool) (test body : Command)
  /-- Without words, over the arguments. -/
  | each (name : Octets) (words : Option (List Word)) (body : Command)
  | choose (word : Word) (arms : List (List Word × Command))
  | subshell (c : Command)
  | redirected (line : Nat) (c : Command) (redirections : List Redirection)
  | define (name : Octets) (body : Command)

def isNameStart (c : Char) : Bool := c = '_' || c.isAlpha

def isNamePart (c : Char) : Bool := c = '_' || c.isAlphanum

def isName (text : Octets) : Bool := text.head?.any isNameStart && text.all isNamePart

end GlslFlatten.Shell
