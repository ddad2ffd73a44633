import GlslFlatten.Standin.Unicode.CharSet

/-!
Patterns by their meaning, which is the pieces of a text that they match.
-/

namespace GlslFlatten.Pattern

open Unicode

/-- Which characters words are made of. -/
inductive Words where
  | ascii
  | unicode
  deriving DecidableEq, Repr

/-- Conditions on a place in a text. -/
inductive Look where
  | textStart
  | textEnd
  | lineStart
  | lineEnd
  /-- Carriage returns end lines as well, alone or before a line feed. -/
  | carriageStart
  | carriageEnd
  | boundary (w : Words)
  | noBoundary (w : Words)
  | wordStart (w : Words)
  | wordEnd (w : Words)
  /-- No word ends here, or goes on. -/
  | wordStartHalf (w : Words)
  | wordEndHalf (w : Words)
  deriving DecidableEq, Repr

inductive Matcher where
  | empty
  | chars (s : CharSet)
  | look (l : Look)
  | seq (first second : Matcher)
  | alt (first second : Matcher)
  | repeated (least : Nat) (most : Option Nat) (p : Matcher)
  /-- A group, whose ends are kept. -/
  | capture (p : Matcher)
  deriving DecidableEq, Repr

namespace Matcher

/-- Parts one after the other, of which empty ones do not count. -/
def sequence : List Matcher → Matcher
  | [] => empty
  | p :: rest =>
    match p, sequence rest with
    | empty, q => q
    | p, empty => p
    | p, q => seq p q

def chars? : Matcher → Option CharSet
  | chars s => some s
  | _ => none

/-- Alternatives. Where all are single characters, they make up one set. -/
def alternatives (ps : List Matcher) : Matcher :=
  match ps.mapM chars? with
  | some sets => chars (sets.foldl .union .empty)
  | none =>
    match ps.getLast? with
    | some last => ps.dropLast.foldr alt last
    | none => chars .empty

/-- Whether a pattern cannot consume a character. -/
def isEmptyWidth : Matcher → Bool
  | empty | look _ => true
  | chars _ => false
  | seq p q | alt p q => p.isEmptyWidth && q.isEmptyWidth
  | repeated _ most p => most = some 0 || p.isEmptyWidth
  | capture p => p.isEmptyWidth

/-- The least number of characters in a match. -/
def leastWidth : Matcher → Nat
  | empty | look _ => 0
  | chars _ => 1
  | seq p q => p.leastWidth + q.leastWidth
  | alt p q => min p.leastWidth q.leastWidth
  | repeated least _ p => least * p.leastWidth
  | capture p => p.leastWidth

/-- Repeating what consumes nothing more than once changes nothing. -/
def repetition (least : Nat) (most : Option Nat) (p : Matcher) : Matcher :=
  let (least, most) :=
    if p.isEmptyWidth then (min least 1, some (min (most.getD 1) 1)) else (least, most)
  if least = 0 ∧ most = some 0 then empty
  else if least = 1 ∧ most = some 1 then p
  else repeated least most p

end Matcher

end GlslFlatten.Pattern
