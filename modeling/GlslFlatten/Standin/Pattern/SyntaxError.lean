import GlslFlatten.Standin.Pattern.Position
import GlslFlatten.Text.Lines

/-!
What can be wrong with the text of a pattern, and how it is shown: the text with the place marked
below it, and a remark.
-/

namespace GlslFlatten.Pattern

open Text

inductive Fault where
  | classEscape
  | classRangeOrder
  | classRangeLiteral
  | classUnclosed
  | decimalEmpty
  | decimalInvalid
  | hexEmpty
  | hexInvalid
  | hexDigit
  | escapeAtEnd
  | escapeUnknown
  | flagDangling
  | flagDuplicate (first : Span)
  | flagNegatedTwice (first : Span)
  | flagAtEnd
  | flagUnknown
  | groupNameDuplicate (first : Span)
  | groupNameEmpty
  | groupNameInvalid
  | groupNameUnclosed
  | groupUnclosed
  | groupUnopened
  | nestedTooDeep (limit : Nat)
  | countOrder
  | countEmpty
  | countUnclosed
  | repetitionOfNothing
  | boundaryUnclosed
  | boundaryUnknown
  | boundaryAtEnd
  | propertyInvalid
  | backreference
  | lookAround
  | beyondAscii
  | invalidUtf8
  | propertyUnknown
  | propertyValueUnknown
  deriving DecidableEq, Repr

namespace Fault

def text : Fault → String
  | classEscape => "invalid escape sequence found in character class"
  | classRangeOrder => "invalid character class range, the start must be <= the end"
  | classRangeLiteral => "invalid range boundary, must be a literal"
  | classUnclosed => "unclosed character class"
  | decimalEmpty => "decimal literal empty"
  | decimalInvalid => "decimal literal invalid"
  | hexEmpty => "hexadecimal literal empty"
  | hexInvalid => "hexadecimal literal is not a Unicode scalar value"
  | hexDigit => "invalid hexadecimal digit"
  | escapeAtEnd => "incomplete escape sequence, reached end of pattern prematurely"
  | escapeUnknown => "unrecognized escape sequence"
  | flagDangling => "dangling flag negation operator"
  | flagDuplicate _ => "duplicate flag"
  | flagNegatedTwice _ => "flag negation operator repeated"
  | flagAtEnd => "expected flag but got end of regex"
  | flagUnknown => "unrecognized flag"
  | groupNameDuplicate _ => "duplicate capture group name"
  | groupNameEmpty => "empty capture group name"
  | groupNameInvalid => "invalid capture group character"
  | groupNameUnclosed => "unclosed capture group name"
  | groupUnclosed => "unclosed group"
  | groupUnopened => "unopened group"
  | nestedTooDeep limit =>
    "exceed the maximum number of nested parentheses/brackets (" ++ toString limit ++ ")"
  | countOrder => "invalid repetition count range, the start must be <= the end"
  | countEmpty => "repetition quantifier expects a valid decimal"
  | countUnclosed => "unclosed counted repetition"
  | repetitionOfNothing => "repetition operator missing expression"
  | boundaryUnclosed =>
    "special word boundary assertion is either unclosed or contains an invalid character"
  | boundaryUnknown =>
    "unrecognized special word boundary assertion, valid choices are: start, end, start-half or end-half"
  | boundaryAtEnd =>
    "found either the beginning of a special word boundary or a bounded repetition on a \\b with an opening brace, but no closing brace"
  | propertyInvalid => "invalid Unicode character class"
  | backreference => "backreferences are not supported"
  | lookAround => "look-around, including look-ahead and look-behind, is not supported"
  | beyondAscii => "Unicode not allowed here"
  | invalidUtf8 => "pattern can match invalid UTF-8"
  | propertyUnknown => "Unicode property not found"
  | propertyValueUnknown => "Unicode property value not found"

/-- The place that a repeated name or flag repeats. -/
def first? : Fault → Option Span
  | flagDuplicate s | flagNegatedTwice s | groupNameDuplicate s => some s
  | _ => none

end Fault

structure SyntaxError where
  fault : Fault
  span : Span
  deriving DecidableEq, Repr

namespace SyntaxError

/-- Both places of a repetition in their order. -/
def spans (e : SyntaxError) : List Span :=
  match e.fault.first? with
  | none => [e.span]
  | some first => if first.precedes e.span then [first, e.span] else [e.span, first]

def padding (n : Nat) : String := .ofList (List.replicate n ' ')

/-- Marks below the columns of spans on one line. Every span has at least one mark. -/
def marks (spans : List Span) : String :=
  let step (acc : String × Nat) (s : Span) : String × Nat :=
    let gap := s.start.column - 1 - acc.2
    let length := max 1 (s.stop.column - s.start.column)
    (acc.1 ++ padding gap ++ .ofList (List.replicate length '^'), acc.2 + gap + length)
  (spans.foldl step ("", 0)).1

/-- The lines of a pattern. A line feed may have a carriage return before it. -/
def patternLines (pattern : String) : List String :=
  let ended := (pattern.toList.filter (· = '\n')).length
  (lines '\n' pattern.toList).zipIdx.map fun (line, i) =>
    .ofList (if i < ended && line.getLast? = some '\r' then line.dropLast else line)

/-- The lines of a pattern, with their numbers if there are several, and with marks. -/
def annotated (pattern : String) (spans : List Span) : String :=
  let shown := patternLines pattern
  let count := shown.length + if pattern.toList.getLast? = some '\n' then 1 else 0
  let width := (toString count).length
  let label (n : Nat) : String :=
    if count ≤ 1 then padding 4 else padding (width - (toString n).length) ++ toString n ++ ": "
  let margin := if count ≤ 1 then padding 4 else padding (width + 2)
  String.join (shown.zipIdx.map fun (line, i) =>
    let here := spans.filter fun s => s.isOneLine && s.start.line = i + 1
    label (i + 1) ++ line ++ "\n" ++ if here = [] then "" else margin ++ marks here ++ "\n")

/-- A span over several lines in words. -/
def extent (s : Span) : String :=
  "on line " ++ toString s.start.line ++ " (column " ++ toString s.start.column ++
    ") through line " ++ toString s.stop.line ++ " (column " ++ toString (s.stop.column - 1) ++ ")"

def message (pattern : String) (e : SyntaxError) : String :=
  let heading := "regex parse error:\n"
  let body := annotated pattern e.spans
  let remark := "error: " ++ e.fault.text
  if pattern.toList.contains '\n' then
    let divider := String.ofList (List.replicate 79 '~') ++ "\n"
    let long := e.spans.filter (!·.isOneLine)
    let notes := if long = [] then "" else "\n".intercalate (long.map extent) ++ "\n"
    heading ++ divider ++ body ++ divider ++ notes ++ remark
  else heading ++ body ++ remark

end SyntaxError

end GlslFlatten.Pattern
