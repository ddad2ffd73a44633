import GlslFlatten.Log
import GlslFlatten.Standin.Pattern.Compile

/-!
A writer of the log under a filter. A filter is written as directives with commas between them, each a level, a topic, or a
topic with a level, and perhaps a slash and a pattern that must occur in the text of a record.
-/

namespace GlslFlatten.Log

namespace Level

/-- The most urgent level comes first. -/
def rank : Level → Nat
  | error => 1
  | warn => 2
  | info => 3
  | debug => 4
  | trace => 5

/-- Five columns wide. -/
def label : Level → String
  | error => "ERROR"
  | warn => "WARN "
  | info => "INFO "
  | debug => "DEBUG"
  | trace => "TRACE"

end Level

/-- A record as it is written. Further lines of its text are indented by four columns. -/
def Record.line (r : Record) : String :=
  let text := r.text.toList.flatMap fun c => if c = '\n' then "\n    ".toList else [c]
  "[" ++ r.level.label ++ " " ++ r.topic.name ++ "] " ++ .ofList text ++ "\n"

end GlslFlatten.Log

namespace GlslFlatten.CommandLine

open Text Log

/-- Records of the topics that start with `topic` pass up to the given rank. -/
structure LogDirective where
  topic : Option String
  rank : Nat
  deriving DecidableEq, Repr

structure LogFilter where
  directives : List LogDirective := []
  pattern : Option Pattern.Matcher := none
  warnings : List String := []
  deriving DecidableEq, Repr

namespace LogFilter

def lowerAscii (s : String) : String := .ofList (s.toList.map Char.toLower)

/-- The rank that a level's name lets through, in letters of either case. -/
def rank? (s : String) : Option Nat :=
  match lowerAscii s with
  | "off" => some 0
  | "error" => some Level.error.rank
  | "warn" => some Level.warn.rank
  | "info" => some Level.info.rank
  | "debug" => some Level.debug.rank
  | "trace" => some Level.trace.rank
  | _ => none

def everything : Nat := Level.trace.rank

/-- A later directive takes the place of an earlier one for the same topic. -/
def insert (f : LogFilter) (d : LogDirective) : LogFilter :=
  if f.directives.any (·.topic = d.topic) then
    { f with directives := f.directives.map fun e => if e.topic = d.topic then d else e }
  else { f with directives := f.directives ++ [d] }

def warn (f : LogFilter) (spec remark : String) : LogFilter :=
  { f with warnings := f.warnings ++
      ["warning: invalid logging spec '" ++ spec ++ "', ignoring it" ++ remark] }

def readDirective (f : LogFilter) (s : String) : LogFilter :=
  match splitAt '=' s with
  | [""] => f
  | [one] =>
    match rank? one with
    | some rank => f.insert ⟨none, rank⟩
    | none => f.insert ⟨some one, everything⟩
  | [topic, level] =>
    let level := trim level
    if level = "" then f.insert ⟨some topic, everything⟩
    else match rank? level with
      | some rank => f.insert ⟨some topic, rank⟩
      | none => f.warn level ""
  | _ => f.warn s ""

/-- Without a directive only errors pass. -/
def parse (spec : String) : LogFilter :=
  let read (directives : String) : LogFilter :=
    let f := ((splitAt ',' directives).map trim).foldl readDirective {}
    if f.directives = [] then f.insert ⟨none, Level.error.rank⟩ else f
  match splitAt '/' spec with
  | [directives] => read directives
  | [directives, pattern] =>
    let f := read directives
    match Pattern.compile pattern with
    | .ok m => { f with pattern := some m }
    | .error r =>
      { f with warnings := f.warnings ++ ["warning: invalid regex filter - " ++ r.message pattern] }
  | _ => (read "").warn spec " (too many '/'s)"

/-- The directive for the longest matching topic decides, and of two for the same the later. -/
def rankFor (f : LogFilter) (topic : String) : Nat :=
  let matching := f.directives.filter fun d => (d.topic.getD "").toList.isPrefixOf topic.toList
  let longest := matching.foldl (fun best d =>
    if (d.topic.getD "").utf8ByteSize ≥ best.1 then ((d.topic.getD "").utf8ByteSize, d.rank)
    else best) (0, 0)
  longest.2

def passes (f : LogFilter) (r : Record) : Bool :=
  r.level.rank ≤ f.rankFor r.topic.name &&
    f.pattern.all (·.occursIn r.text)

/-- An entry as it is written, or nothing for a record that does not pass. -/
def render (f : LogFilter) : Log.Entry → String
  | .record r => if f.passes r then r.line else ""
  | .foreign text => text

end LogFilter

/-- A log as it is written, behind the warnings about the filter. -/
def renderLog (filter : String) (setting : Option String) (log : List Log.Entry) : String :=
  let f := LogFilter.parse (setting.getD filter)
  String.join (f.warnings.map (· ++ "\n")) ++ String.join (log.map f.render)

end GlslFlatten.CommandLine
