import GlslFlatten.Standin.Program.Shell.Command
import GlslFlatten.Text.Digit

/-!
Words and operators of a script.
-/

namespace GlslFlatten.Shell

open Text

/-- Words with a meaning of their own where a command begins. -/
def keywords : List String :=
  ["!", "case", "do", "done", "elif", "else", "esac", "fi", "for", "if", "in", "then", "until",
    "while", "\x7b", "\x7d"]

inductive Token where
  | endOfFile
  | newline
  | semicolon
  | background
  | and
  | or
  | pipe
  | opening
  | closing
  | endCase
  | redirection (stream : Option Nat) (operator : Octets)
  | word (parts : Word)
  | keyword (text : String)

/-- How a token is called in remarks. -/
def Token.text : Token → String
  | endOfFile => "end of file"
  | newline => "newline"
  | semicolon => "\";\""
  | background => "\"&\""
  | and => "\"&&\""
  | or => "\"||\""
  | pipe => "\"|\""
  | opening => "\"(\""
  | closing => "\")\""
  | endCase => "\";;\""
  | redirection _ _ => "redirection"
  | word _ => "word"
  | keyword text => "\"" ++ text ++ "\""

/-- A document that follows the line in which it is announced. -/
structure Announced where
  number : Nat
  mark : Octets
  quoted : Bool
  stripTabs : Bool
  deriving DecidableEq, Repr

/-- A script that is being read, with the token that was put back, if any. -/
structure Reader where
  rest : Octets
  line : Nat := 1
  pushed : Option Token := none
  announced : List Announced := []
  documents : List (Nat × Word) := []
  /-- The number that the next document gets. -/
  nextDocument : Nat := 0

abbrev Read := EStateM String Reader

def next? : Read (Option Char) := return (← get).rest.head?

/-- Passes characters and counts the lines that they end. -/
def pass (count : Nat) : Read Unit := modify fun r =>
  { r with
    rest := r.rest.drop count
    line := r.line + ((r.rest.take count).filter (· = '\n')).length }

/-- Adds to a word. Text of the same kind is joined. -/
def addText (quoted : Bool) (octets : Octets) (parts : Word) : Word :=
  match parts.getLast? with
  | some (.text q before) =>
    if q = quoted then parts.dropLast ++ [.text quoted (before ++ octets)]
    else parts ++ [.text quoted octets]
  | _ => parts ++ [.text quoted octets]

/-- Where a word stands, which decides what ends it and what backslashes and quotes mean. -/
inductive Place where
  | bare
  | quotes
  /-- Behind the operator of a parameter. -/
  | brace (inQuotes : Bool)
  | arithmetic
  | document
  deriving DecidableEq, Repr

namespace Place

def quoted : Place → Bool
  | bare => false
  | brace inQuotes => inQuotes
  | _ => true

/-- Characters that a backslash quotes. In a bare word it quotes any. -/
def escapes (p : Place) (c : Char) : Bool :=
  match p with
  | bare | brace false => true
  | document | arithmetic => ['$', '\\', '\x60'].contains c
  | quotes => ['$', '\\', '\x60', '"'].contains c
  | brace true => ['$', '\\', '\x60', '"', '\x7d'].contains c

def unterminated : Place → String
  | brace _ => "Missing '\x7d'"
  | arithmetic => "Missing '))'"
  | _ => "Unterminated quoted string"

end Place

/-- Characters that end a bare word. -/
def endsWord (c : Char) : Bool := [' ', '\t', '\n', ';', '&', '|', '<', '>', '(', ')'].contains c

/-- Passes a quotation up to a single quote. -/
def readSingle : Read Octets := do
  let rest := (← get).rest
  let text := rest.takeWhile (· ≠ '\'')
  if text.length = rest.length then
    pass rest.length
    throw Place.quotes.unterminated
  pass (text.length + 1)
  return text

/-- The script between backquotes, without the backslashes before backslashes, dollar signs and
backquotes. -/
def readBackquoted (inQuotes : Bool) : (fuel : Nat) → Octets → Read Octets
  | 0, script => return script
  | fuel + 1, script => do
    match (← get).rest with
    | [] => throw "EOF in backquote substitution"
    | '\x60' :: _ =>
      pass 1
      return script
    | '\\' :: c :: _ =>
      pass 2
      if c = '\n' then readBackquoted inQuotes fuel script
      else if ['\\', '$', '\x60'].contains c || inQuotes && c = '"' then
        readBackquoted inQuotes fuel (script ++ [c])
      else readBackquoted inQuotes fuel (script ++ ['\\', c])
    | c :: _ =>
      pass 1
      readBackquoted inQuotes fuel (script ++ [c])

/-- What the search for a closing parenthesis is inside of. -/
inductive Enclosure where
  | none
  | single
  | double
  | comment
  deriving DecidableEq, Repr

/-- The script up to the parenthesis that closes it. -/
def readEnclosed : (fuel : Nat) → (depth : Nat) → Enclosure → Octets → Read Octets
  | 0, _, _, script => return script
  | fuel + 1, depth, e, script => do
    let keep (count : Nat) (depth : Nat) (e : Enclosure) : Read Octets := do
      let taken := (← get).rest.take count
      pass count
      readEnclosed fuel depth e (script ++ taken)
    match (← get).rest, e with
    | [], .single | [], .double => throw Place.quotes.unterminated
    | [], _ => throw "end of file unexpected (expecting \")\")"
    | '\\' :: _, .none | '\\' :: _, .double => keep 2 depth e
    | '\'' :: _, .none => keep 1 depth .single
    | '\'' :: _, .single => keep 1 depth .none
    | '"' :: _, .none => keep 1 depth .double
    | '"' :: _, .double => keep 1 depth .none
    | '\n' :: _, .comment => keep 1 depth .none
    | '#' :: _, .none =>
      keep 1 depth (if script.getLast?.all endsWord then .comment else .none)
    | '(' :: _, .none => keep 1 (depth + 1) .none
    | ')' :: _, .none =>
      if depth = 0 then
        pass 1
        return script
      else keep 1 (depth - 1) .none
    | _, _ => keep 1 depth e

mutual

/-- The parts of a word up to its end. Parentheses in arithmetic are counted by `depth`. -/
def readParts (p : Place) : (fuel : Nat) → (depth : Nat) → Word → Read Word
  | 0, _, parts => return parts
  | fuel + 1, depth, parts => do
    let literal (c : Char) (depth : Nat) : Read Word := do
      pass 1
      readParts p fuel depth (addText p.quoted [c] parts)
    match (← get).rest with
    | [] =>
      if p = .bare || p = .document then return parts else throw p.unterminated
    | '\\' :: '\n' :: _ =>
      pass 2
      readParts p fuel depth parts
    | '\\' :: c :: _ =>
      if p.escapes c then
        pass 2
        readParts p fuel depth (addText true [c] parts)
      else literal '\\' depth
    | c :: rest =>
      if p = .bare && endsWord c then return parts
      else if c = '$' then readParts p fuel depth (← readDollar p fuel parts)
      else if c = '\x60' then
        pass 1
        let script ← readBackquoted (p = .quotes) (rest.length + 1) []
        readParts p fuel depth (parts ++ [.output p.quoted script])
      else if c = '\'' && (p = .bare || p = .brace false) then
        pass 1
        readParts p fuel depth (addText true (← readSingle) parts)
      else if c = '"' && p ≠ .document && p ≠ .arithmetic then
        pass 1
        if p = .quotes then return parts
        else
          let inner ← readParts .quotes fuel 0 []
          readParts p fuel depth (if inner.isEmpty then addText true [] parts else parts ++ inner)
      else if c = '\x7d' && (p = .brace true || p = .brace false) then
        pass 1
        return parts
      else if c = '(' && p = .arithmetic then literal c (depth + 1)
      else if c = ')' && p = .arithmetic then
        if depth > 0 then literal c (depth - 1)
        else if rest.head? = some ')' then
          pass 2
          return parts
        else literal c depth
      else literal c depth

/-- What a dollar sign begins. -/
def readDollar (p : Place) : (fuel : Nat) → Word → Read Word
  | 0, parts => return parts
  | fuel + 1, parts => do
    let quoted := p.quoted
    match (← get).rest.drop 1 with
    | '(' :: '(' :: _ =>
      pass 3
      return parts ++ [.arithmetic quoted (← readParts .arithmetic fuel 0 [])]
    | '(' :: rest =>
      pass 2
      return parts ++ [.output quoted (← readEnclosed (rest.length + 1) 0 .none [])]
    | '\x7b' :: rest =>
      pass 2
      readBrace p fuel rest parts
    | c :: rest =>
      if isNameStart c then
        let name := (c :: rest).takeWhile isNamePart
        pass (1 + name.length)
        return parts ++ [.parameter quoted name .plain]
      else if isAsciiDigit c || ['@', '*', '#', '?', '$', '!', '-'].contains c then
        pass 2
        return parts ++ [.parameter quoted [c] .plain]
      else
        pass 1
        return addText quoted ['$'] parts
    | [] =>
      pass 1
      return addText quoted ['$'] parts

/-- A parameter in braces. -/
def readBrace (p : Place) : (fuel : Nat) → Octets → Word → Read Word
  | 0, _, parts => return parts
  | fuel + 1, rest, parts => do
    let quoted := p.quoted
    let special (c : Char) : Bool := ['@', '*', '#', '?', '$', '!', '-'].contains c
    let nameOf (cs : Octets) : Octets :=
      match cs with
      | c :: _ =>
        if isNameStart c then cs.takeWhile isNamePart
        else if isAsciiDigit c then cs.takeWhile isAsciiDigit
        else if special c then [c]
        else []
      | [] => []
    let measured := nameOf (rest.drop 1)
    if rest.head? = some '#' && !measured.isEmpty &&
        (rest.drop (1 + measured.length)).head? = some '\x7d' then
      pass (2 + measured.length)
      return parts ++ [.parameter quoted measured .length]
    else
      let name := nameOf rest
      pass name.length
      let orEmpty := (← next?) = some ':'
      if orEmpty then pass 1
      let word : Read Word := readParts (.brace (p.quoted && p ≠ .arithmetic)) fuel 0 []
      let pattern : Read Word := readParts (.brace false) fuel 0 []
      let finish (use : Use) : Word := parts ++ [.parameter quoted name use]
      match (← get).rest with
      | '\x7d' :: _ =>
        pass 1
        return finish (if name = [] || orEmpty then .bad else .plain)
      | '-' :: _ =>
        pass 1
        return finish (.fallback orEmpty (← word))
      | '=' :: _ =>
        pass 1
        return finish (.assign orEmpty (← word))
      | '?' :: _ =>
        pass 1
        return finish (.complain orEmpty (← word))
      | '+' :: _ =>
        pass 1
        return finish (.instead orEmpty (← word))
      | '%' :: '%' :: _ =>
        pass 2
        return finish (.strip true true (← pattern))
      | '%' :: _ =>
        pass 1
        return finish (.strip true false (← pattern))
      | '#' :: '#' :: _ =>
        pass 2
        return finish (.strip false true (← pattern))
      | '#' :: _ =>
        pass 1
        return finish (.strip false false (← pattern))
      | _ =>
        /- A line that ends here is not counted. -/
        if name ≠ [] then modify fun r => { r with rest := r.rest.drop 1 }
        let _ ← word
        return finish .bad

end

/-- The text of a word in which nothing is quoted or replaced. -/
def plainText? : Word → Option Octets
  | [] => some []
  | [.text false octets] => some octets
  | _ => none

/-- The text of a word that announces the end of a document, and whether any of it is quoted. -/
def markOf (w : Word) : Octets × Bool :=
  (w.flatMap fun
      | .text _ octets => octets
      | _ => [],
    w.any fun
      | .text quoted _ => quoted
      | _ => false)

/-- The lines of a document, and its length in the script with the closing line. -/
def cutDocument (a : Announced) : (fuel : Nat) → Octets → Octets → Nat → Octets × Nat
  | 0, _, body, length => (body, length)
  | fuel + 1, rest, body, length =>
    if rest = [] then (body, length)
    else
      let line := rest.takeWhile (· ≠ '\n')
      let shown := if a.stripTabs then line.dropWhile (· = '\t') else line
      let taken := min (line.length + 1) rest.length
      if shown = a.mark then (body, length + taken)
      else cutDocument a fuel (rest.drop taken)
        (body ++ shown ++ (if line.length < rest.length then ['\n'] else [])) (length + taken)

/-- Reads the documents that the line before has announced. -/
def readDocuments : Read Unit := do
  let announced := (← get).announced
  modify fun r => { r with announced := [] }
  announced.forM fun a => do
    let rest := (← get).rest
    let (body, length) := cutDocument a (rest.length + 1) rest [] 0
    pass length
    let word : Word ←
      if a.quoted then pure [.text true body]
      else
        let after ← get
        set { after with rest := body }
        let word ← readParts .document (body.length + 1) 0 []
        modify fun r => { r with rest := after.rest, line := after.line }
        pure word
    modify fun r => { r with documents := (a.number, word) :: r.documents }

def operators : List (String × Token) :=
  [("&&", .and), ("||", .or), (";;", .endCase), ("&", .background), ("|", .pipe), (";", .semicolon),
    ("(", .opening), (")", .closing), ("\n", .newline)]

def redirectionOperators : List String := ["<<-", "<<", "<&", "<>", "<", ">>", ">&", ">|", ">"]

/-- Passes blanks, comments and joined lines. -/
def passBlanks : (fuel : Nat) → Read Unit
  | 0 => return ()
  | fuel + 1 => do
    match (← get).rest with
    | ' ' :: _ | '\t' :: _ =>
      pass 1
      passBlanks fuel
    | '\\' :: '\n' :: _ =>
      pass 2
      passBlanks fuel
    | '#' :: rest =>
      pass (1 + (rest.takeWhile (· ≠ '\n')).length)
      passBlanks fuel
    | _ => return ()

/-- The next token of the script. A digit right before an angle bracket is the number of a stream. -/
def readToken : Read Token := do
  passBlanks ((← get).rest.length + 1)
  let rest := (← get).rest
  if rest = [] then return .endOfFile
  match operators.find? fun entry => entry.1.toList.isPrefixOf rest with
  | some (text, token) =>
    pass text.length
    return token
  | none =>
    let stream := match rest with
      | c :: d :: _ => if isAsciiDigit c && (d = '<' || d = '>') then some (c.toNat - 48) else none
      | _ => none
    let behind := if stream.isSome then rest.drop 1 else rest
    match redirectionOperators.find? fun text => text.toList.isPrefixOf behind with
    | some text =>
      pass (text.length + if stream.isSome then 1 else 0)
      return .redirection stream text.toList
    | none => return .word (← readParts .bare (rest.length + 1) 0 [])

/-- The next token, perhaps behind line ends, and with or without a look for keywords. -/
def token (newlines special : Bool) : Read Token := do
  let take : Read Token := do
    match (← get).pushed with
    | some t =>
      modify fun r => { r with pushed := none }
      return t
    | none => readToken
  let rec skip : (fuel : Nat) → Token → Read Token
    | fuel + 1, .newline => do
      readDocuments
      skip fuel (← readToken)
    | _, t => return t
  let t ← take
  let t ← if newlines then skip ((← get).rest.length + 1) t else pure t
  match t with
  | .word parts =>
    if special then
      match (plainText? parts).bind fun octets => keywords.find? (·.toList = octets) with
      | some text => return .keyword text
      | none => return t
    else return t
  | t => return t

def putBack (t : Token) : Read Unit := modify fun r => { r with pushed := some t }

end GlslFlatten.Shell
