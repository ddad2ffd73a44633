import GlslFlatten.Standin.Program.Shell.Lexer

/-!
Commands from tokens. A script is read one complete command at a time, so that what precedes a mistake
still runs.
-/

namespace GlslFlatten.Shell

/-- Tokens that end a row of commands. -/
def endsCommands : Token → Bool
  | .endOfFile | .closing | .endCase => true
  | .keyword text => ["do", "done", "elif", "else", "esac", "fi", "then", "\x7d"].contains text
  | _ => false

def unexpected {α : Type} (t : Token) : Read α := throw (t.text ++ " unexpected")

def unexpectedFor {α : Type} (t wanted : Token) : Read α :=
  throw (t.text ++ " unexpected (expecting " ++ wanted.text ++ ")")

def isKeyword (t : Token) (text : String) : Bool :=
  match t with
  | .keyword k => k = text
  | _ => false

def expectKeyword (special : Bool) (text : String) : Read Unit := do
  let t ← token special special
  if !isKeyword t text then unexpectedFor t (.keyword text)

def line : Read Nat := return (← get).line

/-- Names of commands that no function may have. -/
def specialCommands : List String :=
  [".", ":", "break", "continue", "eval", "exec", "exit", "export", "readonly", "return", "set",
    "shift", "times", "trap", "unset"]

/-- The file or the stream behind an operator. -/
def readRedirection (stream : Option Nat) (operator : Octets) : Read Redirection := do
  match ← token false false with
  | .word target =>
    let output := stream.getD 1
    let input := stream.getD 0
    match String.ofList operator with
    | "<" => return .file input .read target
    | "<&" => return .duplicate input target
    | ">&" => return .duplicate output target
    | ">>" => return .file output .append target
    | "<<" | "<<-" =>
      let number := (← get).nextDocument
      let (mark, quoted) := markOf target
      modify fun r => { r with
        nextDocument := number + 1
        announced := r.announced ++ [⟨number, mark, quoted, operator = "<<-".toList⟩] }
      return .document input number
    | _ => return .file output .write target
  | t => unexpected t

/-- A word that sets a variable, as its name and the value. -/
def assignment? (w : Word) : Option (Octets × Word) :=
  match w with
  | .text false octets :: more =>
    let name := octets.takeWhile (· ≠ '=')
    if isName name && name.length < octets.length then
      let value := octets.drop (name.length + 1)
      some (name, if value.isEmpty then more else .text false value :: more)
    else none
  | _ => none

/-- A simple command that is being read. -/
structure Simple where
  assignments : List (Octets × Word) := []
  words : List Word := []
  redirections : List Redirection := []

mutual

/-- Commands up to a token that ends them. On the top level that is the end of a line. -/
def readCommands (top endsAtOnce : Bool) : (fuel : Nat) → Option Command → Read (Option Command)
  | 0, done => return done
  | fuel + 1, done => do
    let t ← token (!top) true
    match t with
    | .newline =>
      readDocuments
      return done
    | .endOfFile =>
      readDocuments
      putBack t
      return done
    | _ =>
      putBack t
      if !top && (endsAtOnce || done.isSome) && endsCommands t then return done
      let c ← readAndOr fuel
      let all := some (match done with
        | some before => .seq before c
        | none => c)
      let t ← token false false
      match t with
      | .endOfFile =>
        readDocuments
        putBack t
        return all
      | .newline =>
        putBack t
        readCommands top endsAtOnce fuel all
      | .background | .semicolon => readCommands top endsAtOnce fuel all
      | _ =>
        if top then unexpected t
        putBack t
        return all

def readAndOr : (fuel : Nat) → Read Command
  | 0 => return .nothing
  | fuel + 1 => do readAndOrBehind fuel (← readPipeline fuel)

def readAndOrBehind : (fuel : Nat) → Command → Read Command
  | 0, c => return c
  | fuel + 1, c => do
    let t ← token false false
    match t with
    | .and => readAndOrBehind fuel (.both c (← readNextPipeline fuel))
    | .or => readAndOrBehind fuel (.either c (← readNextPipeline fuel))
    | _ =>
      putBack t
      return c

/-- A pipeline that may begin on a later line. -/
def readNextPipeline : (fuel : Nat) → Read Command
  | 0 => return .nothing
  | fuel + 1 => do
    putBack (← token true true)
    readPipeline fuel

def readPipeline : (fuel : Nat) → Read Command
  | 0 => return .nothing
  | fuel + 1 => do
    let t ← token false true
    if isKeyword t "!" then
      putBack (← token false true)
      return .negated (← readPipes fuel (← readCommand fuel))
    else
      putBack t
      readPipes fuel (← readCommand fuel)

def readPipes : (fuel : Nat) → Command → Read Command
  | 0, c => return c
  | fuel + 1, c => do
    let t ← token false false
    match t with
    | .pipe =>
      putBack (← token true true)
      readPipes fuel (.pipe c (← readCommand fuel))
    | _ =>
      putBack t
      return c

def readBody : (fuel : Nat) → Read Command
  | 0 => return .nothing
  | fuel + 1 => return (← readCommands false false fuel none).getD .nothing

/-- A command, with the keywords that it begins with. -/
def readCommand : (fuel : Nat) → Read Command
  | 0 => return .nothing
  | fuel + 1 => do
    let t ← token false true
    let start ← line
    match t with
    | .word _ | .redirection _ _ =>
      putBack t
      readSimple start fuel {}
    | .opening =>
      let c ← readBody fuel
      let t ← token false true
      match t with
      | .closing => readRedirections start fuel (.subshell c) []
      | _ => unexpectedFor t .closing
    | .keyword "\x7b" =>
      let c ← readBody fuel
      expectKeyword false "\x7d"
      readRedirections start fuel c []
    | .keyword "if" =>
      let c ← readBranch fuel
      readRedirections start fuel c []
    | .keyword "while" => readLoop start fuel false
    | .keyword "until" => readLoop start fuel true
    | .keyword "for" =>
      match ← token false false with
      | .word parts =>
        match (plainText? parts).filter isName with
        | none => throw "Bad for loop variable"
        | some name =>
          let t ← token true true
          let words ← if isKeyword t "in" then some <$> readForWords fuel []
            else do
              match t with
              | .semicolon => pure ()
              | _ => putBack t
              pure none
          expectKeyword true "do"
          let body ← readBody fuel
          expectKeyword false "done"
          readRedirections start fuel (.each name words body) []
      | _ => throw "Bad for loop variable"
    | .keyword "case" =>
      let t ← token false false
      match t with
      | .word w =>
        let t ← token true true
        if !isKeyword t "in" then unexpectedFor t (.keyword "in")
        let arms ← readArms fuel []
        readRedirections start fuel (.choose w arms) []
      | _ => unexpectedFor t (.word [])
    | _ => unexpected t

def readLoop (start : Nat) : (fuel : Nat) → (untilTrue : Bool) → Read Command
  | 0, _ => return .nothing
  | fuel + 1, untilTrue => do
    let test ← readBody fuel
    expectKeyword false "do"
    let body ← readBody fuel
    expectKeyword false "done"
    readRedirections start fuel (.loop untilTrue test body) []

def readForWords : (fuel : Nat) → List Word → Read (List Word)
  | 0, words => return words
  | fuel + 1, words => do
    let t ← token false false
    match t with
    | .word w => readForWords fuel (words ++ [w])
    | .newline | .semicolon => return words
    | _ => unexpected t

/-- The rest of a branch behind its first keyword. -/
def readBranch : (fuel : Nat) → Read Command
  | 0 => return .nothing
  | fuel + 1 => do
    let test ← readBody fuel
    expectKeyword false "then"
    let yes ← readBody fuel
    let t ← token false true
    if isKeyword t "elif" then return .branch test yes (← readBranch fuel)
    else if isKeyword t "else" then
      let no ← readBody fuel
      expectKeyword false "fi"
      return .branch test yes no
    else if isKeyword t "fi" then return .branch test yes .nothing
    else unexpectedFor t (.keyword "fi")

def readPatterns : (fuel : Nat) → Token → List Word → Read (List Word)
  | 0, _, patterns => return patterns
  | fuel + 1, t, patterns => do
    let pattern : Word := match t with
      | .word w => w
      | .keyword text => [.text false text.toList]
      | _ => []
    let t ← token false false
    match t with
    | .pipe => readPatterns fuel (← token false false) (patterns ++ [pattern])
    | .closing => return patterns ++ [pattern]
    | t => unexpectedFor t .closing

def readArms : (fuel : Nat) → List (List Word × Command) → Read (List (List Word × Command))
  | 0, arms => return arms
  | fuel + 1, arms => do
    let t ← token true true
    if isKeyword t "esac" then return arms
    let t ← match t with
      | .opening => token false false
      | t => pure t
    let patterns ← readPatterns fuel t []
    let body := (← readCommands false true fuel none).getD .nothing
    let arms := arms ++ [(patterns, body)]
    let t ← token true true
    match t with
    | .endCase => readArms fuel arms
    | t => if isKeyword t "esac" then return arms else unexpectedFor t .endCase

/-- The redirections behind a compound command. -/
def readRedirections (start : Nat) : (fuel : Nat) → Command → List Redirection → Read Command
  | 0, c, _ => return c
  | fuel + 1, c, redirections => do
    let t ← token false true
    match t with
    | .redirection stream operator =>
      readRedirections start fuel c (redirections ++ [← readRedirection stream operator])
    | _ =>
      putBack t
      return if redirections.isEmpty then c else .redirected start c redirections

/-- The words of a simple command. One word and a pair of parentheses begin a function. -/
def readSimple (start : Nat) : (fuel : Nat) → Simple → Read Command
  | 0, s => return .simple start s.assignments s.words s.redirections
  | fuel + 1, s => do
    let t ← token false false
    match t with
    | .word w =>
      match (if s.words.isEmpty then assignment? w else none) with
      | some a => readSimple start fuel { s with assignments := s.assignments ++ [a] }
      | none => readSimple start fuel { s with words := s.words ++ [w] }
    | .redirection stream operator =>
      let r ← readRedirection stream operator
      readSimple start fuel { s with redirections := s.redirections ++ [r] }
    | .opening =>
      match s with
      | ⟨[], [name], []⟩ =>
        let t ← token false false
        match t with
        | .closing =>
          match (plainText? name).filter fun n =>
              isName n && !specialCommands.contains (String.ofList n) with
          | none => throw "Bad function name"
          | some name =>
            putBack (← token true true)
            return .define name (← readCommand fuel)
        | _ => unexpectedFor t .closing
      | _ =>
        putBack t
        return .simple start s.assignments s.words s.redirections
    | _ =>
      putBack t
      return .simple start s.assignments s.words s.redirections

end

/-- The next complete command, if the script has not ended. -/
def readComplete : Read (Option (Option Command)) := do
  let fuel := 16 * ((← get).rest.length + 4)
  match ← token false false with
  | .endOfFile => return none
  | t =>
    putBack t
    return some (← readCommands true false fuel none)

end GlslFlatten.Shell
