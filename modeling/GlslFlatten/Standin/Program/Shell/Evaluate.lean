import GlslFlatten.Standin.Program.Shell.Kill
import GlslFlatten.Standin.Program.Shell.Test

/-!
Running of scripts. Steps are counted down, so that every script ends.
-/

namespace GlslFlatten.Shell

open Text

/-- Cuts a line at separators into as many pieces as there are names. The last piece keeps the rest. -/
def cutFields (ifs : Octets) : (names : List Octets) → Octets → List (Octets × Octets)
  | [], _ => []
  | [name], line =>
    [(name, dropTrailing (fun c => ifs.contains c && isSpace c) (line.dropWhile fun c =>
      ifs.contains c && isSpace c))]
  | name :: names, line =>
    let line := line.dropWhile fun c => ifs.contains c && isSpace c
    let field := line.takeWhile (!ifs.contains ·)
    let rest := (line.drop field.length).dropWhile fun c => ifs.contains c && isSpace c
    let rest := match rest with
      | c :: cs => if ifs.contains c then cs else rest
      | [] => []
    (name, field) :: cutFields ifs names rest
where
  isSpace (c : Char) : Bool := [' ', '\t', '\n'].contains c

/-- The next line of the input, and whether it ended. Backslashes join lines unless they are kept. -/
def takeLine (raw : Bool) : (fuel : Nat) → Octets → Octets → Octets × Bool × Octets
  | 0, line, rest => (line, false, rest)
  | _, line, [] => (line, false, [])
  | fuel + 1, line, '\\' :: c :: rest =>
    if raw then takeLine raw fuel (line ++ ['\\']) (c :: rest)
    else if c = '\n' then takeLine raw fuel line rest
    else takeLine raw fuel (line ++ [c]) rest
  | fuel + 1, line, c :: rest =>
    if c = '\n' then (line, true, rest) else takeLine raw fuel (line ++ [c]) rest

/-- The value of an expression and the variables behind it, or a remark. -/
def evaluate (text : Octets) (bindings : Variables) : Except Octets (Int × Variables) :=
  let remark (e : String) : Octets :=
    ("arithmetic expression: " ++ e ++ ": \"").toList ++ text ++ ['"']
  match parseExpression text with
  | .error e => .error (remark e)
  | .ok e =>
    match e.value.run bindings with
    | .ok result => .ok result
    | .error e => .error (if e = "division by zero" then remark e else e.toList)

/-- The location of a file that is to be written, which is emptied unless it is added to. -/
def openFile (t : Tree) (path : Path) (append : Bool) : Except IoError (Location × Tree) :=
  match append, t.locate path with
  | true, .ok loc => if t.isDirectory loc then .error .isDirectory else .ok (loc, t)
  | _, _ => t.create path

/-- Commands that are known without a file. -/
def builtins : List String :=
  [".", ":", "[", "break", "command", "continue", "echo", "eval", "exec", "exit", "export", "false",
    "kill", "local", "printf", "pwd", "read", "readonly", "return", "set", "shift", "test", "trap",
    "true", "type", "umask", "unset", "wait"]

def runPrintf (format : Octets) (args : List Octets) : Run Unit := do
  let p := printf format args
  p.remarks.forM fun text => complain ("printf: ".toList ++ text)
  print p.printed
  setStatus (if p.failed then 2 else if p.remarks.isEmpty then 0 else 1)

def runSet (args : List Octets) : Run Unit := do
  setStatus 0
  match args with
  | ['-', '-'] :: rest => modify fun s => { s with args := rest }
  | ('-' :: letters) :: rest =>
    modify fun s => { s with
      stopsOnFailure := s.stopsOnFailure || letters.contains 'e'
      needsValues := s.needsValues || letters.contains 'u'
      traces := s.traces || letters.contains 'x' }
    if !rest.isEmpty then modify fun s => { s with args := rest }
  | ('+' :: letters) :: rest =>
    modify fun s => { s with
      stopsOnFailure := s.stopsOnFailure && !letters.contains 'e'
      needsValues := s.needsValues && !letters.contains 'u'
      traces := s.traces && !letters.contains 'x' }
    if !rest.isEmpty then modify fun s => { s with args := rest }
  | [] => pure ()
  | args => modify fun s => { s with args }

def runTrap (args : List Octets) : Run Unit := do
  setStatus 0
  let set (signal : Nat) (action : Option Octets) : Run Unit := modify fun s => { s with
    traps := (action.map (signal, ·)).toList ++ s.traps.filter (·.1 ≠ signal) }
  let (action, signals) := match args with
    | [signal] => (none, [signal])
    | action :: signals => (if action = ['-'] then none else some action, signals)
    | [] => (none, [])
  signals.forM fun text => do
    match if text.map Char.toUpper = "EXIT".toList then some 0 else signalOf? text with
    | some signal => set signal action
    | none =>
      writeTo (← get).streams.errors ("trap: ".toList ++ text ++ ": bad trap\n".toList)
      setStatus 1

mutual

/-- Expands the parts of a word. -/
def expandParts : (fuel : Nat) → Word → Run (List Bit)
  | 0, _ => return []
  | _, [] => return []
  | fuel + 1, part :: parts => do
    let bits ← expandPart fuel part
    return bits ++ (← expandParts fuel parts)

def expandPart : (fuel : Nat) → Part → Run (List Bit)
  | 0, _ => return []
  | fuel + 1, part => do
    match part with
    | .text quoted octets =>
      return if octets.isEmpty && quoted then [.quotation]
        else octets.map fun c => .char c quoted false
    | .output quoted script =>
      let text ← captured (runScript fuel script)
      modify fun s => { s with substituted := some s.status }
      return bitsOf quoted (dropTrailing (· = '\n') text)
    | .arithmetic quoted expression =>
      let text := textOf (← expandParts fuel expression)
      let s ← get
      match evaluate text s.bindings with
      | .error e => stopWith 2 e
      | .ok (n, bindings) =>
        modify fun s => { s with bindings := bindings }
        return bitsOf quoted (showInt n)
    | .parameter quoted name use => expandParameter fuel quoted name use

def expandParameter : (fuel : Nat) → (quoted : Bool) → Octets → Use → Run (List Bit)
  | 0, _, _, _ => return []
  | fuel + 1, quoted, name, use => do
    let value ← value? name
    let s ← get
    let ifs ← separators
    let several : List Bit :=
      if quoted && name = ['*'] then bitsOf true ((ifs.take 1).intercalate s.args)
      else (s.args.map (bitsOf quoted)).intersperse [.gap] |>.flatten
    let shown (value : Octets) : List Bit :=
      if name = ['@'] || name = ['*'] then several else bitsOf quoted value
    /- Behind an operator, unquoted text splits like a value. -/
    let other (word : Word) : Run (List Bit) := do
      let bits ← expandParts fuel word
      return bits.map fun
        | .char c q splits => .char c q (splits || !q && !quoted)
        | bit => bit
    let missing (orEmpty : Bool) : Bool :=
      match value with
      | none => true
      | some value => orEmpty && value.isEmpty
    match use with
    | .plain =>
      match value with
      | some value => return shown value
      | none =>
        if s.needsValues && name ≠ ['@'] && name ≠ ['*'] && name ≠ ['!'] then
          stopWith 2 (name ++ ": parameter not set".toList)
        else return if quoted && name ≠ ['@'] then [.quotation] else []
    | .length =>
      if name = ['@'] || name = ['*'] then return bitsOf quoted (toString s.args.length).toList
      else return bitsOf quoted (toString (value.getD []).length).toList
    | .fallback orEmpty word =>
      if missing orEmpty then other word else return shown (value.getD [])
    | .assign orEmpty word =>
      if missing orEmpty then
        let text := textOf (← expandParts fuel word)
        setVariable name text
        return bitsOf quoted text
      else return shown (value.getD [])
    | .complain orEmpty word =>
      if missing orEmpty then
        let text := textOf (← expandParts fuel word)
        stopWith 2 (name ++ ": ".toList ++
          if !text.isEmpty then text
          else if orEmpty then "parameter null or not set".toList
          else "parameter not set".toList)
      else return shown (value.getD [])
    | .instead orEmpty word => if missing orEmpty then return [] else other word
    | .strip suffix longest pattern =>
      let pattern := charsOf (← expandParts fuel pattern)
      return bitsOf quoted (stripGlob suffix longest pattern (value.getD []))
    | .bad => stopWith 2 "Bad substitution".toList

def expandWords : (fuel : Nat) → List Word → Run (List Octets)
  | 0, _ => return []
  | _, [] => return []
  | fuel + 1, word :: words => do
    let bits ← expandParts fuel word
    let found ← (wordsOf (← separators) bits none).mapM expandGlob
    return found.flatten ++ (← expandWords fuel words)

/-- Runs something with its streams redirected. The first stream that cannot be opened prevents it, and
can stop the script. -/
def withRedirections (fatal : Bool) : (fuel : Nat) → List Redirection → Run Unit → Run Unit
  | 0, _, _ => return ()
  | _, [], x => x
  | fuel + 1, r :: rest, x => do
    let s ← get
    let inner := withRedirections fatal fuel rest x
    let refuse (text : Octets) : Run Unit := do
      complain text
      setStatus 2
      if fatal then throw (.exit 2)
    let lead (number : Nat) (stream : Stream) : Run Unit :=
      if number = 1 then redirecting inner { s.streams with output := stream } none
      else if number = 2 then redirecting inner { s.streams with errors := stream } none
      else redirecting inner { s.streams with others := (number, stream) :: s.streams.others } none
    match r with
    | .document _ number =>
      let word := (s.documents.lookup number).getD []
      let text := textOf (← expandParts fuel word)
      redirecting inner s.streams (some text)
    | .duplicate number source =>
      let source := textOf (← expandParts fuel source)
      match streamOf source s with
      | some stream => lead number stream
      | none =>
        if source = ['0'] || (source = ['-'] && number > 2) then inner
        else refuse (source ++ ": Bad file descriptor".toList)
    | .file number mode target =>
      let target := textOf (← expandParts fuel target)
      let path := Octets.toPath target
      match mode with
      | .read =>
        match s.tree.read path with
        | .ok content => redirecting inner s.streams (some content)
        | .error _ => refuse ("cannot open ".toList ++ target ++ ": No such file".toList)
      | mode =>
        match openFile s.tree path (mode = .append) with
        | .ok (loc, tree) =>
          modify fun s => { s with tree := tree }
          lead number (if (tree.content? loc).isSome then .file loc else .nowhere)
        | .error e =>
          refuse ("cannot create ".toList ++ target ++ ": ".toList ++
            (match e with
              | .missing => "Directory nonexistent"
              | e => e.reason).toList)

/-- Runs a command whose status is looked at. -/
def tested : (fuel : Nat) → Command → Run Bool
  | 0, _ => return false
  | fuel + 1, c => do
    let before := (← get).tested
    modify fun s => { s with tested := true }
    run fuel c
    modify fun s => { s with tested := before }
    return (← get).status = 0

/-- Runs the body of a loop, and tells whether the loop goes on. -/
def runBody : (fuel : Nat) → Command → Run Bool
  | 0, _ => return false
  | fuel + 1, body => fun s =>
    let outside (inner : Session) : Session := { inner with loops := s.loops }
    match run fuel body { s with loops := s.loops + 1 } with
    | .ok () inner => .ok true (outside inner)
    | .error (.leave n) inner =>
      if n ≤ 1 then .ok false (outside inner) else .error (.leave (n - 1)) (outside inner)
    | .error (.again n) inner =>
      if n ≤ 1 then .ok true (outside inner) else .error (.again (n - 1)) (outside inner)
    | .error stop inner => .error stop (outside inner)

def runLoop : (fuel : Nat) → (untilTrue : Bool) → (test body : Command) → (status : Nat) → Run Unit
  | 0, _, _, _, _ => return ()
  | fuel + 1, untilTrue, test, body, status => do
    if (← tested fuel test) != untilTrue then
      if ← runBody fuel body then runLoop fuel untilTrue test body (← get).status
      else return ()
    else setStatus status

def runEach : (fuel : Nat) → Octets → List Octets → Command → Run Unit
  | 0, _, _, _ => return ()
  | _, _, [], _ => return ()
  | fuel + 1, name, word :: words, body => do
    setVariable name word
    if ← runBody fuel body then runEach fuel name words body

def runArms : (fuel : Nat) → Octets → List (List Word × Command) → Run Unit
  | 0, _, _ => return ()
  | _, _, [] => return ()
  | fuel + 1, text, (patterns, body) :: arms => do
    let patterns ← patterns.mapM fun p => charsOf <$> expandParts fuel p
    if patterns.any fun p => matchesGlob p text then run fuel body else runArms fuel text arms

def run : (fuel : Nat) → Command → Run Unit
  | 0, _ => throw (.exit 2)
  | fuel + 1, c => do
    match c with
    | .nothing => setStatus 0
    | .simple line assignments words redirections =>
      runSimple fuel line assignments words redirections
      afterStatus
    | .pipe first second =>
      let text ← captured (run fuel first)
      let s ← get
      isolated (redirecting (run fuel second) s.streams (some text))
    | .negated c =>
      let good ← tested fuel c
      setStatus (if good then 1 else 0)
    | .both first second => if ← tested fuel first then run fuel second
    | .either first second => if !(← tested fuel first) then run fuel second
    | .seq first second =>
      run fuel first
      run fuel second
    | .branch test yes no => if ← tested fuel test then run fuel yes else run fuel no
    | .loop untilTrue test body => runLoop fuel untilTrue test body 0
    | .each name words body =>
      let words ← match words with
        | some words => expandWords fuel words
        | none => pure (← get).args
      setStatus 0
      runEach fuel name words body
    | .choose word arms =>
      let text := textOf (← expandParts fuel word)
      setStatus 0
      runArms fuel text arms
    | .subshell c =>
      isolated (run fuel c)
      afterStatus
    | .redirected line c redirections =>
      modify fun s => { s with line }
      withRedirections false fuel redirections (run fuel c)
    | .define name body =>
      modify fun s => { s with functions := (name, body) :: s.functions.filter (·.1 ≠ name) }
      setStatus 0

/-- Sets variables one after the other, and gives the text of the assignments. -/
def assignAll : (fuel : Nat) → List (Octets × Word) → Run (List Octets)
  | 0, _ => return []
  | _, [] => return []
  | fuel + 1, (name, word) :: more => do
    let value := textOf (← expandParts fuel word)
    setVariable name value
    return (name ++ '=' :: value) :: (← assignAll fuel more)

def runSimple : (fuel : Nat) → (line : Nat) → List (Octets × Word) → List Word → List Redirection →
    Run Unit
  | 0, _, _, _, _ => return ()
  | fuel + 1, line, assignments, words, redirections => do
    modify fun s => { s with line }
    modify fun s => { s with substituted := none }
    let words ← expandWords fuel words
    let s ← get
    let trace (texts : List Octets) : Run Unit := do
      if s.traces && !texts.isEmpty then
        writeTo s.streams.errors ((s.bindings.lookup "PS4".toList).getD "+ ".toList ++ [' '].intercalate texts ++ ['\n'])
    match words with
    | [] =>
      withRedirections false fuel redirections do
        trace (← assignAll fuel assignments)
        setStatus ((← get).substituted.getD 0)
    | name :: args =>
      let bindings := s.bindings
      let keep := specialCommands.contains (String.ofList name)
      withRedirections keep fuel redirections do
        trace ((← assignAll fuel assignments) ++ name :: args)
        invoke fuel name args
        if name = "exec".toList && args.isEmpty then modify fun s => { s with lasting := true }
      modify fun s => { s with lasting := false }
      if !assignments.isEmpty && !keep then modify fun s => { s with bindings }

/-- Runs a command by its name: a function, a command that is known, or a program. -/
def invoke : (fuel : Nat) → Octets → List Octets → Run Unit
  | 0, _, _ => return ()
  | fuel + 1, name, args => do
    let s ← get
    match s.functions.lookup name with
    | some body =>
      modify fun inner => { inner with args, loops := 0, hidden := some [] }
      let back (inner : Session) : Session :=
        { inner with
          args := s.args
          loops := s.loops
          hidden := s.hidden
          bindings := (inner.hidden.getD []).foldl (fun bindings (x, value) =>
            match value with
            | some value => bindings.set x value
            | none => bindings.filter (·.1 ≠ x)) inner.bindings }
      fun inner =>
        match run fuel body inner with
        | .ok () inner => .ok () (back inner)
        | .error .back inner => .ok () (back inner)
        | .error stop inner => .error stop (back inner)
    | none =>
      if builtins.contains (String.ofList name) then runBuiltin fuel name args
      else runProgram fuel name args

/-- Runs a program, and says so if there is none. -/
def runProgram : (fuel : Nat) → Octets → List Octets → Run Unit
  | 0, _, _ => return ()
  | fuel + 1, name, args => do
    let s ← get
    let start (tool : Tool) : Run Unit := do
      let run := tool s.tree name args s.input
      print run.printed
      writeTo s.streams.errors run.complaints
      match run.ending with
      | .exited status => setStatus status
      | .killed signal => setStatus (128 + signal)
    let path := Octets.toPath name
    if name.contains '/' then
      match s.tree.locate path with
      | .ok loc =>
        if loc = ["usr", "bin", "sh"] then runShell fuel name args
        else match (if loc.dropLast = ["usr", "bin"] then Tool.all.lookup (loc.getLastD "") else none) with
        | some tool => start tool
        | none =>
          complain (name ++ ": Permission denied".toList)
          setStatus 126
      | .error _ =>
        complain (name ++ ": not found".toList)
        setStatus 127
    else if name = ['s', 'h'] then runShell fuel name args
    else match Tool.all.lookup (String.ofList name) with
      | some tool => start tool
      | none =>
        complain (name ++ (if name.isEmpty then ": Permission denied" else ": not found").toList)
        setStatus 127

/-- Runs another script. A signal that ends it is told by its status. -/
def runShell : (fuel : Nat) → (name : Octets) → (args : List Octets) → Run Unit
  | 0, _, _ => return ()
  | fuel + 1, name, args => do
    let script (name text : Octets) (args : List Octets) : Run Unit := do
      let inner := isolated do
        modify fun inner => { inner with
          name, args, functions := [], loops := 0, hidden := none, stopsOnFailure := false
          needsValues := false, traces := false }
        runScript fuel text
      fun s =>
        match inner s with
        | .error (.killed signal) inner => .ok () { inner with status := 128 + signal }
        | result => result
    match args with
    | ['-', 'c'] :: text :: rest => script (rest.headD name) text (rest.drop 1)
    | file :: rest =>
      let s ← get
      match s.tree.read (Octets.toPath file) with
      | .ok text => script file text rest
      | .error _ =>
        writeTo s.streams.errors
          (name ++ ": 0: cannot open ".toList ++ file ++ ": No such file\n".toList)
        setStatus 2
    | [] => do script name (← get).input []

def runBuiltin : (fuel : Nat) → Octets → List Octets → Run Unit
  | 0, _, _ => return ()
  | fuel + 1, name, args => do
    let s ← get
    let remark (text : Octets) : Run Unit := complain (name ++ ": ".toList ++ text)
    let number (default : Nat) : Run Nat :=
      match args with
      | [] => return default
      | arg :: _ =>
        match readNumber? arg with
        | some n => return n
        | none => stopWith 2 (name ++ ": ".toList ++ illegalNumber arg)
    let test (args : List Octets) : Run Unit :=
      match testArguments s.tree args with
      | .ok r => setStatus (if r then 0 else 1)
      | .error text => do
        remark text
        setStatus 2
    match String.ofList name with
    | "true" | ":" | "wait" | "umask" => setStatus 0
    | "false" => setStatus 1
    | "echo" =>
      print (echoed args)
      setStatus 0
    | "printf" =>
      match args with
      | ('-' :: '-' :: []) :: format :: args => runPrintf format args
      | ('-' :: c :: _) :: _ => stopWith 2 ("printf: Illegal option -".toList ++ [c])
      | format :: args => runPrintf format args
      | [] =>
        remark "usage: printf format [arg ...]".toList
        setStatus 2
    | "exit" => throw (.exit ((← number s.status) % 256))
    | "return" =>
      setStatus ((← number s.status) % 256)
      throw .back
    | "break" | "continue" =>
      let n ← number 1
      if n = 0 then stopWith 2 (name ++ ": ".toList ++ illegalNumber (args.headD []))
      setStatus 0
      let n := min n s.loops
      if n > 0 then throw (if name = "break".toList then .leave n else .again n)
    | "test" => test args
    | "[" =>
      if args.getLast? = some [']'] then test args.dropLast
      else
        remark "missing ]".toList
        setStatus 2
    | "pwd" =>
      print (Octets.ofString s.tree.workdir.path.text ++ ['\n'])
      setStatus 0
    | "shift" =>
      let n ← number 1
      if s.args.length < n then stopWith 2 "shift: can't shift that many".toList
      else
        modify fun s => { s with args := s.args.drop n }
        setStatus 0
    | "set" => runSet args
    | "unset" =>
      let names := args.filter fun a => a.head? ≠ some '-'
      modify fun s => { s with
        bindings := s.bindings.filter (!names.contains ·.1)
        functions := if args.contains ['-', 'f'] then s.functions.filter (!names.contains ·.1)
          else s.functions }
      setStatus 0
    | "export" | "readonly" | "local" =>
      let own := name = "local".toList
      if own && s.hidden.isNone then stopWith 2 "local: not in a function".toList
      args.forM fun arg => do
        let x := arg.takeWhile (· ≠ '=')
        if own then modify fun s => { s with
          hidden := s.hidden.map fun hidden => (x, s.bindings.lookup x) :: hidden }
        if x.length < arg.length then setVariable x (arg.drop (x.length + 1))
      setStatus 0
    | "read" =>
      let raw := args.contains ['-', 'r']
      let names := args.filter fun a => a.head? ≠ some '-'
      let (line, ended, rest) := takeLine raw (s.input.length + 1) [] s.input
      modify fun s => { s with input := rest }
      (cutFields (← separators) names line).forM fun (x, value) => setVariable x value
      setStatus (if ended then 0 else 1)
    | "eval" =>
      if args.isEmpty then setStatus 0 else runScript fuel ([' '].intercalate args)
    | "." =>
      match args with
      | [] => setStatus 0
      | file :: _ =>
        match s.tree.read (Octets.toPath file) with
        | .ok text => fun inner =>
          match runScript fuel text inner with
          | .error .back inner => .ok () inner
          | result => result
        | .error _ => stopWith 2 (".: cannot open ".toList ++ file ++ ": No such file".toList)
    | "command" =>
      match args with
      | [] => setStatus 0
      | ['-', 'v'] :: x :: _ =>
        if builtins.contains (String.ofList x) then
          print (x ++ ['\n'])
          setStatus 0
        else if (Tool.all.lookup (String.ofList x)).isSome then
          print ("/usr/bin/".toList ++ x ++ ['\n'])
          setStatus 0
        else setStatus 127
      | x :: args =>
        if builtins.contains (String.ofList x) then runBuiltin fuel x args else runProgram fuel x args
    | "type" =>
      args.forM fun x => do
        if builtins.contains (String.ofList x) then print (x ++ " is a shell builtin\n".toList)
        else if (Tool.all.lookup (String.ofList x)).isSome then
          print (x ++ " is /usr/bin/".toList ++ x ++ ['\n'])
        else
          print (x ++ ": not found\n".toList)
          setStatus 127
    | "exec" =>
      match args with
      | [] => setStatus 0
      | x :: args =>
        if x.contains '/' || x = ['s', 'h'] || (Tool.all.lookup (String.ofList x)).isSome then
          runProgram fuel x args
          throw (.exit (← get).status)
        else
          complain ("exec: ".toList ++ x ++ ": not found".toList)
          throw (.exit 127)
    | "trap" => runTrap args
    | "kill" => runKill fuel args
    | _ => setStatus 0

/-- Sends a signal, which only the script itself can get. -/
def runKill : (fuel : Nat) → List Octets → Run Unit
  | 0, _ => return ()
  | fuel + 1, args => do
    let refuse (text : Octets) : Run Unit := do
      complain ("kill: ".toList ++ text)
      setStatus 2
    setStatus 0
    match KillRequest.read args with
    | .error text => refuse text
    | .ok { shows := true, targets, .. } =>
      let shown := if targets.isEmpty then .ok ("0" :: signalNames) else
        (targets.take 1).mapM signalShown
      match shown with
      | .error text => refuse text
      | .ok names => names.forM fun name => print (name.toList ++ ['\n'])
    | .ok { signal, targets, .. } => runSignal fuel (signal.getD 15) targets

/-- Sends a signal to one target after the other. -/
def runSignal : (fuel : Nat) → (signal : Nat) → (targets : List Octets) → Run Unit
  | 0, _, _ => return ()
  | _, _, [] => return ()
  | fuel + 1, signal, target :: targets => do
    let digits := if target.head? = some '-' then target.drop 1 else target
    if (readNumber? digits).isNone then
      complain ("kill: ".toList ++ illegalNumber digits)
      setStatus 2
    else if target = processNumber || target = ['0'] then
      let s ← get
      match (if signal = 9 then none else s.traps.lookup signal) with
      | some action => runScript fuel action
      | none => if signal ≠ 0 && !quietSignals.contains signal then throw (.killed signal)
      runSignal fuel signal targets
    else
      complain ("kill: No such process\n".toList)
      runSignal fuel signal targets
      if (← get).status = 0 then setStatus 1

/-- Reads and runs the commands of a script one after the other. -/
def runCommands : (fuel : Nat) → Reader → Run Unit
  | 0, _ => return ()
  | fuel + 1, reader => do
    match readComplete reader with
    | .error text r =>
      modify fun s => { s with line := r.line }
      stopWith 2 ("Syntax error: ".toList ++ text.toList)
    | .ok none _ => return ()
    | .ok (some c) r =>
      modify fun s => { s with documents := r.documents ++ s.documents }
      match c with
      | some c => run fuel c
      | none => pure ()
      runCommands fuel { r with documents := [] }

def runScript : (fuel : Nat) → Octets → Run Unit
  | 0, _ => return ()
  | fuel + 1, text => do
    let s ← get
    let nextDocument := s.documents.foldl (fun n d => max n (d.1 + 1)) 0
    runCommands fuel { rest := text, nextDocument }

end

/-- More steps inside one another than these are not taken. -/
def stepLimit : Nat := 100000

/-- Runs a script by its name. What it writes into files is gone with it. -/
def runFile (t : Tree) (name text input : Octets) : ToolRun :=
  let finish (s : Session) (ending : Ending) : ToolRun :=
    { printed := s.printed.reverse.flatten, complaints := s.complaints.reverse.flatten, ending }
  /- The trap for the end of the script. -/
  let leave (s : Session) (status : Nat) : ToolRun :=
    match s.traps.lookup 0 with
    | none => finish s (.exited status)
    | some action =>
      match runScript stepLimit action { s with traps := s.traps.filter (·.1 ≠ 0), status } with
      | .ok () s => finish s (.exited status)
      | .error (.exit status) s => finish s (.exited status)
      | .error (.killed signal) s => finish s (.killed signal)
      | .error _ s => finish s (.exited status)
  match runScript stepLimit text { tree := t, name, input } with
  | .ok () s => leave s s.status
  | .error (.exit status) s => leave s status
  | .error (.killed signal) s => finish s (.killed signal)
  | .error _ s => leave s s.status

end GlslFlatten.Shell
