import GlslFlatten.CommandLine
import GlslFlatten.Text.Digit

/-!
A reader of command-line arguments. They are read from left to right, and the first one that asks for
the help or the version, or that is wrong, decides.
-/

namespace GlslFlatten.CommandLine

open Text

/-- Options that take a value. -/
inductive Setting where
  | root
  | buildDir
  | validator
  | maxDepth
  deriving DecidableEq, Repr

inductive Flag where
  | verbose
  | help
  | version
  deriving DecidableEq, Repr

def versionText : String := "glsl-prep 0.1.0\n"

def helpText : String :=
  "A GLSL #include preprocessor and offline shader validator\n\n" ++
  "Usage: glsl-prep [OPTIONS]\n\n" ++
  "Options:\n" ++
  "      --root <DIR>             Directory containing the shader sources [default: glshaders]\n" ++
  "      --build-dir <DIR>        Directory flattened sources are written to (default: <ROOT>/build)\n" ++
  "      --validator <PROGRAM>    Validator program, run with each flattened source as its only argument [default: glslang]\n" ++
  "      --max-depth <MAX_DEPTH>  Max include depth [default: 100]\n" ++
  "  -v, --verbose                Log progress to stderr\n" ++
  "  -h, --help                   Print help\n" ++
  "  -V, --version                Print version\n"

def misuseCode : Nat := 2

namespace Request

def showVersion : Request := .ended 0 versionText

def showHelp : Request := .ended 0 helpText

def misuse : Request := .ended misuseCode ""

end Request

def setting? : String → Option Setting
  | "root" => some .root
  | "build-dir" => some .buildDir
  | "validator" => some .validator
  | "max-depth" => some .maxDepth
  | _ => none

def longFlag? : String → Option Flag
  | "verbose" => some .verbose
  | "help" => some .help
  | "version" => some .version
  | _ => none

def shortFlag? : Char → Option Flag
  | 'v' => some .verbose
  | 'h' => some .help
  | 'V' => some .version
  | _ => none

/-- The options so far, and the settings that have been given. -/
structure Reading where
  options : Options := {}
  given : List Setting := []
  deriving DecidableEq, Repr

/-- A whole number, which may have a plus sign. -/
def readCount? (value : String) : Option Nat :=
  match value.toList with
  | '+' :: digits => readNumber? digits
  | digits => readNumber? digits

/-- Takes in the value of a setting, which may be given once. A directory cannot be empty. -/
def Reading.give (r : Reading) (setting : Setting) (value : String) : Option Reading :=
  let given := setting :: r.given
  if r.given.contains setting then none
  else match setting with
    | .root => if value = "" then none else some ⟨{ r.options with root := ⟨value⟩ }, given⟩
    | .buildDir =>
      if value = "" then none else some ⟨{ r.options with buildDir := some ⟨value⟩ }, given⟩
    | .validator => some ⟨{ r.options with validator := value }, given⟩
    | .maxDepth => (readCount? value).map fun n => ⟨{ r.options with maxDepth := n }, given⟩

def readFlag (flag : Flag) (r : Reading) (next : Reading → Request) : Request :=
  match flag with
  | .help => .showHelp
  | .version => .showVersion
  | .verbose =>
    if r.options.verbose then .misuse
    else next { r with options := { r.options with verbose := true } }

/-- Short flags may share a dash. -/
def readShort : List Char → Reading → (Reading → Request) → Request
  | [], r, next => next r
  | c :: cs, r, next =>
    match shortFlag? c with
    | none => .misuse
    | some flag => readFlag flag r fun r => readShort cs r next

/-- The name in an argument that starts with two dashes, and the value behind an equals sign. -/
def long? (arg : String) : Option (String × Option String) :=
  match arg.toList with
  | '-' :: '-' :: c :: cs =>
    let name := (c :: cs).takeWhile (· ≠ '=')
    match (c :: cs).dropWhile (· ≠ '=') with
    | [] => some (.ofList name, none)
    | _ :: value => some (.ofList name, some (.ofList value))
  | _ => none

def short? (arg : String) : Option (List Char) :=
  match arg.toList with
  | '-' :: c :: cs => if c = '-' then none else some (c :: cs)
  | _ => none

/-- What starts with a dash and is more than one is never a value. -/
def isValue (arg : String) : Bool := arg.toList.head? ≠ some '-' || arg = "-"

def readArguments : List String → Reading → Request
  | [], r => .run r.options
  | arg :: rest, r =>
    if arg = "--" then
      if rest = [] then .run r.options else .misuse
    else match long? arg with
      | some (name, value?) =>
        match setting? name, value? with
        | some setting, some value =>
          match r.give setting value with
          | some r => readArguments rest r
          | none => .misuse
        | some setting, none =>
          match rest with
          | [] => .misuse
          | value :: rest =>
            if isValue value then
              match r.give setting value with
              | some r => readArguments rest r
              | none => .misuse
            else .misuse
        | none, some _ => .misuse
        | none, none =>
          match longFlag? name with
          | some flag => readFlag flag r (readArguments rest)
          | none => .misuse
      | none =>
        match short? arg with
        | some cs => readShort cs r (readArguments rest)
        | none => .misuse

def request (args : List String) : Request := readArguments args {}

example : request ["--root=s", "-v", "--max-depth", "+7"] =
    .run { root := ⟨"s"⟩, verbose := true, maxDepth := 7 } := by decide +kernel

example : request ["-vV", "--nope"] = .showVersion ∧ request ["--root", "-V"] = .misuse := by
  decide +kernel

end GlslFlatten.CommandLine
