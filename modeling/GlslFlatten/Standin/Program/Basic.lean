import GlslFlatten.Standin.Program.Shell.Evaluate
import GlslFlatten.Validator

/-!
Programs that can take the place of a validator: each is given one path and prints something.
-/

namespace GlslFlatten

open Text Shell

namespace Ending

/-- How the end of a program is told. -/
def text : Ending → String
  | exited status => "exit status: " ++ toString status
  | killed signal =>
    "signal: " ++ toString signal ++
      match signalName? signal with
      | some name => " (SIG" ++ name ++ ")"
      | none => ""

end Ending

namespace Program

/-- Letters that the shell takes as options. -/
def shellOptions : Octets := "efIimnsxvVEbuac".toList

/-- Runs a script that is given by its path. -/
def shell : Tool := fun t name args input =>
  let refuse (text : Octets) : ToolRun :=
    { complaints := name ++ ": 0: ".toList ++ text ++ ['\n'], ending := .exited 2 }
  match args with
  | [] => runFile t name input []
  | arg :: _ =>
    let option := match arg with
      | '-' :: letters => letters.find? fun c => !shellOptions.contains c
      | _ => none
    match option with
    | some c => refuse ("Illegal option -".toList ++ [c])
    | none =>
      match t.read (Octets.toPath arg) with
      | .ok text => runFile t arg text input
      | .error _ => refuse ("cannot open ".toList ++ arg ++ ": No such file".toList)

def installed : List (String × Tool) := ("sh", shell) :: Tool.all

/-- The directory that holds the programs. -/
def home : Location := ["usr", "bin"]

/-- The content of a program's file, which is not text. -/
def binary : List UInt8 := [0x7f, 0x45, 0x4c, 0x46, 0x80]

/-- A tree with the programs and two devices: one takes everything, the other nothing. -/
def install (t : Tree) : Tree :=
  let places : List (Location × Entry) :=
    [(["usr"], .directory), (home, .directory), (["bin"], .link "usr/bin"), (["dev"], .directory),
      (["dev", "null"], .device none), (["dev", "full"], .device (some .noSpace))] ++
    installed.map fun (name, _) => (home ++ [name], .file binary)
  { t with entries := t.entries.filter (fun e => !(places.map (·.1)).contains e.1) ++ places }

def installedAt? (loc : Location) : Option Tool :=
  if loc.dropLast = home then installed.lookup (loc.getLastD "") else none

/-- Finds the program to start. A name without a slash is looked up among those installed, and no other
file can be executed. -/
def find (t : Tree) (name : String) : Except IoError Tool :=
  if name.toList.contains '\x00' then .error .nulInArgument
  else if name.toList.contains '/' then
    match t.locate ⟨name⟩ with
    | .error e => .error e
    | .ok loc =>
      match installedAt? loc with
      | some program => .ok program
      | none => .error .denied
  else if name = "." || name = ".." then .error .denied
  else if Tree.tooLong name then .error .nameTooLong
  else match installed.lookup name with
    | some program => .ok program
    | none => .error .missing

/-- Starts the programs that are installed. -/
def launch : Launcher := fun t name flattened => do
  let program ← find t name
  let run := program t (Octets.ofString name) [Octets.ofString flattened.text] []
  .ok ⟨Octets.toBytes run.printed, Octets.toBytes run.complaints, run.ending.text⟩

end Program

end GlslFlatten
