import GlslFlatten.Path

/-!
Settings of a run. Paths of sources and of includes are relative to the shader root, and flattened
sources are written to the build directory.
-/

namespace GlslFlatten

structure Config where
  root : Path := ⟨"glshaders"⟩
  buildDir : Path := ⟨"glshaders/build"⟩
  maxDepth : Nat := 100
  /-- Ends of the names of those files that are sources by themselves. -/
  extensions : List String := [".vert.glsl", ".frag.glsl"]
  deriving DecidableEq, Repr

namespace Config

def defaultBuildDir (root : Path) : Path := root.join ⟨"build"⟩

/-- The build directory moves with the root as long as it is the default one. -/
def withRoot (c : Config) (root : Path) : Config :=
  if c.buildDir.same (defaultBuildDir c.root) then
    { c with root := root, buildDir := defaultBuildDir root }
  else { c with root := root }

def withBuildDir (c : Config) (dir : Path) : Config := { c with buildDir := dir }

def withMaxDepth (c : Config) (depth : Nat) : Config := { c with maxDepth := depth }

def outputPath (c : Config) (source : String) : Path := c.buildDir.join ⟨source⟩

example : ({} : Config).buildDir = defaultBuildDir ({} : Config).root := by decide +kernel

end Config

end GlslFlatten
