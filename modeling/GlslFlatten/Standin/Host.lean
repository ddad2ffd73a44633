import GlslFlatten.Standin.Arguments
import GlslFlatten.Standin.LogFilter
import GlslFlatten.Standin.Program.Basic

/-!
A host to run the command on where no other is at hand. The modules beside this one take the place of
an argument parser, of a log writer with its patterns, and of a few programs that can be called as a
validator. They show what the command does in such surroundings and describe no real one: what holds
of the command holds on every host.
-/

namespace GlslFlatten.CommandLine

def Host.standin : Host where
  request := CommandLine.request
  launch := Program.launch
  rendered := renderLog

end GlslFlatten.CommandLine
