/-!
Reasons for which the file tree, a text file or a process refuses an operation.
-/

namespace GlslFlatten

inductive IoError where
  | missing
  | denied
  | exists
  | notDirectory
  | isDirectory
  | nameTooLong
  | noSpace
  | tooManyLinks
  | notUtf8
  | nulInPath
  | nulInArgument
  /-- A refusal by a caller's sink or stream, in its own words. -/
  | other (text : String)
  deriving DecidableEq, Repr

namespace IoError

def text : IoError → String
  | missing => "No such file or directory (os error 2)"
  | denied => "Permission denied (os error 13)"
  | .exists => "File exists (os error 17)"
  | notDirectory => "Not a directory (os error 20)"
  | isDirectory => "Is a directory (os error 21)"
  | nameTooLong => "File name too long (os error 36)"
  | noSpace => "No space left on device (os error 28)"
  | tooManyLinks => "Too many levels of symbolic links (os error 40)"
  | notUtf8 => "stream did not contain valid UTF-8"
  | nulInPath => "file name contained an unexpected NUL byte"
  | nulInArgument => "nul byte found in provided data"
  | other text => text

/-- What a memory sink answers once its room is used up. -/
def sinkFull : IoError := .other "sink full"

end IoError

end GlslFlatten
