/-!
Log records, each with a level and the topic that it belongs to.
-/

namespace GlslFlatten.Log

inductive Level where
  | error
  | warn
  | info
  | debug
  | trace
  deriving DecidableEq, Repr

inductive Topic where
  | program
  | batch
  | expansion
  | validator
  deriving DecidableEq, Repr

def Topic.name : Topic → String
  | program => "glsl_prep"
  | batch => "glsl_prep::batch"
  | expansion => "glsl_prep::preprocessor"
  | validator => "glsl_prep::validator"

structure Record where
  level : Level
  topic : Topic
  text : String
  deriving DecidableEq, Repr

/-- What the log holds: records, and what programs have written between them. -/
inductive Entry where
  | record (r : Record)
  | foreign (text : String)
  deriving DecidableEq, Repr

end GlslFlatten.Log
