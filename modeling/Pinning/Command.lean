import Pinning.Config
/-!
What the program can be told to do.
-/

set_option autoImplicit false
set_option relaxedAutoImplicit false

namespace Pinning

/-- What is resolved, how, and where the result goes. -/
structure Command.Resolve where
  specs : List String
  config : String := Config.fileName
  /-- The name of a protocol to use in place of the configured one. -/
  protocol : Option String := none
  storePaths : Bool := false
  format : String := "console"
  /-- The file that the report is written to; none is the standard output. -/
  output : Option String := none
  deriving DecidableEq

inductive Command
  | resolve (options : Command.Resolve)
  | init (force : Bool)
  | version
  | help
  deriving DecidableEq

end Pinning
