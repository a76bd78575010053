import Pinning.Command.Arguments
import Pinning.Config.File
import Pinning.Report
import Pinning.Resolver.Batch
/-!
Carrying a command out. Whatever goes wrong is reported on its own line, and the exit code is the
greatest among those of the errors. A report holds what could be resolved, in the order in which it
was asked for.
-/

set_option autoImplicit false
set_option relaxedAutoImplicit false

namespace Pinning.Command

structure Ending where
  exitCode : Nat
  output : String := ""
  errors : String := ""
  files : Files
  deriving DecidableEq

def errorLine (cause : Error) : String := "Error: " ++ cause.message ++ "\n"

def Ending.ofError (files : Files) (notes : String) (cause : Error) : Ending :=
  { exitCode := cause.exitCode, errors := notes ++ errorLine cause, files }

/-- The format of the report, and a warning if it is not known. -/
def formatOf (written : String) : Report.Format × String :=
  match Report.Format.meant? written with
  | some format => (format, "")
  | none => (.console, "Warning: unknown format '" ++ written ++ "', using console\n")

/-- The strategy of a configuration with what the command says in its place. -/
def strategyOf (options : Resolve) (config : Config) : Except Error Strategy := do
  let protocol ← match options.protocol with
    | none => pure config.search.protocol
    | some written =>
      match Protocol.meant? written with
      | some protocol => pure protocol
      | none => .error (.config ("unknown protocol '" ++ written ++ "'"))
  pure { protocol, storePaths := config.search.storePaths || options.storePaths }

def prepare (network : Http.Network) (files : Files) (options : Resolve) :
    Except Error (Resolver × Strategy) := do
  let config ← Config.load files options.config
  let strategy ← strategyOf options config
  pure (← Resolver.ofConfig config network, strategy)

def resolutions (results : List (String × Except Error Package)) : List Resolution :=
  results.filterMap fun
    | (spec, .ok package) => some { spec, package }
    | (_, .error _) => none

def failures (results : List (String × Except Error Package)) : List Error :=
  results.filterMap fun
    | (_, .ok _) => none
    | (_, .error cause) => some cause

def exitCodeOf (causes : List Error) : Nat :=
  causes.foldl (fun code cause => max code cause.exitCode) 0

def deliver (files : Files) (output : Option String) (notes : String) (causes : List Error)
    (report : String) : Ending :=
  let errors := notes ++ String.join (causes.map errorLine)
  match output with
  | none => { exitCode := exitCodeOf causes, output := report, errors, files }
  | some path =>
    match files.write path (Text.utf8Bytes report.toList) with
    | .ok files => { exitCode := exitCodeOf causes, errors, files }
    | .error problem => .ofError files errors problem.error

def runResolve (network : Http.Network) (files : Files) (options : Resolve) : Activity Ending :=
  let (format, warning) := formatOf options.format
  match prepare network files options with
  | .error cause => pure (.ofError files warning cause)
  | .ok (resolver, strategy) => do
    let results ← resolver.resolveAll strategy options.specs
    let report := Report.render format (resolutions results)
    pure (deliver files options.output warning (failures results) report)

def runInit (files : Files) (force : Bool) : Ending :=
  if files.hasEntry Config.fileName && !force then
    { exitCode := 1,
      errors := Config.fileName ++ " already exists. Use --force to overwrite.\n", files }
  else match files.write Config.fileName (Text.utf8Bytes Config.starterText.toList) with
    | .ok files => { exitCode := 0, output := "Created " ++ Config.fileName ++ "\n", files }
    | .error problem => .ofError files "" problem.error

def versionText : String := "pkgresolve 0.1.0\n"

def usage : String :=
  "Usage: pkgresolve [-v] resolve <SPECS>... [-c FILE] [-p PROTOCOL] [--store-paths] [-f FORMAT]"
    ++ " [-o FILE]\n       pkgresolve [-v] init [--force]\n"

def run (network : Http.Network) (files : Files) : Command → Activity Ending
  | .resolve options => runResolve network files options
  | .init force => pure (runInit files force)
  | .version => pure { exitCode := 0, output := versionText, files }
  | .help => pure { exitCode := 0, output := usage, files }

def runArguments (network : Http.Network) (files : Files) (protocolVariable : Option String)
    (arguments : List String) : Activity Ending :=
  match ofArguments? protocolVariable arguments with
  | some command => run network files command
  | none => pure { exitCode := 2, errors := "error: invalid arguments\n\n" ++ usage, files }

end Pinning.Command
