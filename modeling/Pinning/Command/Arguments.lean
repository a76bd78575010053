import Pinning.Command
import Pinning.Text.Split
/-!
Commands as arguments. Options stand anywhere behind the command they belong to, long ones as
`--name` and short ones as `-n`, several of which may share a hyphen; a value stands behind its
option, with or without an equals sign, or in the next argument unless that looks like an option
itself. Nothing may be given twice, and behind `--` nothing is an option. Help and version come at
once: what follows them is not looked at.
-/

set_option autoImplicit false
set_option relaxedAutoImplicit false

namespace Pinning.Command

inductive Flag
  | verbose
  | storePaths
  | force
  | help
  | version
  deriving DecidableEq

inductive Setting
  | config
  | protocol
  | format
  | output
  deriving DecidableEq

inductive Switch
  | flag (flag : Flag)
  | setting (setting : Setting)
  deriving DecidableEq

/-- The options of a command, with their long names and, if they have one, their letters. -/
abbrev Switches := List (Switch × String × Option Char)

def commonSwitches : Switches :=
  [(.flag .verbose, "verbose", some 'v'), (.flag .help, "help", some 'h')]

def programSwitches : Switches := commonSwitches ++ [(.flag .version, "version", some 'V')]

def initSwitches : Switches := commonSwitches ++ [(.flag .force, "force", none)]

def resolveSwitches : Switches := commonSwitches ++ [
  (.setting .config, "config", some 'c'), (.setting .protocol, "protocol", some 'p'),
  (.flag .storePaths, "store-paths", none), (.setting .format, "format", some 'f'),
  (.setting .output, "output", some 'o')]

def Switches.long? (switches : Switches) (name : String) : Option Switch :=
  (switches.find? fun entry => entry.2.1 == name).map Prod.fst

def Switches.short? (switches : Switches) (letter : Char) : Option Switch :=
  (switches.find? fun entry => entry.2.2 == some letter).map Prod.fst

inductive Word
  | flag (flag : Flag)
  | setting (setting : Setting) (value : String)
  | plain (text : String)
  | fault
  deriving DecidableEq

/-- What the letters behind a hyphen say, and the option that still lacks its value. -/
def letters (switches : Switches) : List Char → List Word × Option Setting
  | [] => ([], none)
  | letter :: rest =>
    match switches.short? letter, rest with
    | none, _ => ([.fault], none)
    | some (.flag flag), _ =>
      let (words, lacking) := letters switches rest
      (.flag flag :: words, lacking)
    | some (.setting setting), [] => ([], some setting)
    | some (.setting setting), '=' :: value => ([.setting setting (String.ofList value)], none)
    | some (.setting setting), value => ([.setting setting (String.ofList value)], none)

def longOption (switches : Switches) (cs : List Char) : List Word × Option Setting :=
  let (name, value) := match Text.cutFirst? '=' cs with
    | some (name, value) => (name, some value)
    | none => (cs, none)
  match switches.long? (String.ofList name), value with
  | some (.flag flag), none => ([.flag flag], none)
  | some (.setting setting), none => ([], some setting)
  | some (.setting setting), some value => ([.setting setting (String.ofList value)], none)
  | _, _ => ([.fault], none)

inductive Argument
  | marker
  | options (words : List Word × Option Setting)
  | plain

/-- Tell options from plain arguments. A hyphen alone is plain. -/
def Argument.of (switches : Switches) (argument : String) : Argument :=
  match argument.toList with
  | ['-', '-'] => .marker
  | '-' :: '-' :: name => .options (longOption switches name)
  | '-' :: letter :: rest => .options (letters switches (letter :: rest))
  | _ => .plain

/-- What arguments say, given the option in front of them that lacks its value. -/
def words (switches : Switches) : Option Setting → List String → List Word
  | none, [] => []
  | some _, [] => [.fault]
  | lacking, argument :: rest =>
    match Argument.of switches argument, lacking with
    | .plain, none => .plain argument :: words switches none rest
    | .plain, some setting => .setting setting argument :: words switches none rest
    | .options (said, next), none => said ++ words switches next rest
    | .marker, none => rest.map .plain
    | _, some _ => [.fault]

structure Said where
  flags : List Flag := []
  settings : List (Setting × String) := []
  plain : List String := []

/-- Arguments that say nothing, or that only ask for help or for the version. -/
inductive Interruption
  | misuse
  | help
  | version

/-- The value is no value of an option: a path is not empty. -/
def isRefused (setting : Setting) (value : String) : Bool :=
  (setting == .config || setting == .output) && value == ""

def Said.add (said : Said) : Word → Except Interruption Said
  | .fault => .error .misuse
  | .flag .help => .error .help
  | .flag .version => .error .version
  | .flag flag =>
    if said.flags.contains flag then .error .misuse
    else .ok { said with flags := said.flags ++ [flag] }
  | .setting setting value =>
    if isRefused setting value || (said.settings.lookup setting).isSome then .error .misuse
    else .ok { said with settings := said.settings ++ [(setting, value)] }
  | .plain text => .ok { said with plain := said.plain ++ [text] }

def said (switches : Switches) (arguments : List String) : Except Interruption Said :=
  (words switches none arguments).foldlM Said.add {}

/-- Resolving, as it has been said. The environment may name a protocol. -/
def resolveOf (protocolVariable : Option String) (said : Said) : Except Interruption Command :=
  if said.plain.isEmpty then .error .misuse
  else
    let unset : Resolve := { specs := said.plain }
    .ok (.resolve {
      specs := said.plain
      config := (said.settings.lookup .config).getD unset.config
      protocol := (said.settings.lookup .protocol).or protocolVariable
      storePaths := said.flags.contains .storePaths
      format := (said.settings.lookup .format).getD unset.format
      output := said.settings.lookup .output })

def initOf (said : Said) : Except Interruption Command :=
  if said.plain.isEmpty then .ok (.init (said.flags.contains .force)) else .error .misuse

def helpOn : List String → Except Interruption Command
  | [] => .error .help
  | [name] => if ["resolve", "init", "help"].contains name then .error .help else .error .misuse
  | _ => .error .misuse

def named (protocolVariable : Option String) (name : String) (arguments : List String) :
    Except Interruption Command :=
  if name = "resolve" then do resolveOf protocolVariable (← said resolveSwitches arguments)
  else if name = "init" then do initOf (← said initSwitches arguments)
  else if name = "help" then helpOn arguments
  else .error .misuse

/-- The command of a program's arguments, given what has been said in front of them. -/
def afterSwitches (protocolVariable : Option String) (before : Said) :
    List String → Except Interruption Command
  | [] => .error .misuse
  | argument :: rest =>
    match Argument.of programSwitches argument with
    | .plain => named protocolVariable argument rest
    | .marker => .error .misuse
    | .options (said, _) => do
      afterSwitches protocolVariable (← said.foldlM Said.add before) rest

/-- The command that a program's arguments give; none if they give none. -/
def ofArguments? (protocolVariable : Option String) (arguments : List String) : Option Command :=
  match afterSwitches protocolVariable {} arguments with
  | .ok command => some command
  | .error .help => some .help
  | .error .version => some .version
  | .error .misuse => none

example : ofArguments? none ["resolve", "a@1", "-fjson", "--", "-b"]
    = some (.resolve { specs := ["a@1", "-b"], format := "json" }) := by decide +kernel
example : ofArguments? none ["resolve", "a@1", "-f", "-o"] = none := by decide +kernel
example : ofArguments? none ["-vV", "nonsense"] = some .version := by decide +kernel

end Pinning.Command
