import BalancerSync.Net
import BalancerSync.Text.Lines

/-!
# The command line

The program has two commands: `run` starts the controller, and `version` prints the version. The
first argument that is no option names the command; what follows belongs to it. The options of `run`
may be set by environment variables as well; an argument wins over its variable.

The arguments of `run` are taken from left to right. The value of an option may be its next
argument; it is looked at when the following option is reached or the arguments end, so a problem
with that value comes after one with an argument that is no option at all. Variables are looked at
last, and only those of options that are not among the arguments.

## Main Definitions

* `CommandLine.RunOptions`, `CommandLine.Command` : what can be asked for
* `CommandLine.Stop` : why there is nothing to carry out
* `CommandLine.Argument` : what an argument looks like
* `CommandLine.Draft`, `Draft.takeAll`, `Draft.complete` : the options taken so far, and all of them
* `CommandLine.Command.ofArguments` : the command that arguments and variables describe
-/

namespace BalancerSync.CommandLine

/-- The options of the controller. -/
structure RunOptions where
  /-- The namespace of the lease. -/
  «namespace» : String
  /-- Where the monitoring endpoint listens. -/
  bindAddress : Net.SocketAddress
  /-- Whether the log is written as JSON. -/
  logJson : Bool
  deriving DecidableEq, Repr

/-- What to carry out. -/
inductive Command where
  | run (options : RunOptions)
  | version
  deriving DecidableEq, Repr

/-- Why there is nothing to carry out. -/
inductive Stop where
  /-- The help was asked for. -/
  | help
  /-- The version was asked for by an option. -/
  | version
  /-- There is no command, so the help is shown. -/
  | noCommand
  | unknownCommand
  | unknownArgument
  /-- An option without its value. -/
  | missingValue
  /-- A switch that is neither `true` nor `false`. -/
  | badSwitch
  /-- A value that is not of the kind that its option takes. -/
  | badValue
  /-- A value for an option that takes none. -/
  | excessValue
  /-- An option that is given twice. -/
  | repeated
  deriving DecidableEq, Repr

/-- The exit code of a program that stops so: only an answer that was asked for is a success. -/
def Stop.exitCode : Stop → Nat
  | help | version => 0
  | _ => 2

/-- What an argument looks like. -/
inductive Argument where
  /-- Two hyphens: no options follow. -/
  | endOfOptions
  /-- `--name` or `--name=value`. -/
  | long (name : String) (value : Option String)
  /-- A hyphen and letters, of which there is at least one. -/
  | short (letter : Char) (others : List Char)
  | plain (text : String)
  deriving DecidableEq, Repr

/-- A name and what follows an equals sign after it. -/
def longOption (cs : List Char) : Argument :=
  match Text.cutAt ['='] cs with
  | some (name, value) => .long (String.ofList name) (some (String.ofList value))
  | none => .long (String.ofList cs) none

/-- What an argument looks like. A single hyphen is plain. -/
def Argument.ofText (s : String) : Argument :=
  match s.toList with
  | ['-', '-'] => .endOfOptions
  | '-' :: '-' :: cs => longOption cs
  | '-' :: c :: cs => .short c cs
  | _ => .plain s

/-! ### The options of `run` -/

/-- An option with a value. -/
inductive ValueOption where
  | «namespace»
  | bindAddress
  deriving DecidableEq, Repr

/-- The options taken so far. -/
structure Draft where
  «namespace» : Option String
  bindAddress : Option Net.SocketAddress
  logJson : Bool
  /-- The last option with a value, until it is settled: its value follows or is missing. -/
  pending : Option (ValueOption × Option String)
  deriving DecidableEq, Repr

namespace Draft

def empty : Draft := ⟨none, none, false, none⟩

/-- A socket address as the value of an option. -/
def address (s : String) : Except Stop Net.SocketAddress :=
  match Net.SocketAddress.parse? s with
  | some a => .ok a
  | none => .error .badValue

/-- The draft with a value for an option that has none yet. -/
def assign (d : Draft) (option : ValueOption) (value : String) : Except Stop Draft :=
  match option with
  | .namespace =>
    if d.namespace.isSome then .error .repeated else .ok { d with «namespace» := some value }
  | .bindAddress => do
    if d.bindAddress.isSome then .error .repeated
    else return { d with bindAddress := some (← address value) }

/-- The draft with its pending option settled. -/
def settle (d : Draft) : Except Stop Draft :=
  match d.pending with
  | none => .ok d
  | some (_, none) => .error .missingValue
  | some (option, some value) => { d with pending := none }.assign option value

/-- The draft after the name of an option with a value, which may be attached. -/
def takeOption (d : Draft) (option : ValueOption) (attached : Option String) :
    Except Stop Draft := do
  let d ← d.settle
  match attached with
  | some value => d.assign option value
  | none => return { d with pending := some (option, none) }

/-- The draft after a switch. -/
def takeSwitch (d : Draft) : Except Stop Draft := do
  let d ← d.settle
  if d.logJson then .error .repeated else return { d with logJson := true }

/-- Stops for the help, once the pending option is settled. -/
def stopForHelp (d : Draft) : Except Stop Draft := do
  let _ ← d.settle
  .error .help

/-- The draft after `--name` or `--name=value`. -/
def takeLong (d : Draft) (name : String) (value : Option String) : Except Stop Draft :=
  if name = "namespace" then d.takeOption .namespace value
  else if name = "bind-address" then d.takeOption .bindAddress value
  else if name = "log-json" then
    if value.isSome then .error .excessValue else d.takeSwitch
  else if name = "help" then
    if value.isSome then .error .excessValue else d.stopForHelp
  else .error .unknownArgument

/-- The draft after an argument that is no option: the value of the pending one. -/
def takePlain (d : Draft) (text : String) : Except Stop Draft :=
  match d.pending with
  | some (option, none) => .ok { d with pending := some (option, some text) }
  | _ => .error .unknownArgument

/-- The draft after all the arguments. Nothing may follow the end of the options. -/
def takeAll (d : Draft) : List String → Except Stop Draft
  | [] => d.settle
  | s :: rest =>
    match Argument.ofText s with
    | .endOfOptions => if rest.isEmpty then d.settle else .error .unknownArgument
    | .long name value => do (← d.takeLong name value).takeAll rest
    | .short 'h' _ => d.stopForHelp
    | .short _ _ => .error .unknownArgument
    | .plain text => do (← d.takePlain text).takeAll rest

/-! ### Variables -/

def namespaceVar : String := "OPERATOR_NAMESPACE"
def bindAddressVar : String := "BIND_ADDRESS"
def logJsonVar : String := "LOG_JSON"

def defaultNamespace : String := "kube-system"

/-- All IPv4 addresses of the host, at the port of the monitoring endpoint. -/
def defaultBindAddress : Net.SocketAddress := .v4 ⟨0, 0, 0, 0⟩ 8233

/-- The value of a switch. -/
def switch (s : String) : Except Stop Bool :=
  if s = "true" then .ok true
  else if s = "false" then .ok false
  else .error .badSwitch

/-- The options, with the values of variables and defaults for those that are not given. -/
def complete (d : Draft) (env : String → Option String) : Except Stop RunOptions := do
  let bindAddress ← match d.bindAddress, env bindAddressVar with
    | some a, _ => pure a
    | none, some s => address s
    | none, none => pure defaultBindAddress
  let logJson ← match d.logJson, env logJsonVar with
    | true, _ => pure true
    | false, some s => switch s
    | false, none => pure false
  return ⟨(d.namespace.or (env namespaceVar)).getD defaultNamespace, bindAddress, logJson⟩

end Draft

/-- The options that arguments and variables describe. -/
def RunOptions.ofArguments (env : String → Option String) (arguments : List String) :
    Except Stop RunOptions := do
  (← Draft.empty.takeAll arguments).complete env

namespace Command

/-! ### Commands -/

/-- Whether a text names a command, that for help included. -/
def isName (s : String) : Bool := s = "run" || s = "version" || s = "help"

/-- What the arguments after `version` come to: there are none but a call for help. -/
def versionArguments : List String → Except Stop Command
  | [] => .ok .version
  | s :: rest =>
    match Argument.ofText s with
    | .endOfOptions => if rest.isEmpty then .ok .version else .error .unknownArgument
    | .long "help" none | .short 'h' _ => .error .help
    | .long "help" (some _) => .error .excessValue
    | _ => .error .unknownArgument

/-- What the arguments after `help` come to: at most one command can be named. -/
def helpArguments : List String → Stop
  | [] => .help
  | [s] => if isName s then .help else .unknownCommand
  | _ => .unknownCommand

/-- The command that arguments and variables describe. -/
def ofArguments (env : String → Option String) : List String → Except Stop Command
  | [] => .error .noCommand
  | s :: rest =>
    match Argument.ofText s with
    | .plain "run" => run <$> RunOptions.ofArguments env rest
    | .plain "version" => versionArguments rest
    | .plain "help" => .error (helpArguments rest)
    | .plain _ => .error .unknownCommand
    | .long "help" none | .short 'h' _ => .error .help
    | .long "version" none | .short 'V' _ => .error .version
    | .long "help" (some _) | .long "version" (some _) => .error .excessValue
    | .long _ _ | .short _ _ => .error .unknownArgument
    | .endOfOptions =>
      match rest with
      | [] => .error .noCommand
      | t :: _ => .error (if isName t then .unknownArgument else .unknownCommand)

end Command

end BalancerSync.CommandLine
