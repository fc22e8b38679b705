import Gosub.Machine.Task

/-!
The command line `basic [FILE] [--name NAME] [--mode dev|pro] [--debug] [--var NAME=VALUE]...`.
Arguments are read from left to right, and the first one that is wrong, or that asks for the
version, decides.
-/

namespace Gosub

/-- What a command line asks for. -/
inductive Invocation where
  /-- A command line that cannot be followed. -/
  | refused
  | help
  | version
  /-- A run of a program file, or of the standard input. -/
  | run (file : Option String) (options : RunOptions) (initial : List (String × Value))

namespace CommandLine

/-- What the arguments read so far have settled. -/
structure Settings where
  file : Option String := none
  name : Option String := none
  mode : Option ReportMode := none
  debug : Bool := false
  /-- The initial variables, the last one first. -/
  definitions : List (String × String) := []

/-- The name and the value of a variable definition: what stands before and after the first `=`.
-/
def definition? (text : String) : Option (String × String) :=
  match text.toList.dropWhile (· != '=') with
  | [] => none
  | _ :: value =>
    let name := text.toList.takeWhile (· != '=')
    if name.isEmpty then none else some (String.ofList name, String.ofList value)

/-- The options that take a value. -/
inductive Valued where
  | name | mode | var

/-- Enters the value of an option. Only variables can be given more than once. -/
def Settings.enter? (settings : Settings) (option : Valued) (value : String) : Option Settings :=
  match option with
  | .name => if settings.name.isSome then none else some { settings with name := some value }
  | .mode =>
    if settings.mode.isSome then none
    else (ReportMode.ofName? value).map fun mode => { settings with mode := some mode }
  | .var =>
    (definition? value).map fun definition =>
      { settings with definitions := definition :: settings.definitions }

/-- Enters an argument that is no option; there can be one, and it must not be empty. -/
def Settings.enterFile? (settings : Settings) (argument : String) : Option Settings :=
  if settings.file.isSome || argument.isEmpty then none
  else some { settings with file := some argument }

/-- Enters the arguments after `--`, none of which is an option. -/
def Settings.enterFiles? (settings : Settings) : List String → Option Settings
  | [] => some settings
  | argument :: rest => do
    let settings ← settings.enterFile? argument
    settings.enterFiles? rest

/-- What the settings come to once all arguments are read. -/
def Settings.invocation (settings : Settings) : Invocation :=
  .run settings.file
    { name := settings.name.getD "main", mode := settings.mode.getD .pro }
    (settings.definitions.reverse.map fun (name, value) => (name, Value.ofShape value))

/-- An argument by its form. -/
inductive Argument where
  /-- The mark after which nothing is an option. -/
  | terminator
  /-- An option `--name` or `--name=value`. -/
  | long (name : String) (value : Option String)
  /-- Options of one letter each, after a single dash. -/
  | short (letters : List Char)
  | plain (text : String)

/-- Sorts an argument by its form. A lone dash is no option. -/
def Argument.ofString (argument : String) : Argument :=
  match argument.toList with
  | ['-', '-'] => .terminator
  | '-' :: '-' :: text =>
    let value :=
      match text.dropWhile (· != '=') with
      | [] => none
      | _ :: value => some (String.ofList value)
    .long (String.ofList (text.takeWhile (· != '='))) value
  | '-' :: letter :: letters => .short (letter :: letters)
  | _ => .plain argument

/-- The option of a name that takes a value. -/
def valued? (name : String) : Option Valued :=
  if name == "name" then some .name
  else if name == "mode" then some .mode
  else if name == "var" then some .var
  else none

/-- Reads arguments on top of the settings so far. -/
def parseFrom (settings : Settings) : List String → Invocation
  | [] => settings.invocation
  | argument :: rest =>
    match Argument.ofString argument with
    | .terminator =>
      match settings.enterFiles? rest with
      | some settings => settings.invocation
      | none => .refused
    | .plain text =>
      match settings.enterFile? text with
      | some settings => parseFrom settings rest
      | none => .refused
    | .short letters =>
      match letters with
      | 'V' :: _ => .version
      | 'h' :: _ => .help
      | _ => .refused
    | .long name value =>
      match valued? name, value with
      | some option, some value =>
        match settings.enter? option value with
        | some settings => parseFrom settings rest
        | none => .refused
      | some option, none =>
        match rest with
        | [] => .refused
        | value :: rest =>
          match Argument.ofString value with
          | .plain value =>
            match settings.enter? option value with
            | some settings => parseFrom settings rest
            | none => .refused
          | _ => .refused
      | none, some _ => .refused
      | none, none =>
        if name == "version" then .version
        else if name == "help" then .help
        else if name == "debug" && !settings.debug then
          parseFrom { settings with debug := true } rest
        else .refused

/-- What a list of arguments asks for. -/
def parse (arguments : List String) : Invocation :=
  parseFrom {} arguments

/-- The answer to `--version`. -/
def versionText : String :=
  "basic 0.3.0\n"

/-- The answer to `--help`. -/
def helpText : String :=
  "Usage: basic [FILE] [--name NAME] [--mode dev|pro] [--debug] [--var NAME=VALUE]...\n"

end CommandLine

end Gosub
