import BrickControl.Brick.Port
import BrickControl.CommandLine.Syntax

/-!
# Invocations

The options and subcommands of the program, and what a command line that uses them means. Options
of the program may stand before or after the name of the subcommand; after it counts more.
-/
namespace BrickControl.CommandLine

/-- How a report is printed. -/
inductive OutputFormat where
  | json | table | pretty
  deriving DecidableEq, Repr

namespace OutputFormat

def all : List OutputFormat := [.json, .table, .pretty]

def name : OutputFormat → String
  | .json => "json"
  | .table => "table"
  | .pretty => "pretty"

/-- A person at a terminal gets a table, a program gets JSON. -/
def default (terminal : Bool) : OutputFormat := if terminal then .table else .json

end OutputFormat

/-- How log lines are written. -/
inductive LogFormat where
  | text | json
  deriving DecidableEq, Repr

namespace LogFormat

def all : List LogFormat := [.text, .json]

def name : LogFormat → String
  | .text => "text"
  | .json => "json"

end LogFormat

/-- Which log lines are written. -/
inductive LogLevel where
  | off | error | warn | info | debug | trace
  deriving DecidableEq, Repr

namespace LogLevel

def all : List LogLevel := [.off, .error, .warn, .info, .debug, .trace]

def name : LogLevel → String
  | .off => "off"
  | .error => "error"
  | .warn => "warn"
  | .info => "info"
  | .debug => "debug"
  | .trace => "trace"

end LogLevel

/-- A subcommand that talks to a brick. -/
inductive BrickCommand where
  | battery
  | keepalive
  | tone (frequency duration : UInt16)
  | start (name : String)
  | stop
  | program
  | sendMessage (inbox : UInt8) (raw : Bool) (text : String)
  | readMessage (remote inbox : UInt8) (keep : Bool)
  | output (port : OutputPort)
  /-- The readings of an input by its number on the brick. -/
  | input (number : UInt8)
  deriving DecidableEq, Repr

/-- A subcommand. -/
inductive Subcommand where
  | version (extended : Bool)
  | brick (command : BrickCommand)
  deriving DecidableEq, Repr

/-- How to reach the brick. -/
structure Target where
  address : Option String
  usb : Bool
  deriving DecidableEq, Repr

/-- What a command line asks for. The two settings of the log are read and checked as the program
does it, and have no effect on a run, since log lines are not modelled. -/
structure Invocation where
  target : Target
  format : Option OutputFormat
  logFormat : LogFormat
  logLevel : LogLevel
  command : Subcommand
  deriving DecidableEq, Repr

/-- The options that belong to the program and are allowed on both levels. -/
def programOptions : List OptionSpec :=
  [⟨"address", some 'a', .takes .any⟩,
   ⟨"usb", none, .flag⟩,
   ⟨"format", none, .takes (.oneOf (OutputFormat.all.map OutputFormat.name) false)⟩,
   ⟨"log-format", none, .takes (.oneOf (LogFormat.all.map LogFormat.name) false)⟩,
   ⟨"log-level", none, .takes (.oneOf (LogLevel.all.map LogLevel.name) false)⟩,
   ⟨"help", some 'h', .showHelp⟩]

/-- A subcommand's level: its own options and positional arguments, and the program's options. -/
def subcommandLevel (options : List OptionSpec) (positionals : List Positional) : Level :=
  ⟨options ++ programOptions, positionals, []⟩

/-- The letters of the motor ports. -/
def motorPorts : List (String × OutputPort) := [("a", .a), ("b", .b), ("c", .c)]

/-- The subcommands and their levels. -/
def subcommandLevels : List (String × Level) :=
  [("version", subcommandLevel [⟨"extended", none, .flag⟩] []),
   ("battery", subcommandLevel [] []),
   ("keepalive", subcommandLevel [] []),
   ("tone", subcommandLevel
     [⟨"frequency", some 'f', .takes (.number 0 65535)⟩,
      ⟨"duration", some 'd', .takes (.number 0 65535)⟩] []),
   ("start", subcommandLevel [] [⟨"name", .any⟩]),
   ("stop", subcommandLevel [] []),
   ("program", subcommandLevel [] []),
   ("send-message", subcommandLevel
     [⟨"inbox", some 'i', .takes (.number 0 9)⟩, ⟨"raw", none, .flag⟩] [⟨"text", .any⟩]),
   ("read-message", subcommandLevel
     [⟨"remote", some 'r', .takes (.number 0 16)⟩, ⟨"local", some 'l', .takes (.number 0 9)⟩,
      ⟨"keep", none, .flag⟩] []),
   ("output", subcommandLevel [] [⟨"port", .oneOf (motorPorts.map Prod.fst) true⟩]),
   ("input", subcommandLevel [] [⟨"port", .number 1 4⟩])]

/-- The name of the subcommand that explains the others. -/
def helpName : String := "help"

/-- The first level. -/
def programLevel : Level :=
  ⟨programOptions ++ [⟨"version", some 'V', .showVersion⟩], [],
    subcommandLevels.map Prod.fst ++ [helpName]⟩

/-- What asking for help on some subcommand gives: no subcommand has subcommands of its own. -/
def helpOn : List String → UsageError
  | [] => .help
  | [name] => if programLevel.subcommands.contains name then .help else .unknownSubcommand
  | _ => .unknownSubcommand

/-- The arguments of both levels once they are complete. -/
structure Arguments where
  outer : List (String × String)
  inner : List (String × String)

namespace Arguments

/-- The value of an argument; the inner level counts more. -/
def value? (arguments : Arguments) (name : String) : Option String :=
  (arguments.inner.lookup name).or (arguments.outer.lookup name)

/-- Whether a flag is given. -/
def flag (arguments : Arguments) (name : String) : Bool := (arguments.value? name).isSome

/-- The number that an argument gives. -/
def number (arguments : Arguments) (name : String) (otherwise : Nat) : Nat :=
  match (arguments.inner.lookup name).bind parseNumber? with
  | some n => n.toNat
  | none => otherwise

/-- The text that an argument gives. -/
def text (arguments : Arguments) (name : String) : String :=
  (arguments.inner.lookup name).getD ""

/-- The one of these values whose name an argument gives. -/
def named? {α : Type} (arguments : Arguments) (name : String) (all : List α)
    (nameOf : α → String) : Option α :=
  (arguments.value? name).bind fun given => all.find? fun a => nameOf a = given

/-- The subcommand of this name with its arguments. -/
def command (arguments : Arguments) (name : String) : Subcommand :=
  let byte (argument : String) (otherwise : Nat) :=
    UInt8.ofNat (arguments.number argument otherwise)
  let word (argument : String) (otherwise : Nat) :=
    UInt16.ofNat (arguments.number argument otherwise)
  if name = "version" then .version (arguments.flag "extended")
  else if name = "battery" then .brick .battery
  else if name = "keepalive" then .brick .keepalive
  else if name = "tone" then .brick (.tone (word "frequency" 440) (word "duration" 500))
  else if name = "start" then .brick (.start (arguments.text "name"))
  else if name = "stop" then .brick .stop
  else if name = "program" then .brick .program
  else if name = "send-message" then
    .brick (.sendMessage (byte "inbox" 0) (arguments.flag "raw") (arguments.text "text"))
  else if name = "read-message" then
    .brick (.readMessage (byte "remote" 10) (byte "local" 0) (arguments.flag "keep"))
  else if name = "output" then
    .brick (.output ((motorPorts.lookup (lowered (arguments.text "port"))).getD .a))
  else .brick (.input (byte "port" 1))

end Arguments

/-- Reads a command line. An address from the environment counts where no option gives one. -/
def parse (environment : Option String) (line : List String) : Except UsageError Invocation := do
  let (outer, found) ← programLevel.read line {}
  match found with
  | none =>
    let outer ← outer.settle
    if outer.matched.isEmpty && environment.isNone then .error .nothingGiven
    else .error .missingSubcommand
  | some (name, rest) =>
    if name = helpName then .error (helpOn rest)
    let level := (subcommandLevels.lookup name).getD (subcommandLevel [] [])
    let (inner, _) ← level.read rest {}
    let inner ← inner.settle
    if !level.complete inner then .error .missingArgument
    -- A value left pending on the first level is looked at last.
    let outer ← outer.settle
    let arguments : Arguments := ⟨outer.matched, inner.matched⟩
    .ok {
      target := ⟨(arguments.value? "address").or environment, arguments.flag "usb"⟩
      format := arguments.named? "format" OutputFormat.all OutputFormat.name
      logFormat := (arguments.named? "log-format" LogFormat.all LogFormat.name).getD .text
      logLevel := (arguments.named? "log-level" LogLevel.all LogLevel.name).getD .warn
      command := arguments.command name }

end BrickControl.CommandLine
