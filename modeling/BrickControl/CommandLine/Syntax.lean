/-!
# Command line syntax

A command line is read in two levels: the program's own options up to the name of a subcommand,
then the options and the positional arguments of that subcommand. The value of an option may be
attached to it or follow it; a value that follows is checked when the next argument, or the end,
shows that it is complete. That order decides which of several mistakes is reported.
-/
namespace BrickControl.CommandLine

/-- Why a command line is not run. -/
inductive UsageError where
  | unknownArgument
  /-- A value is missing, or it is none of the names that are allowed. -/
  | invalidValue
  /-- A value is not a number in its range. -/
  | rejectedValue
  /-- An option is given twice on one level. -/
  | repeatedArgument
  | missingArgument
  | missingSubcommand
  | unknownSubcommand
  /-- A flag is given a value. -/
  | unexpectedValue
  /-- The help text is asked for. -/
  | help
  /-- The version is asked for. -/
  | version
  /-- Nothing at all is given. -/
  | nothingGiven
  deriving DecidableEq, Repr

/-- Asking for help or for the version is a success; anything else is not. -/
def UsageError.exitCode : UsageError → Nat
  | .help | .version => 0
  | _ => 2

/-- The values that an argument takes. -/
inductive ValueRule where
  | any
  | oneOf (names : List String) (ignoreCase : Bool)
  | number (low high : Nat)

/-- The number that a text spells in decimal digits, with a sign if there is one. -/
def parseNumber? (text : String) : Option Int :=
  let digits? (cs : List Char) : Option Nat :=
    if cs.isEmpty || !cs.all (fun c => '0' ≤ c && c ≤ '9') then none
    else some (cs.foldl (fun n c => 10 * n + (c.toNat - 48)) 0)
  match text.toList with
  | '+' :: cs => (digits? cs).map Int.ofNat
  | '-' :: cs => (digits? cs).map fun n => -Int.ofNat n
  | cs => (digits? cs).map Int.ofNat

/-- A text with the letters from A to Z made small. -/
def lowered (text : String) : String := String.ofList (text.toList.map Char.toLower)

/-- Checks a value. -/
def ValueRule.check (rule : ValueRule) (value : String) : Except UsageError Unit :=
  match rule with
  | .any => .ok ()
  | .oneOf names ignoreCase =>
    if names.contains (if ignoreCase then lowered value else value) then .ok ()
    else .error .invalidValue
  | .number low high =>
    match parseNumber? value with
    | some n => if (low : Int) ≤ n ∧ n ≤ high then .ok () else .error .rejectedValue
    | none => .error .rejectedValue

/-- What an option asks for. -/
inductive OptionRole where
  | flag
  | takes (rule : ValueRule)
  | showHelp
  | showVersion

/-- An option with its long name and, if it has one, its letter. -/
structure OptionSpec where
  long : String
  short : Option Char
  role : OptionRole

/-- A positional argument. -/
structure Positional where
  name : String
  rule : ValueRule

/-- The arguments of one level. -/
structure Level where
  options : List OptionSpec
  positionals : List Positional
  /-- The names that end this level. -/
  subcommands : List String

/-- A value that is not yet known to be complete. -/
structure Pending where
  name : String
  rule : ValueRule
  value : Option String

/-- How far a level was read. -/
structure Progress where
  /-- The arguments that are complete, each with its value. -/
  matched : List (String × String) := []
  pending : Option Pending := none
  /-- The number of positional arguments seen. -/
  position : Nat := 0
  /-- Everything that follows is positional. -/
  trailing : Bool := false

namespace Progress

/-- Adds an argument, which must not be there yet. -/
def add (progress : Progress) (name value : String) (rule : ValueRule) :
    Except UsageError Progress :=
  if (progress.matched.lookup name).isSome then .error .repeatedArgument
  else match rule.check value with
    | .ok () => .ok { progress with matched := progress.matched ++ [(name, value)] }
    | .error e => .error e

/-- Completes the value that is pending. -/
def settle (progress : Progress) : Except UsageError Progress :=
  match progress.pending with
  | none => .ok progress
  | some ⟨_, _, none⟩ => .error .invalidValue
  | some ⟨name, rule, some value⟩ => { progress with pending := none }.add name value rule

/-- An option still waits for its value. -/
def awaitsValue (progress : Progress) : Bool :=
  match progress.pending with
  | some ⟨_, _, none⟩ => true
  | _ => false

/-- Takes an option, with the value attached to it if there is one. -/
def takeOption (progress : Progress) (spec : OptionSpec) (attached : Option String) :
    Except UsageError Progress :=
  match spec.role, attached with
  | .takes rule, none => do
    let progress ← progress.settle
    .ok { progress with pending := some ⟨spec.long, rule, none⟩ }
  | .takes rule, some value => do
    let progress ← progress.settle
    progress.add spec.long value rule
  | _, some _ => .error .unexpectedValue
  | .flag, none => do
    let progress ← progress.settle
    progress.add spec.long "true" .any
  | .showHelp, none => do
    let _ ← progress.settle
    .error .help
  | .showVersion, none => do
    let _ ← progress.settle
    .error .version

/-- Takes an option by its long name, with its value behind the first equals sign. -/
def takeLong (progress : Progress) (level : Level) (body : List Char) :
    Except UsageError Progress :=
  let name := String.ofList (body.takeWhile (· ≠ '='))
  let attached := match body.dropWhile (· ≠ '=') with
    | [] => none
    | _ :: value => some (String.ofList value)
  match level.options.find? (fun spec => spec.long = name) with
  | some spec => progress.takeOption spec attached
  | none => .error .unknownArgument

/-- Takes options by their letters. The first one that takes a value has the rest as its value. -/
def takeShort (level : Level) : List Char → Progress → Except UsageError Progress
  | [], progress => .ok progress
  | letter :: rest, progress =>
    match level.options.find? (fun spec => spec.short = some letter) with
    | none => .error .unknownArgument
    | some spec =>
      match spec.role, rest with
      | .takes _, [] => progress.takeOption spec none
      | .takes _, '=' :: value => progress.takeOption spec (some (String.ofList value))
      | .takes _, value => progress.takeOption spec (some (String.ofList value))
      | _, _ =>
        match progress.takeOption spec none with
        | .ok progress => takeShort level rest progress
        | .error e => .error e

/-- Takes a positional argument. -/
def takePositional (progress : Progress) (level : Level) (argument : String) :
    Except UsageError Progress :=
  match level.positionals[progress.position]? with
  | some spec => do
    let progress ← progress.settle
    .ok { progress with
      pending := some ⟨spec.name, spec.rule, some argument⟩, position := progress.position + 1 }
  | none =>
    -- One too many: the pending value is not looked at any more.
    if level.subcommands.isEmpty || (progress.trailing && level.subcommands.contains argument) then
      .error .unknownArgument
    else .error .unknownSubcommand

/-- Takes one argument that is not the name of a subcommand. -/
def take (progress : Progress) (level : Level) (argument : String) : Except UsageError Progress :=
  if progress.trailing then progress.takePositional level argument
  else match argument.toList with
    | ['-', '-'] => .ok { progress with trailing := true }
    | '-' :: '-' :: body => progress.takeLong level body
    | '-' :: letter :: letters => takeShort level (letter :: letters) progress
    | _ =>
      match progress.pending with
      | some ⟨name, rule, none⟩ =>
        .ok { progress with pending := some ⟨name, rule, some argument⟩ }
      | _ => progress.takePositional level argument

end Progress

/-- Reads one level, up to the name of a subcommand if one comes; with the name comes what follows
it. -/
def Level.read (level : Level) :
    List String → Progress → Except UsageError (Progress × Option (String × List String))
  | [], progress => .ok (progress, none)
  | argument :: rest, progress =>
    if !progress.trailing && !progress.awaitsValue && level.subcommands.contains argument then
      .ok (progress, some (argument, rest))
    else match progress.take level argument with
      | .ok progress => Level.read level rest progress
      | .error e => .error e

/-- All positional arguments are there. -/
def Level.complete (level : Level) (progress : Progress) : Bool :=
  level.positionals.all fun spec => (progress.matched.lookup spec.name).isSome

end BrickControl.CommandLine
