import ApiClientGen.Json.NumberReader
import ApiClientGen.Text.Blank

/-!
# Options

The arguments of the command.  They are taken from left to right; a value that
stands apart from its option is judged only when the next option or the source
is taken in, or at the end.
-/

namespace ApiClientGen
namespace Command

/-- The shells that completions can be asked for. -/
inductive Shell where
  | bash
  | elvish
  | fish
  | powershell
  | zsh
deriving Repr, DecidableEq

namespace Shell

def all : List Shell :=
  [.bash, .elvish, .fish, .powershell, .zsh]

def name : Shell → String
  | .bash => "bash"
  | .elvish => "elvish"
  | .fish => "fish"
  | .powershell => "powershell"
  | .zsh => "zsh"

def ofName? (name : String) : Option Shell :=
  all.find? (·.name == name)

end Shell

/-- What the arguments ask for. -/
structure Options where
  source : Option String
  output : String
  timeout : Nat
  noBaseClient : Bool
  dryRun : Bool
  completions : Option Shell
deriving Repr, DecidableEq

/-- The time in seconds after which fetching is given up. -/
def defaultTimeout : Nat := 30

def Options.default : Options :=
  { source := none
    output := "."
    timeout := defaultTimeout
    noBaseClient := false
    dryRun := false
    completions := none }

/-- What generation needs to know. -/
structure Settings where
  outputRoot : String
  baseClient : Bool
  readme : Bool
  fetchTimeout : Nat
deriving Repr, DecidableEq

def Options.settings (options : Options) : Settings :=
  { outputRoot := options.output
    baseClient := !options.noBaseClient
    readme := true
    fetchTimeout := options.timeout }

/-- An option that takes a value. -/
inductive ValueOption where
  | output
  | timeout
  | completions
deriving Repr, DecidableEq

/-- An option as it is shown, with the name of its value. -/
def ValueOption.usage : ValueOption → String
  | .output => "--output <OUTPUT>"
  | .timeout => "--timeout <TIMEOUT>"
  | .completions => "--completions <SHELL>"

/-- An option without a value. -/
inductive Switch where
  | noBaseClient
  | dryRun
  | help
  | version
deriving Repr, DecidableEq

def Switch.usage : Switch → String
  | .noBaseClient => "--no-base-client"
  | .dryRun => "--dry-run"
  | .help => "--help"
  | .version => "--version"

inductive AnyOption where
  | value (option : ValueOption)
  | switch (option : Switch)
deriving Repr, DecidableEq

def longOption? (name : String) : Option AnyOption :=
  match name with
  | "output" => some (.value .output)
  | "timeout" => some (.value .timeout)
  | "completions" => some (.value .completions)
  | "no-base-client" => some (.switch .noBaseClient)
  | "dry-run" => some (.switch .dryRun)
  | "help" => some (.switch .help)
  | "version" => some (.switch .version)
  | _ => none

def shortOption? (letter : Char) : Option AnyOption :=
  match letter with
  | 'o' => some (.value .output)
  | 'h' => some (.switch .help)
  | 'V' => some (.switch .version)
  | _ => none

/-- Why a text is not a whole number of 64 bits. -/
inductive NumberError where
  | empty
  | invalidDigit
  | tooLarge
deriving Repr, DecidableEq

def NumberError.message : NumberError → String
  | .empty => "cannot parse integer from empty string"
  | .invalidDigit => "invalid digit found in string"
  | .tooLarge => "number too large to fit in target type"

/-- Why arguments are not understood, or are not about generating a client. -/
inductive OptionError where
  | unknownArgument (argument : String)
  | missingValue (option : ValueOption)
  | unknownShell (value : String)
  | invalidTimeout (value : String) (cause : NumberError)
  | repeated (usage : String)
  | unexpectedValue (switch : Switch) (value : String)
  | helpAsked
  | versionAsked
deriving Repr, DecidableEq

def OptionError.message : OptionError → String
  | .unknownArgument argument =>
    "unexpected argument '" ++ argument ++ "' found"
  | .missingValue option =>
    "a value is required for '" ++ option.usage ++ "' but none was supplied"
  | .unknownShell value =>
    "invalid value '" ++ value ++ "' for '" ++
      ValueOption.completions.usage ++ "'"
  | .invalidTimeout value cause =>
    "invalid value '" ++ value ++ "' for '" ++ ValueOption.timeout.usage ++
      "': " ++ cause.message
  | .repeated usage =>
    "the argument '" ++ usage ++ "' cannot be used multiple times"
  | .unexpectedValue switch value =>
    "unexpected value '" ++ value ++ "' for '" ++ switch.usage ++
      "' found; no more were expected"
  | .helpAsked => "help"
  | .versionAsked => "version"

/-- Reads the digits of a whole number of 64 bits behind those that gave
`value`. -/
def readDigits (value : Nat) : List Char → Except NumberError Nat
  | [] => .ok value
  | c :: rest =>
    if Text.isAsciiDigit c then
      let next := value * 10 + Json.digitValue c
      if next > Json.maxWord then .error .tooLarge else readDigits next rest
    else .error .invalidDigit

/-- Reads a whole number of 64 bits, with an optional plus sign. -/
def readTimeout (value : String) : Except NumberError Nat :=
  match value.toList with
  | [] => .error .empty
  | ['+'] => .error .invalidDigit
  | '+' :: digits => readDigits 0 digits
  | digits => readDigits 0 digits

/-- How far the arguments have been taken in: the options so far, those already
given, and an option whose value stands apart and is not judged yet, with the
value if it has been seen. -/
structure Progress where
  options : Options
  given : List AnyOption
  pending : Option (ValueOption × Option String)
deriving Repr

def Progress.start : Progress :=
  ⟨Options.default, [], none⟩

/-- Takes in the value of an option, which must not have been given before. -/
def Progress.setValue (progress : Progress) (option : ValueOption)
    (value : String) : Except OptionError Progress :=
  let given := .value option :: progress.given
  if progress.given.contains (.value option) then
    .error (.repeated option.usage)
  else
    match option with
    | .output =>
      if value = "" then .error (.missingValue .output)
      else
        .ok { progress with
          options := { progress.options with output := value }, given := given }
    | .timeout =>
      match readTimeout value with
      | .ok seconds =>
        .ok { progress with
          options := { progress.options with timeout := seconds },
          given := given }
      | .error cause => .error (.invalidTimeout value cause)
    | .completions =>
      if value = "" then .error (.missingValue .completions)
      else
        match Shell.ofName? value with
        | some shell =>
          .ok { progress with
            options := { progress.options with completions := some shell },
            given := given }
        | none => .error (.unknownShell value)

/-- Judges the option that is pending. -/
def Progress.settle (progress : Progress) : Except OptionError Progress :=
  match progress.pending with
  | none => .ok progress
  | some (option, none) => .error (.missingValue option)
  | some (option, some value) =>
    { progress with pending := none }.setValue option value

/-- Takes in a switch, which must not have been given before. -/
def Progress.setSwitch (progress : Progress) (switch : Switch) :
    Except OptionError Progress :=
  let given := .switch switch :: progress.given
  if progress.given.contains (.switch switch) then
    .error (.repeated switch.usage)
  else
    match switch with
    | .help => .error .helpAsked
    | .version => .error .versionAsked
    | .noBaseClient =>
      .ok { progress with
        options := { progress.options with noBaseClient := true },
        given := given }
    | .dryRun =>
      .ok { progress with
        options := { progress.options with dryRun := true }, given := given }

/-- Takes in an option with the value that is attached to it, if any. -/
def Progress.takeOption (progress : Progress) (option : AnyOption)
    (attached : Option String) : Except OptionError Progress :=
  match option, attached with
  | .switch switch, some value => .error (.unexpectedValue switch value)
  | .switch switch, none => do
    let settled ← progress.settle
    settled.setSwitch switch
  | .value option, some value => do
    let settled ← progress.settle
    settled.setValue option value
  | .value option, none => do
    let settled ← progress.settle
    .ok { settled with pending := some (option, none) }

/-- Takes in an argument behind its two hyphens. -/
def Progress.takeLong (progress : Progress) (body : List Char) :
    Except OptionError Progress :=
  let name := String.ofList (body.takeWhile (· != '='))
  let attached :=
    match body.dropWhile (· != '=') with
    | [] => none
    | _ :: value => some (String.ofList value)
  match longOption? name with
  | some option => progress.takeOption option attached
  | none => .error (.unknownArgument ("--" ++ name))

/-- Takes in an argument behind its one hyphen: a letter and the value attached
to it. -/
def Progress.takeShort (progress : Progress) :
    List Char → Except OptionError Progress
  | [] => .ok progress
  | letter :: rest =>
    match shortOption? letter with
    | none => .error (.unknownArgument ("-" ++ String.singleton letter))
    | some (.switch switch) => progress.takeOption (.switch switch) none
    | some (.value option) =>
      match rest with
      | [] => progress.takeOption (.value option) none
      | '=' :: value =>
        progress.takeOption (.value option) (some (String.ofList value))
      | value =>
        progress.takeOption (.value option) (some (String.ofList value))

/-- Takes in the source.  There is only one. -/
def Progress.takeSource (progress : Progress) (source : String) :
    Except OptionError Progress :=
  if progress.options.source.isSome then .error (.unknownArgument source)
  else do
    let settled ← progress.settle
    .ok { settled with
      options := { settled.options with source := some source } }

/-- Takes in the arguments behind `--`, none of which is an option. -/
def Progress.takeSources (progress : Progress) :
    List String → Except OptionError Progress
  | [] => .ok progress
  | source :: rest => do
    let next ← progress.takeSource source
    next.takeSources rest

def Progress.takeAll (progress : Progress) :
    List String → Except OptionError Progress
  | [] => .ok progress
  | argument :: rest =>
    match argument.toList with
    | ['-', '-'] => progress.takeSources rest
    | '-' :: '-' :: body => do
      let next ← progress.takeLong body
      next.takeAll rest
    | '-' :: letter :: body => do
      let next ← progress.takeShort (letter :: body)
      next.takeAll rest
    | _ =>
      match progress.pending with
      | some (option, none) =>
        { progress with pending := some (option, some argument) }.takeAll rest
      | _ => do
        let next ← progress.takeSource argument
        next.takeAll rest

def parseArguments (arguments : List String) : Except OptionError Options := do
  let progress ← Progress.start.takeAll arguments
  let settled ← progress.settle
  .ok settled.options

end Command
end ApiClientGen
