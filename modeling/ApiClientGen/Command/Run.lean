import ApiClientGen.Command.Plan

/-!
# A run of the command

The whole command as a function of its arguments, of the file system and of the
network: what it prints, how it exits and which file system it leaves.
-/

namespace ApiClientGen
namespace Command

open FileTree (Tree)

/-- What a run prints and how it exits. -/
structure Outcome where
  exitCode : Nat
  output : String
  errors : String
deriving Repr, DecidableEq

/-- The outcome of a run that fails after it has reported something. -/
def Outcome.failed (reported : String) (failure : Failure) : Outcome :=
  ⟨1, "", reported ++ "Error: " ++ failure.report ++ "\n"⟩

/-- The outcome of a run whose arguments are not about generating. -/
def Outcome.ofOptionError : OptionError → Outcome
  | .helpAsked => ⟨0, helpText, ""⟩
  | .versionAsked => ⟨0, commandName ++ " " ++ version ++ "\n", ""⟩
  | error =>
    ⟨2, "", "error: " ++ error.message ++ "\n\nUsage: " ++ commandName ++
      " [OPTIONS] [SOURCE]\n\nFor more information, try '--help'.\n"⟩

/-- The network: what an address gives within a number of seconds. -/
def Network : Type :=
  (seconds : Nat) → (address : String) → Except FetchError String

/-- The network that no address can be reached in. -/
def Network.unreachable : Network :=
  fun _ _ => .error ⟨.answer, ["no network is available"]⟩

def readSource (tree : Tree) (network : Network) (settings : Settings)
    (source : String) : Except Failure String :=
  if isRemote source then
    (network settings.fetchTimeout source).mapError (.notFetched source)
  else
    (FileTree.readText tree source).mapError (.notRead source)

/-- Reads a source and plans what to write. -/
def planFor (tree : Tree) (network : Network) (settings : Settings)
    (source : String) : Except Failure Plan := do
  let text ← readSource tree network settings source
  (Plan.make settings source text).mapError (.notParsed source)

def Plan.carryOut (plan : Plan) (tree : Tree) : Outcome × Tree :=
  let made := FileTree.makeDirectories tree plan.outputDirectory
  match made.error with
  | some cause =>
    (.failed plan.opening (.outputDirectoryNotMade plan.outputDirectory cause),
      made.tree)
  | none =>
    let writing := FileTree.writeFiles plan.outputDirectory made.tree plan.files
    let reported :=
      plan.opening ++ String.join (writing.written.map Plan.wroteLine)
    match writing.error with
    | some error => (.failed reported (.notWritten error), writing.tree)
    | none => (⟨0, "", reported ++ plan.closing⟩, writing.tree)

def Plan.dryOutcome (plan : Plan) : Outcome :=
  ⟨0, plan.listing, plan.preview⟩

/-- Generates a client for a source, or only says what would be written. -/
def generate (tree : Tree) (network : Network) (settings : Settings)
    (dryRun : Bool) (source : String) : Outcome × Tree :=
  match planFor tree network settings source with
  | .error failure => (.failed "" failure, tree)
  | .ok plan => if dryRun then (plan.dryOutcome, tree) else plan.carryOut tree

/-- What is left to do once the arguments are understood. -/
inductive Request where
  /-- Nothing but to print. -/
  | answered (outcome : Outcome)
  /-- To generate a client for a source. -/
  | generation (settings : Settings) (dryRun : Bool) (source : String)

/-- What the arguments ask for.  A request for completions comes before all
others. -/
def Request.ofArguments (arguments : List String) : Request :=
  match parseArguments arguments with
  | .error error => .answered (.ofOptionError error)
  | .ok options =>
    match options.completions, options.source with
    | some _, _ => .answered ⟨0, "", ""⟩
    | none, none => .answered ⟨2, "", usageHint ++ "\n"⟩
    | none, some source => .generation options.settings options.dryRun source

/-- A run of the command.  Unless it is given a network, no address can be
reached in it. -/
def run (arguments : List String) (tree : Tree)
    (network : Network := .unreachable) : Outcome × Tree :=
  match Request.ofArguments arguments with
  | .answered outcome => (outcome, tree)
  | .generation settings dryRun source =>
    generate tree network settings dryRun source

end Command
end ApiClientGen
