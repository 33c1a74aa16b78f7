import ModContracts.CommandLine.Options
import ModContracts.Config.Discovery
import ModContracts.Report
import ModContracts.Round
import ModContracts.Snapshot.Json
import ModContracts.Snapshot.Load

/-!
# Runs

A run takes the settings, loads a snapshot, and either checks or lists its declarations.

* `RunFault` — why a run has no result, with the `chain` of its causes;
* `loadFile`, `checkFile`, `inspectFile` — the steps of a run;
* `Options.run` — a run; `respond` — what the program answers to some arguments.
-/

namespace ModContracts.CommandLine

/-! ## Faults -/

/-- Why a run has no result. -/
inductive RunFault where
  /-- The settings file that was named has none. -/
  | namedConfig (path : String) (error : ConfigError)
  /-- The settings file beside the snapshot has none. -/
  | foundConfig (error : ConfigError)
  | unreadable (path : String) (error : FileError)
  | malformed (path : String) (problem : Json.Problem)
  | unloadable (path : String) (error : LoadError)
  /-- The framework is not in the program. -/
  | unprepared (path : String) (fault : CheckFault)
  | aborted (path : String) (fault : CheckFault)
  | uninspected (fault : CheckFault)
  deriving DecidableEq, Repr

/-- What went wrong, and its causes from the nearest to the first. -/
def RunFault.chain : RunFault → List String
  | .namedConfig path error => [s!"Error reading config '{path}'", error.message]
  | .foundConfig error => [error.message]
  | .unreadable path error =>
    [s!"Error reading snapshot '{path}'", s!"failed to read snapshot {path}", error.message]
  | .malformed path problem =>
    [s!"Error reading snapshot '{path}'", s!"malformed snapshot: {problem.message}"]
  | .unloadable path error => [s!"Failed to load snapshot '{path}'", error.message]
  | .unprepared path fault => [s!"Cannot check '{path}'", fault.message]
  | .aborted path fault => [s!"Validation of '{path}' aborted", fault.message]
  | .uninspected fault => ["Failed to inspect snapshot", fault.message]

/-- A fault with its causes, line by line. Several causes are numbered. -/
def RunFault.text (fault : RunFault) : String :=
  match fault.chain with
  | [] => ""
  | [only] => s!"Error: {only}"
  | [outer, cause] => s!"Error: {outer}\n\nCaused by:\n    {cause}"
  | outer :: causes =>
    let numbered := causes.mapIdx fun i cause => s!"    {i}: {cause}"
    s!"Error: {outer}\n\nCaused by:\n" ++ "\n".intercalate numbered

/-! ## Steps -/

section

variable {m : Type → Type} [Monad m] (files : Files m)

/-- The program of the snapshot in a file. -/
def loadFile (path : String) : ExceptT RunFault m Program := do
  match ← files.read path with
  | .error error => throw (.unreadable path error)
  | .ok text =>
    match Snapshot.ofJson text with
    | .error problem => throw (.malformed path problem)
    | .ok snapshot =>
      match snapshot.load with
      | .error error => throw (.unloadable path error)
      | .ok p => return p

/-- A snapshot that was checked. -/
structure Checked where
  program : Program
  summary : RoundSummary
  diagnostics : Diagnostics

/-- Checks the snapshot in a file. -/
def checkFile (path : String) (profile : Profile) : ExceptT RunFault m Checked := do
  let p ← loadFile files path
  match round p profile with
  | .error fault => throw (.unprepared path fault)
  | .ok (.error fault, _) => throw (.aborted path fault)
  | .ok (.ok summary, diagnostics) => return ⟨p, summary, diagnostics⟩

/-- Lists the tagged declarations of the snapshot in a file. -/
def inspectFile (path : String) (profile : Profile) : ExceptT RunFault m (List Listing) := do
  let p ← loadFile files path
  match inspect p profile with
  | .error fault => throw (.uninspected fault)
  | .ok listings => return listings

end

/-! ## Runs -/

/-- How the program ends. -/
inductive Ending where
  | regular (status : Status)
  /-- In the middle of its reports, at one that cannot be shown. -/
  | broken
  deriving DecidableEq, Repr

/-- The exit code of the program. -/
def Ending.exitCode : Ending → UInt8
  | .regular status => status.exitCode
  | .broken => 101

/-- What a run tells. -/
structure Outcome where
  /-- The results, each on lines of its own. -/
  results : List String
  /-- What is told only on request. -/
  notes : List String
  ending : Ending
  deriving DecidableEq, Repr

namespace Options

variable {m : Type → Type} [Monad m] (files : Files m)

/-- The settings of a run: what the options say comes before what a file says. A release that is
named drops the package root of the file. -/
def settle (o : Options) (c : Config) : Config where
  release := o.release?.getD c.release
  package? := o.package?.or (if o.release?.isSome then none else c.package?)
  denyWarnings := c.denyWarnings || o.denyWarnings
  color := c.color && ! o.noColor

/-- The directory of the snapshot. -/
def directory (o : Options) : String :=
  (Path.parent? o.input).getD "."

/-- The settings of a run. -/
def config (o : Options) : ExceptT RunFault m Config := do
  match o.config? with
  | some path =>
    match ← (Config.read files path : m _) with
    | .ok c => return o.settle c
    | .error error => throw (.namedConfig path error)
  | none =>
    match ← (Config.discover files o.directory : m _) with
    | .ok c => return o.settle c
    | .error error => throw (.foundConfig error)

/-- A run. -/
def run (o : Options) : ExceptT RunFault m Outcome := do
  let config ← o.config files
  let chosen := s!"using framework package {config.profile.root}"
  if o.inspect then
    let listings ← inspectFile files o.input config.profile
    return {
      results := listings.map Listing.text ++ [s!"{listings.length} tagged declaration(s)"]
      notes := [chosen]
      ending := .regular .clean }
  else
    let checked ← checkFile files o.input config.profile
    let (reports, complete) ←
      (Diagnostics.reports files config.color o.directory checked.program checked.diagnostics : m _)
    let { tags, checked := pairs } := checked.summary
    let notes := [chosen, s!"round finished: {tags} tags, {pairs} declarations"]
    if complete then
      return {
        results := reports ++ [Diagnostics.summary checked.diagnostics]
        notes
        ending := .regular (.ofDiagnostics checked.diagnostics config.denyWarnings) }
    else return { results := reports, notes, ending := .broken }

end Options

/-! ## Replies -/

/-- The name and version of the program. -/
def versionLine : String := "forgecheck 0.1.0-alpha.1"

/-- How the program is used. -/
def usageLines : List String :=
  ["Usage: forgecheck [OPTIONS] --input <INPUT>",
    "",
    "Options:",
    "  -i, --input <INPUT>      Program snapshot to check (JSON)",
    "  -c, --config <CONFIG>    Settings file (default: forgecheck.toml beside the snapshot)",
    "  -p, --profile <PROFILE>  Framework release: forge-1.7 or forge-1.8",
    "      --package <PACKAGE>  Package root of a repackaged framework",
    "      --deny-warnings      Fail on warnings as well as errors",
    "      --no-color           Report without colours",
    "      --inspect            List tagged declarations, and check nothing",
    "  -v, --verbose            Tell more",
    "  -h, --help               Show this text",
    "  -V, --version            Show the version"]

/-- What the program answers. -/
structure Reply where
  output : List String
  errors : List String
  ending : Ending
  fault? : Option RunFault := none
  deriving DecidableEq, Repr

/-- What the program answers to some arguments. Arguments that make no request end it like a
fault. -/
def respond {m : Type → Type} [Monad m] (files : Files m) (arguments : List String) : m Reply := do
  match Request.ofArguments arguments with
  | .error error =>
    return { output := [], errors := [s!"error: {error.message}"], ending := .regular .fault }
  | .ok .help => return { output := usageLines, errors := [], ending := .regular .clean }
  | .ok .version => return { output := [versionLine], errors := [], ending := .regular .clean }
  | .ok (.run options) =>
    match ← (options.run files).run with
    | .ok outcome =>
      let notes := if options.verbosity = 0 then [] else outcome.notes
      let stop := if outcome.ending = .broken then ["error: a location cuts a character"] else []
      return { output := outcome.results, errors := notes ++ stop, ending := outcome.ending }
    | .error fault =>
      return {
        output := [], errors := [fault.text], ending := .regular .fault, fault? := some fault }

/-- The text on standard output: every result is followed by the end of a line. -/
def Reply.outputText (r : Reply) : String :=
  String.join (r.output.map (· ++ "\n"))

/-- The text on standard error. -/
def Reply.errorText (r : Reply) : String :=
  String.join (r.errors.map (· ++ "\n"))

end ModContracts.CommandLine
