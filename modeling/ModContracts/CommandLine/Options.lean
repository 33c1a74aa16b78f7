import ModContracts.Profile

/-!
# Options

What a run is told on the command line.

* `Options` — what a run is told; `Request` — a run, or a question about the program;
* `UsageError` — why arguments make no request, with its `message`;
* `Request.ofArguments` — the request of some arguments.

Arguments are taken in order, and the first that cannot be taken decides. A value is written
`--input FILE`, `--input=FILE`, `-i FILE`, `-iFILE` or `-i=FILE`, and letters may stand together
behind one dash. Names are not cut short, and only `-v` may be repeated.
-/

namespace ModContracts.CommandLine

/-! ## Requests -/

/-- What a run is told. -/
structure Options where
  /-- The snapshot to check. -/
  input : String := ""
  /-- The settings file; without one, that beside the snapshot. -/
  config? : Option String := none
  release? : Option Release := none
  package? : Option String := none
  denyWarnings : Bool := false
  noColor : Bool := false
  /-- Whether declarations are listed and not checked. -/
  inspect : Bool := false
  /-- How much is told besides the results. -/
  verbosity : Nat := 0
  deriving DecidableEq, Repr

/-- What arguments ask for. -/
inductive Request where
  | run (options : Options)
  | help
  | version
  deriving DecidableEq, Repr

/-- An option. -/
inductive Flag where
  | input
  | config
  | profile
  | package
  | denyWarnings
  | noColor
  | inspect
  | verbose
  | help
  | version
  deriving DecidableEq, Repr

namespace Flag

/-- Every option. -/
def all : List Flag :=
  [.input, .config, .profile, .package, .denyWarnings, .noColor, .inspect, .verbose, .help,
    .version]

/-- The name of an option behind two dashes. -/
def name : Flag → String
  | .input => "input"
  | .config => "config"
  | .profile => "profile"
  | .package => "package"
  | .denyWarnings => "deny-warnings"
  | .noColor => "no-color"
  | .inspect => "inspect"
  | .verbose => "verbose"
  | .help => "help"
  | .version => "version"

/-- The letter of an option behind one dash. -/
def letter? : Flag → Option Char
  | .input => some 'i'
  | .config => some 'c'
  | .profile => some 'p'
  | .verbose => some 'v'
  | .help => some 'h'
  | .version => some 'V'
  | .package | .denyWarnings | .noColor | .inspect => none

/-- Whether an option has a value. -/
def takesValue : Flag → Bool
  | .input | .config | .profile | .package => true
  | _ => false

/-- The option of a name. -/
def ofName? (name : String) : Option Flag :=
  all.find? (·.name = name)

/-- The option of a letter. -/
def ofLetter? (letter : Char) : Option Flag :=
  all.find? (·.letter? = some letter)

end Flag

/-! ## Errors -/

/-- Why arguments make no request. -/
inductive UsageError where
  | unknownOption (word : String)
  | unexpectedArgument (word : String)
  | missingValue (flag : Flag)
  | unwantedValue (flag : Flag)
  | repeated (flag : Flag)
  | unknownProfile (name : String)
  | missingInput
  deriving DecidableEq, Repr

/-- The text of a usage error. -/
def UsageError.message : UsageError → String
  | .unknownOption word => s!"unknown option `{word}`"
  | .unexpectedArgument word => s!"unexpected argument `{word}`"
  | .missingValue flag => s!"option `--{flag.name}` needs a value"
  | .unwantedValue flag => s!"option `--{flag.name}` has no value"
  | .repeated flag => s!"option `--{flag.name}` is given more than once"
  | .unknownProfile name => Release.unknownMessage name
  | .missingInput => "option `--input` is missing"

/-- Why no further argument is taken. -/
inductive Stop where
  | usage (error : UsageError)
  /-- A question that is answered whatever follows it. -/
  | question (request : Request)
  deriving DecidableEq, Repr

/-! ## Arguments -/

/-- Arguments taken so far. -/
structure Draft where
  options : Options := {}
  /-- The options given. -/
  given : List Flag := []
  /-- An option whose value is the next argument. -/
  awaiting? : Option Flag := none
  /-- Whether the mark was met behind which no option may stand. -/
  closed : Bool := false
  deriving DecidableEq, Repr

namespace Draft

/-- Notes an option that may be given once. -/
def note (d : Draft) (flag : Flag) : Except Stop Draft :=
  if flag ∈ d.given then .error (.usage (.repeated flag))
  else .ok { d with given := flag :: d.given }

/-- Takes the path of a file. -/
def filePath (flag : Flag) (value : String) : Except Stop String :=
  if value.isEmpty then .error (.usage (.missingValue flag)) else .ok value

/-- Takes an option with its value. -/
def setValue (d : Draft) (flag : Flag) (value : String) : Except Stop Draft := do
  let d ← d.note flag
  match flag with
  | .input => return { d with options.input := ← filePath flag value }
  | .config => return { d with options.config? := some (← filePath flag value) }
  | .profile =>
    match Release.ofName? value with
    | some release => return { d with options.release? := some release }
    | none => throw (.usage (.unknownProfile value))
  | _ => return { d with options.package? := some value }

/-- Takes an option without a value. -/
def raise (d : Draft) (flag : Flag) : Except Stop Draft := do
  match flag with
  | .help => throw (.question .help)
  | .version => throw (.question .version)
  | .verbose => return { d with options.verbosity := d.options.verbosity + 1 }
  | .denyWarnings => return { ← d.note flag with options.denyWarnings := true }
  | .noColor => return { ← d.note flag with options.noColor := true }
  | _ => return { ← d.note flag with options.inspect := true }

/-- Takes an option by its name, with the text behind an equals sign if there is one. -/
def takeName (d : Draft) (name : String) (value? : Option String) : Except Stop Draft :=
  match Flag.ofName? name with
  | none => .error (.usage (.unknownOption name))
  | some flag =>
    match flag.takesValue, value? with
    | true, some value => d.setValue flag value
    | true, none => .ok { d with awaiting? := some flag }
    | false, some _ => .error (.usage (.unwantedValue flag))
    | false, none => d.raise flag

/-- Takes options by their letters. Behind the letter of an option with a value stands the value. -/
def takeLetters (d : Draft) : List Char → Except Stop Draft
  | [] => .ok d
  | letter :: rest =>
    match Flag.ofLetter? letter with
    | none => .error (.usage (.unknownOption letter.toString))
    | some flag =>
      if flag.takesValue then
        match rest with
        | [] => .ok { d with awaiting? := some flag }
        | '=' :: value | value => d.setValue flag (String.ofList value)
      else do
        let d ← d.raise flag
        d.takeLetters rest

/-- Takes an argument that begins with a dash. -/
def takeDashed (d : Draft) (word : List Char) : Except Stop Draft :=
  match word with
  | '-' :: long =>
    let value? := match long.dropWhile (· ≠ '=') with
      | _ :: value => some (String.ofList value)
      | [] => none
    d.takeName (String.ofList (long.takeWhile (· ≠ '='))) value?
  | letters => d.takeLetters letters

/-- Takes an argument. -/
def take (d : Draft) (argument : String) : Except Stop Draft :=
  if d.closed then .error (.usage (.unexpectedArgument argument))
  else
    match argument.toList, d.awaiting? with
    | '-' :: _ :: _, some flag => .error (.usage (.missingValue flag))
    | ['-', '-'], none => .ok { d with closed := true }
    | '-' :: c :: rest, none => d.takeDashed (c :: rest)
    | _, some flag => { d with awaiting? := none }.setValue flag argument
    | _, none => .error (.usage (.unexpectedArgument argument))

/-- The run that is asked for when there are no more arguments. -/
def finish (d : Draft) : Except Stop Request :=
  match d.awaiting? with
  | some flag => .error (.usage (.missingValue flag))
  | none =>
    if .input ∈ d.given then .ok (.run d.options) else .error (.usage .missingInput)

end Draft

/-- The request of some arguments. -/
def Request.ofArguments (arguments : List String) : Except UsageError Request :=
  match arguments.foldlM Draft.take ({} : Draft) >>= Draft.finish with
  | .ok request | .error (.question request) => .ok request
  | .error (.usage error) => .error error

end ModContracts.CommandLine
