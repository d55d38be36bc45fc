import Framecast.Command.Report

/-!
# Arguments

The command line: global options, a subcommand, and its options and path. A word that starts with
two hyphens is an option, until `--` says that only plain words follow. The value of an option, and
a plain word, are looked at only when the next one comes or the level ends; so an unknown word is
told before a bad value in front of it, and an error inside a subcommand before one in front of the
subcommand.
-/

namespace Framecast.Command

/-- Why arguments were not accepted, or what was asked for instead of a command. -/
inductive UsageError where
  /-- Help on a subcommand, or on the whole command line. -/
  | displayHelp (topic : Option String)
  | displayVersion
  | displayHelpOnMissingArgumentOrSubcommand
  | missingRequiredArgument
  | missingSubcommand
  | invalidValue
  | valueValidation
  | unknownArgument
  | argumentConflict
  | invalidSubcommand
  | tooManyValues
  deriving DecidableEq, Repr

/-- The exit code: asking for help or for the version is no failure. -/
def UsageError.exitCode : UsageError → Nat
  | .displayHelp _ | .displayVersion => 0
  | _ => 2

/-- The class of a usage error, by the name that the argument parser gives it. -/
def UsageError.name : UsageError → String
  | displayHelp _ => "DisplayHelp"
  | displayVersion => "DisplayVersion"
  | displayHelpOnMissingArgumentOrSubcommand => "DisplayHelpOnMissingArgumentOrSubcommand"
  | missingRequiredArgument => "MissingRequiredArgument"
  | missingSubcommand => "MissingSubcommand"
  | invalidValue => "InvalidValue"
  | valueValidation => "ValueValidation"
  | unknownArgument => "UnknownArgument"
  | argumentConflict => "ArgumentConflict"
  | invalidSubcommand => "InvalidSubcommand"
  | tooManyValues => "TooManyValues"

/-- What the value of an option may be. -/
inductive ValueKind where
  | text
  | path
  | number (bound : Nat)
  /-- A number of which zero may have a minus sign. -/
  | signedNumber (bound : Nat)
  | choice (names : List String)
  deriving DecidableEq, Repr

namespace ValueKind

/-- Whether the value is a zero with a minus sign, which is a number like zero. -/
def isMinusZero (value : String) : Bool :=
  match value.toList with
  | '-' :: digits => !digits.isEmpty && digits.all (· == '0')
  | _ => false

/-- Whether a value is one of its kind, and what is reported if it is not. -/
def check (value : String) : ValueKind → Except UsageError Unit
  | text => .ok ()
  | path => if value.isEmpty then .error .invalidValue else .ok ()
  | number bound =>
    if (Text.bounded? bound value.toList).isSome then .ok () else .error .valueValidation
  | signedNumber bound =>
    if isMinusZero value || (Text.bounded? bound value.toList).isSome then .ok ()
    else .error .valueValidation
  | choice names => if names.contains value then .ok () else .error .invalidValue

end ValueKind

/-- What an option does. -/
inductive OptionKind where
  | value (kind : ValueKind)
  | flag
  | help
  | version
  deriving DecidableEq, Repr

/-- The options and plain words that are known at one level of the command line. -/
structure Level where
  topic : Option String := none
  options : List (String × OptionKind)
  takesPath : Bool := false
  subcommands : List String := []

/-- What was read of the words of one level so far. -/
structure Reading where
  values : List (String × String) := []
  /-- The option or path whose value was not looked at yet; an option may still wait for it. -/
  pending : Option (String × Option String) := none
  /-- Only plain words follow. -/
  plain : Bool := false
  hasPath : Bool := false

/-- The name that the path goes by among the options. -/
def pathName : String := "PATH"

namespace Level

/-- What is expected of an option, or of the path. -/
def kind? (name : String) (l : Level) : Option OptionKind :=
  if name = pathName then some (.value .path) else l.options.lookup name

/-- Note the value of an option. No option may be given twice. -/
def record (name : String) (value : String) (l : Level) (r : Reading) :
    Except UsageError Reading :=
  if (r.values.lookup name).isSome then .error .argumentConflict
  else
    let checked := match l.kind? name with
      | some (.value kind) => kind.check value
      | _ => .ok ()
    checked.map fun () => { r with values := (name, value) :: r.values }

/-- Look at the value that was left for later. -/
def resolve (l : Level) (r : Reading) : Except UsageError Reading :=
  match r.pending with
  | none => .ok r
  | some (_, none) => .error .invalidValue
  | some (name, some value) => l.record name value { r with pending := none }

/-- Whether an option still waits for its value. -/
def isWaiting (r : Reading) : Bool :=
  match r.pending with
  | some (_, none) => true
  | _ => false

/-- Read an option by its name, with a value if one was attached to it. -/
def readOption (name : String) (attached : Option String) (l : Level) (r : Reading) :
    Except UsageError Reading := do
  let refuseValue : Except UsageError Unit :=
    if attached.isSome then .error .tooManyValues else .ok ()
  match l.options.lookup name with
  | none => throw .unknownArgument
  | some .help =>
    refuseValue
    let _ ← l.resolve r
    throw (.displayHelp l.topic)
  | some .version =>
    refuseValue
    let _ ← l.resolve r
    throw .displayVersion
  | some .flag =>
    refuseValue
    l.record name "" (← l.resolve r)
  | some (.value _) =>
    let r ← l.resolve r
    match attached with
    | some value => l.record name value r
    | none => return { r with pending := some (name, none) }

/-- Read a plain word that is no value of an option. -/
def readPlain (word : String) (l : Level) (r : Reading) : Except UsageError Reading :=
  if l.takesPath && !r.hasPath then
    (l.resolve r).map fun r => { r with pending := some (pathName, some word), hasPath := true }
  else if l.subcommands.isEmpty then .error .unknownArgument
  else if r.plain && l.subcommands.contains word then .error .unknownArgument
  else .error .invalidSubcommand

/-- The name of a long option and the value attached to it. -/
def splitOption (word : List Char) : String × Option String :=
  let name := word.takeWhile (· ≠ '=')
  match word.dropWhile (· ≠ '=') with
  | [] => (String.ofList name, none)
  | _ :: value => (String.ofList name, some (String.ofList value))

/-- Read one word: an option, the value of the option before it, or a plain word. -/
def readWord (word : String) (l : Level) (r : Reading) : Except UsageError Reading :=
  if r.plain then l.readPlain word r
  else
    match word.toList with
    | ['-', '-'] => .ok { r with plain := true }
    | '-' :: '-' :: rest =>
      let (name, value) := splitOption rest
      l.readOption ("--" ++ name) value r
    | '-' :: c :: _ => l.readOption (String.ofList ['-', c]) none r
    | _ =>
      match r.pending with
      | some (name, none) => .ok { r with pending := some (name, some word) }
      | _ => l.readPlain word r

/-- Whether the words behind this one belong to a subcommand. -/
def startsSubcommand (word : String) (l : Level) (r : Reading) : Bool :=
  !r.plain && !isWaiting r && l.subcommands.contains word

/-- Read words up to a subcommand; its name and the words behind it are left over. -/
def read (l : Level) (r : Reading) : List String →
    Except UsageError (Reading × Option (String × List String))
  | [] => .ok (r, none)
  | word :: rest =>
    if l.startsSubcommand word r then .ok (r, some (word, rest))
    else
      match l.readWord word r with
      | .error e => .error e
      | .ok r => l.read r rest

end Level

/-- How log lines are written. -/
inductive LogFormat where
  | text
  | json
  deriving DecidableEq, Repr

/-- The least severities that a log can be limited to, the strictest first. -/
def logLevels : List String := ["error", "warn", "info", "debug", "trace"]

/-- The output formats by the names that the command line knows them by. -/
def formatNames : List (String × Format) :=
  [("json", .json), ("table", .table), ("pretty", .pretty), ("raw", .raw)]

/-- What the command line says to `serve`. -/
structure ServeArguments where
  path : String
  caps : String
  frameSize : Word
  fps : Nat
  count : Option Nat
  deriving DecidableEq, Repr

/-- What the command line says to `watch`. -/
structure WatchArguments where
  path : String
  count : Option Nat
  timeout : String
  deriving DecidableEq, Repr

/-- What the command line says to `info`. -/
structure InfoArguments where
  path : String
  timeout : String
  deriving DecidableEq, Repr

/-- A subcommand with what it was given. -/
inductive Subcommand where
  | serve (arguments : ServeArguments)
  | watch (arguments : WatchArguments)
  | info (arguments : InfoArguments)
  | version (extended : Bool)
  deriving DecidableEq, Repr

/-- All that the command line says. -/
structure Arguments where
  subcommand : Subcommand
  format : Option Format := none
  logFormat : LogFormat := .text
  logLevel : String := "info"
  deriving DecidableEq, Repr

/-- The capability string of a producer that was given none. -/
def defaultCaps : String :=
  "video/x-raw,format=BGR,width=1280,height=720,framerate=30/1,interlace-mode=progressive"

/-- Options that are known at every level. -/
def globalOptions : List (String × OptionKind) :=
  [("--format", .value (.choice (formatNames.map Prod.fst))),
    ("--log-format", .value (.choice ["text", "json"])),
    ("--log-level", .value (.choice logLevels)),
    ("--help", .help), ("-h", .help)]

/-- The subcommands by their names. -/
def subcommandNames : List String := ["serve", "watch", "info", "version"]

/-- The words in front of the subcommand. -/
def topLevel : Level where
  options := globalOptions ++ [("--version", .version), ("-V", .version)]
  subcommands := subcommandNames ++ ["help"]

/-- The words behind a subcommand. -/
def levelOf (name : String) : Level :=
  let count := ("--count", OptionKind.value (.number 0x10000000000000000))
  let timeout := ("--timeout", OptionKind.value .text)
  if name = "serve" then
    { topic := some name
      options := globalOptions ++ [("--caps", .value .text),
        ("--frame-size", .value (.number 0x10000000000000000)),
        ("--fps", .value (.signedNumber 0x100000000)), count]
      takesPath := true }
  else if name = "watch" then
    { topic := some name, options := globalOptions ++ [count, timeout], takesPath := true }
  else if name = "info" then
    { topic := some name, options := globalOptions ++ [timeout], takesPath := true }
  else { topic := some name, options := globalOptions ++ [("--extended", .flag)] }

/-- The values that were read, the innermost level first. -/
abbrev Values := List (String × String)

/-- The number that was given for an option, if one was. -/
def Values.number? (name : String) (v : Values) : Option Nat :=
  (v.lookup name).bind fun text =>
    if ValueKind.isMinusZero text then some 0 else Text.numeral? text.toList

/-- A subcommand with the values that were given, and the defaults of all others. -/
def subcommandOf (name : String) (v : Values) : Subcommand :=
  let path := (v.lookup pathName).getD ""
  let timeout := (v.lookup "--timeout").getD "5s"
  let count := v.number? "--count"
  if name = "serve" then
    .serve ⟨path, (v.lookup "--caps").getD defaultCaps,
      ((v.number? "--frame-size").map UInt64.ofNat).getD 2764800, (v.number? "--fps").getD 30, count⟩
  else if name = "watch" then .watch ⟨path, count, timeout⟩
  else if name = "info" then .info ⟨path, timeout⟩
  else .version (v.lookup "--extended").isSome

/-- Read the words behind the name of a subcommand. -/
def readSubcommand (name : String) (words : List String) : Except UsageError Values := do
  let level := levelOf name
  let (reading, _) ← level.read {} words
  let reading ← level.resolve reading
  if level.takesPath && !reading.hasPath then throw .missingRequiredArgument
  else return reading.values

/-- What is told when help on some subcommand is asked for. -/
def helpOn : List String → UsageError
  | [] => .displayHelp none
  | [name] =>
    if topLevel.subcommands.contains name then .displayHelp (some name) else .invalidSubcommand
  | _ => .invalidSubcommand

/-- Read a command line. What is wrong with it is reported as a class of usage errors. -/
def Arguments.read (words : List String) : Except UsageError Arguments := do
  let (outer, found) ← topLevel.read {} words
  match found with
  | none =>
    let outer ← topLevel.resolve outer
    if outer.values.isEmpty then throw .displayHelpOnMissingArgumentOrSubcommand
    else throw .missingSubcommand
  | some (name, words) =>
    if name = "help" then throw (helpOn words)
    else
      let inner ← readSubcommand name words
      let outer ← topLevel.resolve outer
      let values : Values := inner ++ outer.values
      return {
        subcommand := subcommandOf name values
        format := (values.lookup "--format").bind fun f => formatNames.lookup f
        logFormat := if values.lookup "--log-format" = some "json" then .json else .text
        logLevel := (values.lookup "--log-level").getD "info" }

end Framecast.Command
