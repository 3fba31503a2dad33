/-!
The arguments of the command line. Options may stand before and after the path of the configuration;
what contradicts itself or is not known is refused.
-/

namespace Harvest.CommandLine

/-- What to do with a configuration. -/
inductive Mode where
  /-- Collects one batch. -/
  | collect
  /-- Collects batch after batch until interrupted. -/
  | watch
  /-- Tells what would be collected. -/
  | dryRun
  /-- Reports on the database. -/
  | stats
  deriving DecidableEq

structure Invocation where
  configPath : String
  mode : Mode
  /-- The only feed to be collected. -/
  feed : Option String
  deriving DecidableEq

inductive Command where
  | help
  | version
  | invoke (i : Invocation)
  deriving DecidableEq

/-- Why arguments were refused. -/
inductive UsageError where
  | unknown (argument : String)
  | repeated (option : String)
  | missingValue (option : String)
  | unexpectedValue (option : String)
  | conflict (a b : String)
  | missingConfig
  deriving DecidableEq

/-- The arguments read so far. -/
structure Given where
  configPath : Option String
  verbose : Bool
  quiet : Bool
  dryRun : Bool
  stats : Bool
  watch : Bool
  feed : Option String
  deriving DecidableEq

namespace Given

def nothing : Given := ⟨none, false, false, false, false, false, none⟩

/-- Adds a path. -/
def path (g : Given) (text : String) : Except UsageError Given :=
  if text.isEmpty then .error (.missingValue "CONFIG")
  else if g.configPath.isSome then .error (.unknown text)
  else .ok { g with configPath := some text }

/-- Adds the name of a feed. -/
def only (g : Given) (name : String) : Except UsageError Given :=
  if g.feed.isSome then .error (.repeated "--feed") else .ok { g with feed := some name }

/-- Adds an option without a value. Only verbosity may be asked for more than once. -/
def flag (g : Given) (name : String) : Except UsageError Given :=
  let once (given : Bool) (next : Given) : Except UsageError Given :=
    if given then .error (.repeated name) else .ok next
  match name with
  | "--verbose" => .ok { g with verbose := true }
  | "--quiet" => once g.quiet { g with quiet := true }
  | "--dry-run" => once g.dryRun { g with dryRun := true }
  | "--stats" => once g.stats { g with stats := true }
  | "--watch" => once g.watch { g with watch := true }
  | name => .error (.unknown name)

private def conflicts (g : Given) : List (Bool × String × String) :=
  [(g.quiet && g.verbose, "--quiet", "--verbose"), (g.dryRun && g.stats, "--dry-run", "--stats"),
    (g.dryRun && g.watch, "--dry-run", "--watch"), (g.stats && g.watch, "--stats", "--watch"),
    (g.stats && g.feed.isSome, "--stats", "--feed")]

/-- What the arguments ask for all together. -/
def command (g : Given) : Except UsageError Command :=
  match g.conflicts.find? (·.1) with
  | some (_, a, b) => .error (.conflict a b)
  | none =>
    match g.configPath with
    | none => .error .missingConfig
    | some configPath =>
      let mode : Mode :=
        if g.dryRun then .dryRun else if g.stats then .stats
        else if g.watch then .watch else .collect
      .ok (.invoke ⟨configPath, mode, g.feed⟩)

end Given

/-- The long form of a short option. -/
def longName? : Char → Option String
  | 'v' => some "--verbose"
  | 'q' => some "--quiet"
  | 'h' => some "--help"
  | 'V' => some "--version"
  | _ => none

/-- A command that is carried out as soon as it is read. -/
def immediate? (name : String) : Option Command :=
  match name with
  | "--help" => some .help
  | "--version" => some .version
  | _ => none

/-- Reads short options that stand together. -/
def readShort (g : Given) : List Char → Except UsageError (Given ⊕ Command)
  | [] => .ok (.inl g)
  | c :: rest =>
    match longName? c with
    | none => .error (.unknown (String.ofList ['-', c]))
    | some name =>
      match immediate? name with
      | some command => .ok (.inr command)
      | none =>
        match g.flag name with
        | .ok g => readShort g rest
        | .error e => .error e

/-- Whether an argument is an option; a single hyphen is none. -/
def isOption (argument : String) : Bool := argument.startsWith "-" && argument != "-"

/-- Reads arguments that are all paths. -/
def readPaths (g : Given) : List String → Except UsageError Command
  | [] => g.command
  | text :: rest =>
    match g.path text with
    | .ok g => readPaths g rest
    | .error e => .error e

/-- Reads the arguments that are left. -/
def readFrom (g : Given) : List String → Except UsageError Command
  | [] => g.command
  | "--" :: rest => readPaths g rest
  | "--feed" :: rest =>
    match rest with
    | [] => .error (.missingValue "--feed")
    | name :: rest =>
      if isOption name then .error (.missingValue "--feed")
      else match g.only name with
        | .ok g => readFrom g rest
        | .error e => .error e
  | argument :: rest =>
    let chars := argument.toList
    let name := String.ofList (chars.takeWhile (· != '='))
    if argument.startsWith "--" then
      if name == "--feed" then
        match g.only (String.ofList (chars.drop 7)) with
        | .ok g => readFrom g rest
        | .error e => .error e
      else if chars.contains '=' then
        .error (if (g.flag name).isOk || (immediate? name).isSome then .unexpectedValue name
          else .unknown name)
      else match immediate? argument with
        | some command => .ok command
        | none =>
          match g.flag argument with
          | .ok g => readFrom g rest
          | .error e => .error e
    else if isOption argument then
      match readShort g (chars.drop 1) with
      | .ok (.inl g) => readFrom g rest
      | .ok (.inr command) => .ok command
      | .error e => .error e
    else
      match g.path argument with
      | .ok g => readFrom g rest
      | .error e => .error e

/-- The command that arguments ask for. -/
def parse (arguments : List String) : Except UsageError Command := readFrom .nothing arguments

namespace UsageError

def message : UsageError → String
  | unknown argument => "unexpected argument '" ++ argument ++ "' found"
  | repeated option => "the argument '" ++ option ++ "' cannot be used multiple times"
  | missingValue option => "a value is required for '" ++ option ++ "' but none was supplied"
  | unexpectedValue option => "unexpected value for '" ++ option ++ "' found; no more were expected"
  | conflict a b => "the argument '" ++ a ++ "' cannot be used with '" ++ b ++ "'"
  | missingConfig => "the following required arguments were not provided:\n  <CONFIG>"

end UsageError

def usage : String := "Usage: feedline [OPTIONS] <CONFIG>"

def helpText : String :=
  "An incremental news feed collector\n\n" ++ usage ++ "\n\n" ++
  "Arguments:\n  <CONFIG>  Path to TOML configuration file\n\n" ++
  "Options:\n" ++
  "  -v, --verbose...   Increase logging verbosity (-v, -vv, -vvv)\n" ++
  "  -q, --quiet        Suppress non-error output\n" ++
  "      --dry-run      Validate config and show what would be collected without collecting\n" ++
  "      --stats        Show statistics from the database and exit\n" ++
  "      --watch        Keep collecting every default-interval-minutes until interrupted\n" ++
  "      --feed <NAME>  Collect only the feed with this name\n" ++
  "  -h, --help         Print help\n" ++
  "  -V, --version      Print version\n"

def versionText : String := "feedline 0.1.0\n"

end Harvest.CommandLine
