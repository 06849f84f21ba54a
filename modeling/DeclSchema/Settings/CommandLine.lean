import DeclSchema.Text.Quoted

/-!
Reading a command line.

There are options with a value and flags, which are given or not. Options
come in a long form, `--root car` or `--root=car`, and some in a short one,
`-r car`, `-rcar` or `-r=car`; flags in short form may share one dash.
Neither may be given twice, and nothing else may stand on the command line.

An option that stands apart from its value is settled late: whether it has
a value, and is not given twice, is looked at when the next known option or
flag comes, or at the end. So an unknown argument right after it is what
gets reported.
-/

namespace DeclSchema.Settings

structure Arguments where
  config : Option String := none
  root : Option String := none
  title : Option String := none
  strict : Bool := false
  all : Bool := false
  list : Bool := false
  compact : Bool := false
  verbose : Bool := false
  jsonLogs : Bool := false
  deriving DecidableEq, Repr

inductive ValueOption where
  | config
  | root
  | title
  deriving DecidableEq, Repr

inductive Flag where
  | strict
  | all
  | list
  | compact
  | verbose
  | jsonLogs
  deriving DecidableEq, Repr

/-- Anything that can stand on a command line with a dash. -/
inductive Switch where
  | value (o : ValueOption)
  | flag (f : Flag)
  | help
  deriving DecidableEq, Repr

inductive UsageError where
  | unknown (argument : String)
  | missingValue (option : String)
  | repeated (option : String)
  | unneededValue (option : String)
  | help
  deriving DecidableEq, Repr

namespace ValueOption

def name : ValueOption → String
  | config => "--config"
  | root => "--root"
  | title => "--module"

def get (o : ValueOption) (a : Arguments) : Option String :=
  match o with
  | config => a.config
  | root => a.root
  | title => a.title

def put (o : ValueOption) (v : String) (a : Arguments) : Arguments :=
  match o with
  | config => { a with config := some v }
  | root => { a with root := some v }
  | title => { a with title := some v }

/-- The arguments with a value for an option that has none yet. -/
def give (o : ValueOption) (v : String) (a : Arguments) : Except UsageError Arguments :=
  if (o.get a).isSome then .error (.repeated o.name) else .ok (o.put v a)

end ValueOption

namespace Flag

def name : Flag → String
  | strict => "--strict"
  | all => "--all"
  | list => "--list"
  | compact => "--compact"
  | verbose => "--verbose"
  | jsonLogs => "--json-logs"

def get (f : Flag) (a : Arguments) : Bool :=
  match f with
  | strict => a.strict
  | all => a.all
  | list => a.list
  | compact => a.compact
  | verbose => a.verbose
  | jsonLogs => a.jsonLogs

def put (f : Flag) (a : Arguments) : Arguments :=
  match f with
  | strict => { a with strict := true }
  | all => { a with all := true }
  | list => { a with list := true }
  | compact => { a with compact := true }
  | verbose => { a with verbose := true }
  | jsonLogs => { a with jsonLogs := true }

def give (f : Flag) (a : Arguments) : Except UsageError Arguments :=
  if f.get a then .error (.repeated f.name) else .ok (f.put a)

end Flag

namespace Switch

def ofLong? : String → Option Switch
  | "config" => some (value .config)
  | "root" => some (value .root)
  | "module" => some (value .title)
  | "strict" => some (flag .strict)
  | "all" => some (flag .all)
  | "list" => some (flag .list)
  | "compact" => some (flag .compact)
  | "verbose" => some (flag .verbose)
  | "json-logs" => some (flag .jsonLogs)
  | "help" => some help
  | _ => none

def ofShort? : Char → Option Switch
  | 'c' => some (value .config)
  | 'r' => some (value .root)
  | 'm' => some (value .title)
  | 'v' => some (flag .verbose)
  | 'h' => some help
  | _ => none

def name : Switch → String
  | value o => o.name
  | flag f => f.name
  | help => "--help"

end Switch

namespace Arguments

def optionalText : Option String → String
  | some s => "Some(" ++ Text.quoted s ++ ")"
  | none => "None"

def onOff (b : Bool) : String :=
  if b then "true" else "false"

def summary (a : Arguments) : String :=
  "CliConfig \x7b config: " ++ optionalText a.config ++ ", root: " ++ optionalText a.root ++
    ", module: " ++ optionalText a.title ++ ", strict: " ++ onOff a.strict ++
    ", all: " ++ onOff a.all ++ ", list: " ++ onOff a.list ++
    ", compact: " ++ onOff a.compact ++ ", verbose: " ++ onOff a.verbose ++
    ", json_logs: " ++ onOff a.jsonLogs ++ " \x7d"

end Arguments

namespace CommandLine

/-- A command line in the middle of being read: what is settled, and the
option that waits to be, with its value if that came already. -/
structure Reading where
  settled : Arguments := {}
  waiting : Option (ValueOption × Option String) := none
  deriving DecidableEq, Repr

namespace Reading

def settle (r : Reading) : Except UsageError Arguments :=
  match r.waiting with
  | none => .ok r.settled
  | some (o, none) => .error (.missingValue o.name)
  | some (o, some v) => o.give v r.settled

def giveFlag (r : Reading) (f : Flag) : Except UsageError Reading := do
  return { settled := ← f.give (← r.settle) }

def giveValue (r : Reading) (o : ValueOption) (v : String) : Except UsageError Reading := do
  return { settled := ← o.give v (← r.settle) }

def await (r : Reading) (o : ValueOption) : Except UsageError Reading := do
  return { settled := ← r.settle, waiting := some (o, none) }

def callHelp (r : Reading) : Except UsageError Reading := do
  let _ ← r.settle
  .error .help

def long (r : Reading) (body : List Char) : Except UsageError Reading :=
  let name := String.ofList (body.takeWhile (· != '='))
  match Switch.ofLong? name, body.dropWhile (· != '=') with
  | none, _ => .error (.unknown ("--" ++ name))
  | some (.value o), [] => r.await o
  | some (.value o), _ :: v => r.giveValue o (String.ofList v)
  | some (.flag f), [] => r.giveFlag f
  | some .help, [] => r.callHelp
  | some s, _ :: _ => .error (.unneededValue s.name)

/-- A value that stands right after its option's letter; a sign for equality
in between does not belong to it. -/
def attached : List Char → String
  | '=' :: v => String.ofList v
  | v => String.ofList v

def short (r : Reading) : List Char → Except UsageError Reading
  | [] => .ok r
  | c :: rest =>
      match Switch.ofShort? c with
      | none => .error (.unknown ("-" ++ String.ofList [c]))
      | some (.flag f) => do (← r.giveFlag f).short rest
      | some .help => r.callHelp
      | some (.value o) =>
          if rest.isEmpty then r.await o else r.giveValue o (attached rest)

/-- One more argument without a dash, which has to be the value of the option
before it. -/
def plain (r : Reading) (argument : String) : Except UsageError Reading :=
  match r.waiting with
  | some (o, none) => .ok { r with waiting := some (o, some argument) }
  | _ => .error (.unknown argument)

def next (r : Reading) (argument : String) : Except UsageError Reading :=
  match argument.toList with
  | '-' :: '-' :: body => r.long body
  | '-' :: c :: rest => r.short (c :: rest)
  | _ => r.plain argument

/-- The arguments of the rest of a command line. Two dashes by themselves end
the options, and nothing may follow them. -/
def readAll (r : Reading) : List String → Except UsageError Arguments
  | [] => r.settle
  | argument :: rest =>
      if argument = "--" then
        match rest with
        | [] => r.settle
        | extra :: _ => .error (.unknown extra)
      else do (← r.next argument).readAll rest

end Reading

def parse (arguments : List String) : Except UsageError Arguments :=
  Reading.readAll {} arguments

def helpLines : List String :=
  [ "Generate JSON Schema for the declared C records",
    "",
    "Usage: middle-c [OPTIONS]",
    "",
    "Options:",
    "  -c, --config <CONFIG>  TOML file with a [schema] table",
    "  -r, --root <ROOT>      Record to render (name, typedef or title)",
    "  -m, --module <MODULE>  Title used when no single record is rendered",
    "      --strict           Fail if any declaration cannot be mapped",
    "      --all              Render every record under `definitions`",
    "      --list             List declared records and functions instead",
    "      --compact          Print compact JSON",
    "  -v, --verbose          Enable verbose output",
    "      --json-logs        Emit logs as JSON",
    "  -h, --help             Print help" ]

def helpText : String :=
  String.join (helpLines.map (· ++ "\n"))

end CommandLine

def UsageError.message : UsageError → String
  | unknown a => "error: unexpected argument '" ++ a ++ "' found\n"
  | missingValue o => "error: a value is required for '" ++ o ++ "' but none was supplied\n"
  | repeated o => "error: the argument '" ++ o ++ "' cannot be used multiple times\n"
  | unneededValue o => "error: unexpected value for '" ++ o ++ "' found; no more were expected\n"
  | help => CommandLine.helpText

end DeclSchema.Settings
