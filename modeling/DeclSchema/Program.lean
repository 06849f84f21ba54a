import DeclSchema.Catalog.Builtin
import DeclSchema.Log.Filter
import DeclSchema.Log.Event
import DeclSchema.Settings.CommandLine
import DeclSchema.Settings.Plan

/-!
A run of the program.

A run is a function of the command line and of the world around it, and its
outcome is an exit code and what is written to the two output streams. The
work is done in three stages: the arguments are checked, a plan is made of
them, and the document or the listing is rendered. The first failure
ends the run, and then nothing is written but log lines and an explanation.
-/

namespace DeclSchema.Program

open Settings Log

structure Outcome where
  exitCode : Nat
  stdout : String
  stderr : String
  deriving DecidableEq, Repr

/-- What the stages of a run came to: the events on the way, and the text for
the output. -/
structure Report where
  events : List Event
  result : Except Error String

def listing (c : Catalog) : String :=
  String.join (c.records.map fun r => "record   " ++ r.name ++ "\n") ++
    String.join (c.functions.map fun f => "function " ++ f.signature ++ "\n")

def documentText (p : Plan) (d : Document) : String :=
  (if p.pretty then d.toJson.pretty else d.toJson.compact) ++ "\n"

def missingEvent (u : Unmapped) : Event :=
  ⟨.warn, .program, "unmapped " ++ u.name ++ " (" ++ u.cause ++ ")", []⟩

def output (p : Plan) (c : Catalog) : Except Error Output :=
  if p.all then .ok (c.generateAll p.options) else c.generate p.options

def outputEvents (p : Plan) (c : Catalog) : List Event :=
  (if p.all then c.generateAllEvents p.options else c.generateEvents) ++
    match output p c with
    | .ok out => out.unmapped.map missingEvent
    | .error _ => []

def render (p : Plan) (c : Catalog) : Report :=
  if p.list then ⟨[], .ok (listing c)⟩
  else
    { events := outputEvents p c
      result := do
        let out ← output p c
        let document ← if p.strict then out.strict else .ok out.document
        return documentText p document }

def planEvents (a : Arguments) : List Event :=
  match a.config with
  | some path => [⟨.debug, .settings, "loading config file", [("path", path)]⟩]
  | none => []

def work (w : World) (a : Arguments) : Report :=
  let start : List Event := [⟨.debug, .program, "CLI config: " ++ a.summary, []⟩]
  match a.check with
  | .error e => ⟨start, .error e⟩
  | .ok () =>
      let start := start ++ planEvents a
      match a.plan w with
      | .error e => ⟨start, .error e⟩
      | .ok p =>
          let last := render p Catalog.builtin
          ⟨start ++ last.events, last.result⟩

/-! ### Log lines -/

def ownDirective (level : Level) : Directive :=
  { target := some Source.program.path.toList, rank := level.rank }

/-- The filter that holds when nobody sets one. JSON lines are for machines,
to which no verbosity applies. -/
def defaultFilter (a : Arguments) : Filter :=
  if a.verbose && !a.jsonLogs then [ownDirective .debug] else [ownDirective .info]

def filter (w : World) (a : Arguments) : Filter :=
  match (w.lookup "RUST_LOG").bind Filter.parse? with
  | some f => f
  | none => defaultFilter a

def logLines (w : World) (a : Arguments) (events : List Event) : String :=
  String.join ((events.filter (filter w a).passes).map
    (if a.jsonLogs then Event.toJsonLine else Event.toText))

def errorEvent (e : Error) : Event :=
  ⟨.error, .program, "middle-c failed: " ++ e.message ++ " (Category: " ++ e.category.name ++
    ", Severity: " ++ e.severity.name ++ ")", []⟩

def explanation (e : Error) : String :=
  "❌ " ++ e.friendly ++ "\n💡 " ++ e.suggestion ++ "\n"

def runArguments (w : World) (a : Arguments) : Outcome :=
  let report := work w a
  match report.result with
  | .ok text => ⟨0, text, logLines w a report.events⟩
  | .error e =>
      ⟨e.severity.exitCode, "", logLines w a (report.events ++ [errorEvent e]) ++ explanation e⟩

def run (w : World) (commandLine : List String) : Outcome :=
  match CommandLine.parse commandLine with
  | .ok a => runArguments w a
  | .error .help => ⟨0, UsageError.help.message, ""⟩
  | .error e => ⟨2, "", e.message⟩

end DeclSchema.Program
