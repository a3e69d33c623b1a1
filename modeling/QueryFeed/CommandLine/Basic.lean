import QueryFeed.CommandLine.Help
import QueryFeed.CommandLine.Report
import QueryFeed.Configuration.Opening
import QueryFeed.Configuration.Read
import QueryFeed.Run.Basic

/-!
**The program.**

The program reads its configuration, and then either describes it or polls the source that it sets up.
It succeeds if nothing got in the way: a poll that failed is a failure of the program too, once the run
has ended.

Main definitions:

* `Outcome` — what the program leaves behind;
* `Task` — what is left to do when the command line and the configuration are read;
* `Intent.task` — reading them;
* `Outcome.ofRun` — the outcome of a run.
-/

set_option autoImplicit false

namespace QueryFeed.CommandLine

variable {φ κ : Type}

/-! ### Outcomes -/

/-- What the program leaves behind: its exit code, what it printed, and why it failed. -/
structure Outcome where
  code : Nat
  output : String
  report : Option Report
  deriving DecidableEq

namespace Outcome

/-- The program did what it was asked for. -/
def success (output : String) : Outcome := ⟨0, output, none⟩

/-- The program failed. -/
def failure (report : Report) (output : String) : Outcome := ⟨1, output, some report⟩

/-- The command line could not be read. -/
def misuse : Outcome := ⟨2, "", none⟩

/-- The outcome of a run, with what it printed. -/
def ofRun (output : String) : Except FeedError RunSummary → Outcome
  | .error e => failure (.ofContext "Query source failed" e) output
  | .ok summary =>
      if summary.failures = 0 then success output
      else
        failure (.plain (String.ofList (Text.decimal summary.failures) ++ " poll(s) failed")) output

end Outcome

/-- What a configuration sets up, in words. -/
def describe (config : Configuration) : String :=
  let count (n : Nat) : String := String.ofList (Text.decimal n)
  String.join ([
    "Configuration is valid",
    "  query:         " ++ Text.trim config.query,
    "  dynamic:       " ++ (if config.querySource.isDynamic then "true" else "false"),
    "  result:        " ++ (if config.expectSingleResult then "single row" else "all rows"),
    "  poll interval: " ++ count config.pollIntervalMs ++ "ms",
    "  variables:     " ++ count config.bindings.length,
    "  headers:       " ++ count config.headers.length].map (· ++ "\n"))

/-! ### Tasks -/

/-- What is left to do: nothing, or to run a source over a connection. -/
inductive Task (κ : Type) where
  | done (outcome : Outcome)
  | poll (options : RunOptions) (source : Source Json × κ)

/-- Reads the configuration under a path. -/
def load (environment : Environment) (path : String) (content : Configuration.FileContent) :
    Except Report Configuration :=
  (Configuration.ofFile environment path content).mapError
    (.ofContext ("Failed to load config from " ++ path))

/-- Looks whether there is a driver for the database of a configuration. -/
def driver (driver? : Option (Connect φ κ)) (config : Configuration) :
    Except Report (Connect φ κ) :=
  match driver?, config.connectionSettings with
  | none, _ =>
      .error (.plain
        "rowpoll was built without a database driver; enable the 'postgres' feature")
  | some _, .error e => .error (.ofError e)
  | some connect, .ok settings =>
      if settings.kind = .postgreSQL then .ok connect
      else .error (.plain ("Unsupported database type: " ++ settings.kind.name))

/-- Sets up the source of a configuration. -/
def openSource (driver? : Option (Connect φ κ)) (config : Configuration) (server : φ) :
    Except Report (Source Json × κ) × φ :=
  match driver driver? config with
  | .error report => (.error report, server)
  | .ok connect =>
      match config.openSource RowMapper.json connect server with
      | (.error e, server) => (.error (.ofContext "Failed to create query source" e), server)
      | (.ok (plan, connection), server) => (.ok (plan.setUp config.registry, connection), server)

/-- What is left to do for a command with a configuration. -/
def Command.task (command : Command) (driver? : Option (Connect φ κ)) (config : Configuration)
    (server : φ) : Task κ × φ :=
  match command with
  | validate => (.done (.success (describe config)), server)
  | run once =>
      match openSource driver? config server with
      | (.error report, server) => (.done (.failure report ""), server)
      | (.ok source, server) => (.poll (.ofConfiguration config once) source, server)

/-- What is left to do for a command line.  `files` gives what is found under a path. -/
def Intent.task (intent : Intent) (driver? : Option (Connect φ κ)) (environment : Environment)
    (files : String → Configuration.FileContent) (server : φ) : Task κ × φ :=
  match intent with
  | help topic => (.done (.success topic.text), server)
  | version => (.done (.success versionText), server)
  | act invocation =>
      match load environment invocation.configPath (files invocation.configPath) with
      | .error report => (.done (.failure report ""), server)
      | .ok config => invocation.command.task driver? config server

end QueryFeed.CommandLine
