import QueryFeed.Database.Settings
import QueryFeed.Query.Basic
import QueryFeed.Secret
import QueryFeed.Text.Blank

/-!
**Configurations.**

A configuration says what to query, where, how often, and what to add to the messages.  It is usable
when its limits are at least one and both the query and the locator of the database are there.

Main definitions:

* `Configuration`, `Configuration.standard` — the settings and what they are when left out;
* `Configuration.check` — whether they can be used;
* `Configuration.connectionSettings`, `Configuration.querySource`, `Configuration.registry`,
  `RunOptions.ofConfiguration` — what they mean;
* `Configuration.written` — their JSON form, without the secret.
-/

set_option autoImplicit false

namespace QueryFeed

/-- What a feed is set up with. -/
structure Configuration where
  connectionUrl : Option Secret
  query : String
  expectSingleResult : Bool
  pollIntervalMs : Nat
  maxPolls : Option Nat
  maxMessages : Option Nat
  connectTimeoutMs : Nat
  queryTimeoutMs : Nat
  applicationName : Option String
  bindings : Table Json
  headers : Table String

namespace Configuration

/-- What holds for everything that is left out. -/
def standard : Configuration :=
  ⟨none, "", false, 1000, none, none, 10000, 0, none, [], []⟩

/-! ### Checking -/

/-- The names of the limits that are below one, in alphabetical order. -/
def fieldsOutOfRange (config : Configuration) : List String :=
  (if config.maxMessages = some 0 then ["max_messages"] else []) ++
    (if config.maxPolls = some 0 then ["max_polls"] else []) ++
    (if config.pollIntervalMs = 0 then ["poll_interval_ms"] else [])

/-- Finds the first thing that makes a configuration useless: a limit, the query, the locator. -/
def check (config : Configuration) : Except FeedError Unit :=
  if !config.fieldsOutOfRange.isEmpty then
    .error (.configuration (.outOfRange config.fieldsOutOfRange))
  else if Text.isBlankText config.query then .error (.configuration .emptyQuery)
  else
    match config.connectionUrl with
    | some url =>
        if Text.isBlankText url.exposed then .error (.configuration .missingUrl) else .ok ()
    | none => .error (.configuration .missingUrl)

/-! ### Meaning -/

/-- How to connect to the database. -/
def connectionSettings (config : Configuration) : Except FeedError Database.Settings :=
  match config.connectionUrl with
  | none => .error (.configuration .missingUrl)
  | some url =>
      let usual := Database.Settings.ofUrl url.exposed
      .ok { usual with
        connectTimeoutMs := config.connectTimeoutMs
        queryTimeoutMs := config.queryTimeoutMs
        applicationName := config.applicationName.or usual.applicationName }

/-- The query, without blanks at its ends. -/
def querySource (config : Configuration) : Query := .ofText (Text.trim config.query)

/-- The registry with which the source begins. -/
def registry (config : Configuration) : Registry := config.bindings

/-! ### Writing -/

/-- A count, or null. -/
def optionalCount (count : Option Nat) : Json := (count.map Json.ofNat).getD .null

/-- A text, or null. -/
def optionalText (text : Option String) : Json := (text.map Json.str).getD .null

/-- The JSON form of a configuration, with a mask for the locator. -/
def written (config : Configuration) : Json :=
  .obj [("connection_url", optionalText (config.connectionUrl.map Secret.written)),
    ("query", .str config.query),
    ("expect_single_result", .bool config.expectSingleResult),
    ("poll_interval_ms", .ofNat config.pollIntervalMs),
    ("max_polls", optionalCount config.maxPolls),
    ("max_messages", optionalCount config.maxMessages),
    ("connect_timeout_ms", .ofNat config.connectTimeoutMs),
    ("query_timeout_ms", .ofNat config.queryTimeoutMs),
    ("application_name", optionalText config.applicationName),
    ("variables", .obj (Table.sorted config.bindings)),
    ("headers", .obj ((Table.sorted config.headers).map fun entry => (entry.1, .str entry.2)))]

end Configuration

/-- The limits of a run. -/
structure RunOptions where
  intervalMs : Nat
  maxPolls : Option Nat
  maxMessages : Option Nat
  deriving DecidableEq

namespace RunOptions

/-- A run without limits. -/
def standard : RunOptions := ⟨1000, none, none⟩

/-- The limits of a configuration; `once` limits the run to a single poll. -/
def ofConfiguration (config : Configuration) (once : Bool) : RunOptions :=
  ⟨config.pollIntervalMs, if once then some 1 else config.maxPolls, config.maxMessages⟩

end RunOptions

end QueryFeed
