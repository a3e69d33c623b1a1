import QueryFeed.Text.Quoted
import QueryFeed.Url.Basic

/-!
**Connection settings.**

Settings hold everything that is needed to open a connection.  The scheme of the locator chooses the
kind of database.  In diagnostics the password of the locator is masked.

Main definitions: `Database.Settings`, `Database.Settings.kind`, `Database.redacted`.
-/

set_option autoImplicit false

namespace QueryFeed.Database

/-- The kinds of databases. -/
inductive Kind where
  | postgreSQL
  | unknown
  deriving DecidableEq

/-- The name of a kind. -/
def Kind.name : Kind → String
  | postgreSQL => "PostgreSQL"
  | unknown => "Unknown"

/-- What is needed to open a connection.  A query timeout of zero is none. -/
structure Settings where
  url : String
  connectTimeoutMs : Nat
  queryTimeoutMs : Nat
  applicationName : Option String
  deriving DecidableEq

/-- The kind of database that a locator names by its scheme. -/
def Kind.ofUrl (url : String) : Kind :=
  match Url.cutAt? [':', '/', '/'] url.toList with
  | none => .unknown
  | some (scheme, _) =>
      let name := scheme.map Char.toLower
      if name = "postgres".toList ∨ name = "postgresql".toList then .postgreSQL else .unknown

/-- A locator with its password masked; all of it, where it cannot be read. -/
def redacted (url : String) : String :=
  match Url.ofText? url with
  | none => "***"
  | some parsed => (parsed.maskPassword "***".toList).text

namespace Settings

/-- Settings with the usual timeouts. -/
def ofUrl (url : String) : Settings := ⟨url, 10000, 0, some "rowpoll"⟩

/-- The kind of database. -/
def kind (settings : Settings) : Kind := .ofUrl settings.url

/-- Settings in diagnostics. -/
def describe (settings : Settings) : String :=
  "ConnectionConfig \x7b url: " ++ Text.quote (redacted settings.url) ++
    ", connect_timeout_ms: " ++ String.ofList (Text.decimal settings.connectTimeoutMs) ++
    ", query_timeout_ms: " ++ String.ofList (Text.decimal settings.queryTimeoutMs) ++
    ", application_name: " ++ Text.quoteOption settings.applicationName ++ " \x7d"

end Settings

end QueryFeed.Database
