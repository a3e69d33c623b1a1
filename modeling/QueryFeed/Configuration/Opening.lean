import QueryFeed.Configuration.Basic
import QueryFeed.Source

/-!
**From a configuration to a source.**

A configuration that can be used opens one connection, and describes the source over it.  One that
cannot be used opens none.

Main definitions: `Configuration.sourcePlan`, `Configuration.openSource`.
-/

set_option autoImplicit false

namespace QueryFeed

/-- How a server whose state is in `φ` hands out connections. -/
abbrev Connect (φ κ : Type) := φ → Database.Settings → Except Database.Error κ × φ

namespace Configuration

variable {φ κ τ : Type}

/-- The source that a configuration describes. -/
def sourcePlan (config : Configuration) (mapper : RowMapper τ) : SourcePlan τ :=
  ⟨config.querySource, mapper, config.expectSingleResult, config.headers⟩

/-- The settings with which a configuration connects, if it can be used. -/
def usableSettings (config : Configuration) : Except FeedError Database.Settings := do
  config.check
  config.connectionSettings

/-- Checks a configuration and connects once. -/
def openSource (config : Configuration) (mapper : RowMapper τ) (connect : Connect φ κ) (server : φ) :
    Except FeedError (SourcePlan τ × κ) × φ :=
  match config.usableSettings with
  | .error e => (.error e, server)
  | .ok settings =>
      match connect server settings with
      | (.error e, server) => (.error (.database e), server)
      | (.ok connection, server) => (.ok (config.sourcePlan mapper, connection), server)

end Configuration

end QueryFeed
