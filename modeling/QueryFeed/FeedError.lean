import QueryFeed.Database.Error
import QueryFeed.Json.Printer

/-!
**What can go wrong with a feed.**

A mistake in the setup is fatal: another poll will not mend it.  Everything else concerns one poll.

Main definitions: `ConfigurationFault`, `ExpressionFault`, `FeedError`, `FeedError.message`,
`FeedError.isFatal`.
-/

set_option autoImplicit false

namespace QueryFeed

/-- What is wrong with a configuration. -/
inductive ConfigurationFault where
  | unreadable (path reason : String)
  | malformed
  | outOfRange (fields : List String)
  | emptyQuery
  | missingUrl
  | other (reason : String)
  deriving DecidableEq

/-- Why an expression has no value that can be used. -/
inductive ExpressionFault where
  | unknownVariable (name : String)
  | notInsertable (name : String) (value : Json)
  | other (reason : String)

/-- Why a poll, or the whole feed, failed. -/
inductive FeedError where
  | configuration (fault : ConfigurationFault)
  | uninitialized
  | queryType (value : Json)
  | expression (fault : ExpressionFault)
  | database (e : Database.Error)
  | output (reason : String)

/-- The wording of a configuration fault. -/
def ConfigurationFault.message : ConfigurationFault → String
  | unreadable path reason => "failed to read " ++ path ++ ": " ++ reason
  | malformed => "failed to parse config"
  | outOfRange fields => "validation failed: " ++ ", ".intercalate fields
  | emptyQuery => "'query' must not be empty"
  | missingUrl => "'connection_url' is required"
  | other reason => reason

/-- The wording of an expression fault. -/
def ExpressionFault.message : ExpressionFault → String
  | unknownVariable name => "unknown variable '" ++ name ++ "'"
  | notInsertable name value =>
      "variable '" ++ name ++ "' cannot be inserted into a query: " ++ value.compact
  | other reason => reason

namespace FeedError

/-- The wording of an error. -/
def message : FeedError → String
  | configuration fault => "configuration error: " ++ fault.message
  | uninitialized => "query source is not initialized; call initialize() before polling"
  | queryType value =>
      "query expression must evaluate to a string, got " ++ value.compact ++
        " (" ++ value.kindName ++ ")"
  | expression fault => "query expression failed: " ++ fault.message
  | database e => e.message
  | output reason => "failed to write message: " ++ reason

/-- The causes behind an error, the nearest one first. -/
def causes : FeedError → List String
  | database e => e.causes
  | output reason => [reason]
  | _ => []

/-- Whether the setup is at fault, so that no further poll can succeed. -/
def isFatal : FeedError → Bool
  | configuration _ | uninitialized | queryType _ => true
  | _ => false

/-- Whether another attempt may succeed. -/
def isRetriable : FeedError → Bool
  | database e => e.isRetriable
  | _ => false

end FeedError

end QueryFeed
