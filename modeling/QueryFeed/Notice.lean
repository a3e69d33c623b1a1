import QueryFeed.FeedError

/-!
**Notices.**

What a feed has to say to its operator while it runs: warnings, and errors that go nowhere else.

Main definitions: `Notice`, `Notice.level`, `Notice.message`, `Notice.fields`.
-/

set_option autoImplicit false

namespace QueryFeed

/-- How grave a notice is. -/
inductive Level where
  | warning
  | error
  deriving DecidableEq

/-- What a feed tells its operator. -/
inductive Notice where
  | unresolvedQuery (query : String) (e : FeedError)
  | shortInterval (requested : String)
  | outputClosed (component : String)
  | unknownErrorChannel (name : String)
  | failedPoll (component : String) (e : FeedError)
  | closedErrorChannel (component : String) (e : FeedError)

namespace Notice

/-- How grave a notice is. -/
def level : Notice → Level
  | failedPoll _ _ | closedErrorChannel _ _ => .error
  | _ => .warning

/-- The wording of a notice. -/
def message : Notice → String
  | unresolvedQuery _ _ => "Failed to resolve query"
  | shortInterval _ => "Poll interval too short, using 1ms"
  | outputClosed _ => "Output channel closed"
  | unknownErrorChannel _ => "Unknown error channel, using the default"
  | failedPoll _ _ => "Poll failed"
  | closedErrorChannel _ _ => "Poll failed and error channel is closed"

/-- What a notice is about. -/
def fields : Notice → List (String × String)
  | unresolvedQuery query e => [("query", query), ("error", e.message)]
  | shortInterval requested => [("requested", requested)]
  | outputClosed component => [("component", component)]
  | unknownErrorChannel name => [("error_channel", name)]
  | failedPoll component e =>
      [("component", component), ("error", e.message),
       ("fatal", if e.isFatal then "true" else "false")]
  | closedErrorChannel component e => [("component", component), ("error", e.message)]

end Notice

end QueryFeed
