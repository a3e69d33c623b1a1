import QueryFeed.Value.Basic

/-!
**Counting polls.**

The counters are words of 64 bits.  A poll that ran to its end without a message counts as empty.

Main definitions: `Stats`, `Stats.recordMessages`, `Stats.averageMessages`, `Stats.describe`.
-/

set_option autoImplicit false

namespace QueryFeed

/-- Counters of a source or a poller. -/
structure Stats where
  polls : UInt64
  resolutionFailures : UInt64
  databaseFailures : UInt64
  messages : UInt64
  emptyPolls : UInt64
  deriving DecidableEq

namespace Stats

/-- Nothing was counted yet. -/
def zero : Stats := ⟨0, 0, 0, 0, 0⟩

instance : Inhabited Stats := ⟨zero⟩

/-- Counts a poll. -/
def recordPoll (stats : Stats) : Stats := { stats with polls := stats.polls + 1 }

/-- Counts a poll whose query had no text. -/
def recordResolutionFailure (stats : Stats) : Stats :=
  { stats with resolutionFailures := stats.resolutionFailures + 1 }

/-- Counts a poll that the database failed. -/
def recordDatabaseFailure (stats : Stats) : Stats :=
  { stats with databaseFailures := stats.databaseFailures + 1 }

/-- Counts the messages of a poll; none of them make it an empty one. -/
def recordMessages (stats : Stats) (count : UInt64) : Stats :=
  { stats with
    messages := stats.messages + count
    emptyPolls := if count = 0 then stats.emptyPolls + 1 else stats.emptyPolls }

/-- The messages of a poll on average; zero before the first poll. -/
def averageMessages (stats : Stats) : Binary64 :=
  if stats.polls = 0 then .zero false
  else .ratio stats.messages.toNat stats.polls.toNat

/-- The counters with their names. -/
def counters (stats : Stats) : List (String × UInt64) :=
  [("polls", stats.polls), ("resolution_failures", stats.resolutionFailures),
   ("database_failures", stats.databaseFailures), ("messages", stats.messages),
   ("empty_polls", stats.emptyPolls)]

/-- Counters in diagnostics. -/
def describe (stats : Stats) : String :=
  let shown := stats.counters.map fun (name, count) =>
    name ++ ": " ++ String.ofList (Text.decimal count.toNat)
  let average := "avg_messages_per_poll: " ++ Value.describeBinary64 stats.averageMessages
  "SourceStats \x7b " ++ ", ".intercalate (shown ++ [average]) ++ " \x7d"

end Stats

end QueryFeed
