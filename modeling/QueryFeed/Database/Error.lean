import QueryFeed.Text.Numeral

/-!
**What can go wrong with a database.**

Every error belongs to a category.  Only a lost connection and a query that did not answer in time are
worth another attempt.

Main definitions: `Database.Error`, `Database.Error.message`, `Database.Category`.
-/

set_option autoImplicit false

namespace QueryFeed.Database

/-- The kinds of errors. -/
inductive Category where
  | connection
  | query
  | mapping
  | resultSize
  | timeout
  | configuration
  deriving DecidableEq

namespace Category

/-- Whether an error of this kind may not occur again. -/
def isRetriable : Category → Bool
  | connection | timeout => true
  | _ => false

/-- The name of a category in records. -/
def name : Category → String
  | connection => "connection"
  | query => "query"
  | mapping => "mapping"
  | resultSize => "result_size"
  | timeout => "timeout"
  | configuration => "configuration"

end Category

/-- An error of a database.  `causes` lead from the nearest cause to the deepest one. -/
inductive Error where
  | connection (reason : String) (causes : List String)
  | query (reason : String) (sql : Option String)
  | mapping (reason : String) (cause : Option String)
  | resultSize (expected actual : Nat)
  | timeout (reason : String)
  | configuration (reason : String)
  deriving DecidableEq

namespace Error

/-- The category of an error. -/
def category : Error → Category
  | connection _ _ => .connection
  | query _ _ => .query
  | mapping _ _ => .mapping
  | resultSize _ _ => .resultSize
  | timeout _ => .timeout
  | configuration _ => .configuration

/-- Whether another attempt may succeed. -/
def isRetriable (e : Error) : Bool := e.category.isRetriable

/-- The query text that an error carries. -/
def sql? : Error → Option String
  | query _ sql => sql
  | _ => none

/-- The causes of an error, the nearest one first. -/
def causes : Error → List String
  | connection _ causes => causes
  | mapping _ cause => cause.toList
  | _ => []

/-- The wording of an error. -/
def message : Error → String
  | connection reason _ => "connection error: " ++ reason
  | query reason _ => "query error: " ++ reason
  | mapping reason _ => "row mapping error: " ++ reason
  | resultSize expected actual =>
      "incorrect result size: expected " ++ String.ofList (Text.decimal expected) ++
        ", actual " ++ String.ofList (Text.decimal actual)
  | timeout reason => "timeout: " ++ reason
  | configuration reason => "configuration error: " ++ reason

/-- The error of a query on a connection that was closed. -/
def closed : Error := connection "connection is closed" []

end Error

end QueryFeed.Database
