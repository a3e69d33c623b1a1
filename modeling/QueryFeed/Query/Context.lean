import QueryFeed.Json.Basic

/-!
**What queries are evaluated against.**

A context holds the registry, which is fixed, and the variables, which may change between two polls.
A variable hides the registry entry of the same name.

Main definitions: `Context`, `Context.lookup`, `Context.setVariable`, `Context.removeVariable`.
-/

set_option autoImplicit false

namespace QueryFeed

/-- The named values that were there from the start. -/
abbrev Registry := Table Json

/-- The names that a query may use. -/
structure Context where
  registry : Registry
  bindings : Table Json

namespace Context

/-- A context without variables. -/
def ofRegistry (registry : Registry) : Context := ⟨registry, []⟩

/-- The value of a variable. -/
def getVariable? (context : Context) (name : String) : Option Json := Table.get? context.bindings name

/-- The value of a name: of the variable, or else of the registry entry. -/
def lookup (context : Context) (name : String) : Option Json :=
  (context.getVariable? name).or (Table.get? context.registry name)

/-- The context in which a variable has a value. -/
def setVariable (context : Context) (name : String) (value : Json) : Context :=
  { context with bindings := Table.insert context.bindings name value }

/-- The context without a variable. -/
def removeVariable (context : Context) (name : String) : Context :=
  { context with bindings := Table.erase context.bindings name }

end Context

end QueryFeed
