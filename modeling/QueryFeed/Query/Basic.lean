import QueryFeed.FeedError
import QueryFeed.Query.Context
import QueryFeed.Query.Template
import QueryFeed.Text.Quoted

/-!
**Where the text of a query comes from.**

A query is fixed text, or it is evaluated anew on every poll: the value of a name, a template, or any
computation on the context.  An evaluation must give a text.

Main definitions: `Query`, `Query.ofText`, `Template.fill`, `Query.resolve`.
-/

set_option autoImplicit false

namespace QueryFeed

/-- Where the text of a query comes from.  A computation may change the variables. -/
inductive Query where
  | literal (sql : String)
  | named (name : String)
  | template (text : String)
  | computed (evaluate : Context → Except FeedError Json × Context)

namespace Template

/-- The text that a value is inserted as; null, arrays and objects cannot be inserted. -/
def insertable? : Json → Option String
  | .str value => some value
  | .bool value => some (Json.bool value).compact
  | .int value => some (Json.int value).compact
  | .double value => some (Json.double value).compact
  | _ => none

/-- The text of a part. -/
def Piece.fill (context : Context) : Piece → Except FeedError String
  | plain c => .ok (String.singleton c)
  | placeholder name =>
      match context.lookup name with
      | none => .error (.expression (.unknownVariable name))
      | some value =>
          match insertable? value with
          | none => .error (.expression (.notInsertable name value))
          | some text => .ok text

/-- The text of the parts one after the other; the first part that cannot be filled decides. -/
def fillAll (context : Context) : List Piece → Except FeedError String
  | [] => .ok ""
  | piece :: rest => do
      let first ← piece.fill context
      let others ← fillAll context rest
      return first ++ others

/-- The text in which every placeholder is replaced. -/
def fill (context : Context) (text : String) : Except FeedError String :=
  fillAll context (pieces text)

end Template

namespace Query

/-- Fixed text, or a template where the text has placeholders. -/
def ofText (text : String) : Query :=
  if Template.hasPlaceholders text then template text else literal text

/-- Whether the text is evaluated anew on every poll. -/
def isDynamic : Query → Bool
  | literal _ => false
  | _ => true

/-- The value of a query that is not fixed text. -/
def evaluate : Query → Context → Except FeedError Json × Context
  | literal sql, context => (.ok (.str sql), context)
  | named name, context =>
      match context.lookup name with
      | some value => (.ok value, context)
      | none => (.error (.expression (.unknownVariable name)), context)
  | template text, context => ((Template.fill context text).map Json.str, context)
  | computed evaluate, context => evaluate context

/-- Requires a value to be a text. -/
def requireText : Json → Except FeedError String
  | .str sql => .ok sql
  | other => .error (.queryType other)

/-- The text of a query for one poll, and the context afterwards. -/
def resolve (query : Query) (context : Context) : Except FeedError String × Context :=
  let (value, context) := query.evaluate context
  (value >>= requireText, context)

/-- A query in diagnostics. -/
def describe : Query → String
  | literal sql => "Literal(" ++ Text.quote sql ++ ")"
  | named name => "Expression(" ++ Text.quote ("#\x7b" ++ name ++ "\x7d") ++ ")"
  | template text => "Expression(" ++ Text.quote text ++ ")"
  | computed _ => "Expression(" ++ Text.quote "<expression>" ++ ")"

end Query

end QueryFeed
