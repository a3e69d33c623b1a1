import QueryFeed.Number.Binary
import QueryFeed.Table

/-!
**JSON values.**

A whole number is kept apart from a number of double precision, also when the two are equal.  The
members of an object keep the order in which they were written.

Main definitions:

* `Json` — the values;
* `Json.ofBinary64` — a double, or `null` where there is no such number in JSON;
* `Json.equals` — equality up to the order of members.
-/

set_option autoImplicit false

namespace QueryFeed

/-- A JSON value. -/
inductive Json where
  | null
  | bool (value : Bool)
  | int (value : Int)
  | double (value : Binary64)
  | str (value : String)
  | arr (items : List Json)
  | obj (members : List (String × Json))

namespace Json

instance : Inhabited Json := ⟨null⟩

/-- A number of double precision; what JSON cannot write is `null`. -/
def ofBinary64 (x : Binary64) : Json := if x.isFinite then double x else null

/-- A count. -/
def ofNat (n : Nat) : Json := int n

/-- A list of texts. -/
def ofTexts (texts : List String) : Json := arr (texts.map str)

/-- The object with these members, the last one of a repeated key winning. -/
def ofEntries (entries : List (String × Json)) : Json := obj (Table.ofEntries entries)

/-- The member of an object. -/
def member? : Json → String → Option Json
  | obj members, name => Table.get? members name
  | _, _ => none

/-- The text of a string. -/
def text? : Json → Option String
  | str value => some value
  | _ => none

/-- The name of the kind of a value. -/
def kindName : Json → String
  | null => "null"
  | bool _ => "boolean"
  | int _ => "number"
  | double _ => "number"
  | str _ => "string"
  | arr _ => "array"
  | obj _ => "object"

mutual

/-- Equality of values: numbers of the same kind by their value, objects by their members in any
order. -/
def equals : Json → Json → Bool
  | null, null => true
  | bool a, bool b => a == b
  | int a, int b => a == b
  | double a, double b => a.equals b
  | str a, str b => a == b
  | arr as, arr bs => equalItems as bs
  | obj as, obj bs => as.length == bs.length && equalMembers as bs
  | _, _ => false

/-- Equality of the items of two arrays, in order. -/
def equalItems : List Json → List Json → Bool
  | [], [] => true
  | a :: as, b :: bs => equals a b && equalItems as bs
  | _, _ => false

/-- Whether each member has an equal one of the same key among `others`. -/
def equalMembers : List (String × Json) → List (String × Json) → Bool
  | [], _ => true
  | (key, value) :: rest, others =>
      (match Table.get? others key with
        | some other => equals value other
        | none => false) && equalMembers rest others

end

end Json

end QueryFeed
