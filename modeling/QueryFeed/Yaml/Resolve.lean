import QueryFeed.Json.Basic
import QueryFeed.Yaml.Reference

/-!
**What the scalars of a document stand for.**

A plain scalar without a tag is null, a truth value or a number if it is written like one, and a text
otherwise; a scalar in quotation marks is a text.  Where a text is asked for, every scalar is one.
References have no value of their own: they are followed before.

Main definitions: `Node.asBool?`, `Node.asCount?`, `Node.asOption?`, `Node.toJson?`.
-/

set_option autoImplicit false

namespace QueryFeed.Yaml

/-! ### Plain scalars -/

/-- Whether a scalar is written like null. -/
def isNullText (text : List Char) : Bool :=
  ["null".toList, "Null".toList, "NULL".toList, ['~']].contains text

/-- The truth value that a scalar is written like. -/
def boolOfText? (text : List Char) : Option Bool :=
  if ["true".toList, "True".toList, "TRUE".toList].contains text then some true
  else if ["false".toList, "False".toList, "FALSE".toList].contains text then some false
  else none

/-- Whether a character is a sign. -/
def isSign (c : Char) : Bool := c = '+' || c = '-'

/-- A text without a plus sign in front. -/
def withoutPlus : List Char → List Char
  | '+' :: rest => rest
  | text => text

/-- Whether a text has digits only, and needless zeros in front. -/
def hasLeadingZero (text : List Char) : Bool :=
  match text with
  | c :: rest =>
      let digits := if isSign c then rest else c :: rest
      digits.head? == some '0' && 1 < digits.length && digits.all Text.isDigit
  | [] => false

/-- The number of a text with the mark of its base in front. -/
def basedNumeral? : List Char → Option Nat
  | '0' :: 'x' :: digits => Text.numeral? 16 digits
  | '0' :: 'o' :: digits => Text.numeral? 8 digits
  | '0' :: 'b' :: digits => Text.numeral? 2 digits
  | _ => none

/-- The whole number below `limit` that a scalar is written like. -/
def countOfText? (limit : Nat) (text : List Char) : Option Nat :=
  let bare := withoutPlus text
  let below (n : Option Nat) : Option Nat := n.filter (· < limit)
  (below (basedNumeral? bare)).or
    (if hasLeadingZero text then none else below (Text.numeral? 10 bare))

/-- The magnitude, at most `limit`, of the negative number that a scalar is written like. -/
def negativeOfText? (limit : Nat) (text : List Char) : Option Nat :=
  match text with
  | '-' :: bare =>
      let within (n : Option Nat) : Option Nat := n.filter (· ≤ limit)
      (within (basedNumeral? bare)).or
        (if hasLeadingZero text then none else within (Text.numeral? 10 bare))
  | _ => none

/-- The number of double precision that a scalar is written like. -/
def floatOfText? (text : List Char) : Option Binary64 :=
  let bare := withoutPlus text
  if bare.length < text.length && bare.head?.any isSign then none
  else if [".inf".toList, ".Inf".toList, ".INF".toList].contains bare then some (.infinity false)
  else if ["-.inf".toList, "-.Inf".toList, "-.INF".toList].contains text then some (.infinity true)
  else if [".nan".toList, ".NaN".toList, ".NAN".toList].contains text then some .nan
  else ((FloatLiteral.ofText? bare).map FloatLiteral.toBinary64).filter Binary64.isFinite

/-- The whole number that a scalar is written like; nothing inside of the option when the number is too
great for 64 bits. -/
def integerOfText? (text : List Char) : Option (Option Int) :=
  match countOfText? (Nat.pow 2 64) text, negativeOfText? (Nat.pow 2 63) text with
  | some n, _ => some (some n)
  | none, some n => some (some (-(n : Int)))
  | none, none =>
      if (countOfText? (Nat.pow 2 128) text).isSome then some none
      else (negativeOfText? (Nat.pow 2 127) text).map fun _ => none

/-- The value of a plain scalar without a tag; a whole number beyond 64 bits has none. -/
def plainToJson? (text : List Char) : Option Json :=
  if text.isEmpty || isNullText text then some .null
  else match boolOfText? text with
    | some value => some (.bool value)
    | none =>
        match integerOfText? text with
        | some found => found.map Json.int
        | none =>
            if hasLeadingZero text then some (.str (String.ofList text))
            else match floatOfText? text with
              | some value => some (.ofBinary64 value)
              | none => some (.str (String.ofList text))

namespace Node

/-! ### Typed reading -/

/-- The standard tag of a kind of scalars. -/
def standardTag (kind : String) : TagBytes := Text.utf8 ("tag:yaml.org,2002:" ++ kind)

/-- The text of a scalar that may be read as a value of a kind: a plain one, or a literal block with
the tag of the kind. -/
def unquoted? (kind : String) : Node → Option (List Char)
  | scalar _ .plain text => some text
  | scalar (some tag) .literal text => if tag = standardTag kind then some text else none
  | _ => none

/-- Reads a truth value. -/
def asBool? (node : Node) : Option Bool := (node.unquoted? "bool").bind boolOfText?

/-- Reads a whole number of 64 bits without sign. -/
def asCount? (node : Node) : Option Nat := (node.unquoted? "int").bind (countOfText? (Nat.pow 2 64))

/-- Reads a value that may be missing: null and nothing at all are no value. -/
def asOption? {α : Type} (read : Node → Option α) (node : Node) : Option (Option α) :=
  match node with
  | scalar none .plain text =>
      if text.isEmpty || isNullText text then some none else (read node).map some
  | scalar (some tag) .plain text =>
      if tag = standardTag "null" then (if isNullText text then some none else none)
      else (read node).map some
  | _ => (read node).map some

/-! ### Any value -/

/-- Whether a tag begins with its mark. -/
def isMarked (tag : TagBytes) : Bool := tag.head? == some 0x21

/-- Whether a tag names a kind that is not one of the standard ones. -/
def isLocalTag (tag : Option TagBytes) : Bool :=
  tag.any fun tag => isMarked tag && (Text.textOfUtf8? tag).isSome

/-- The value of a scalar.  A marked tag that is no text counts as none where the scalar is plain. -/
def scalarToJson? (tag : Option TagBytes) (style : ScalarStyle) (text : List Char) : Option Json :=
  let string : Json := .str (String.ofList text)
  match tag with
  | none => if style = .plain then plainToJson? text else some string
  | some tag =>
      if tag = standardTag "bool" then (boolOfText? text).map .bool
      else if tag = standardTag "int" then (integerOfText? text).bind fun n => n.map Json.int
      else if tag = standardTag "float" then (floatOfText? text).map .ofBinary64
      else if tag = standardTag "null" then (if isNullText text then some .null else none)
      else if isMarked tag && style = .plain then plainToJson? text
      else some string

mutual

/-- The value of a node.  It has none where a local tag is, where a key is no scalar, or where a whole
number is too great. -/
def toJson? : Node → Option Json
  | scalar tag style text => if isLocalTag tag then none else scalarToJson? tag style text
  | sequence tag items => if isLocalTag tag then none else (itemsToJson? items).map .arr
  | mapping tag entries => if isLocalTag tag then none else (entriesToJson? entries).map .ofEntries
  | reference _ => none

/-- The values of the items of a sequence. -/
def itemsToJson? : List Node → Option (List Json)
  | [] => some []
  | item :: rest => do
      let first ← item.toJson?
      let others ← itemsToJson? rest
      return first :: others

/-- The values of the entries of a mapping. -/
def entriesToJson? : List (Node × Node) → Option (List (String × Json))
  | [] => some []
  | (key, value) :: rest => do
      let name ← key.asText?
      let first ← value.toJson?
      let others ← entriesToJson? rest
      return (name, first) :: others

end

end Node

end QueryFeed.Yaml
