/-!
**Tokens of YAML.**

The indentation of a document is made explicit: block collections have a token where they begin and a
token where they end, just as collections in brackets have.

Main definitions: `ScalarStyle`, `TagBytes`, `Tag`, `Token`.
-/

set_option autoImplicit false

namespace QueryFeed.Yaml

/-- How a scalar is written. -/
inductive ScalarStyle where
  | plain
  | quoted
  | literal
  | folded
  deriving DecidableEq

/-- The bytes of a tag, which need not be UTF-8. -/
abbrev TagBytes := List UInt8

/-- A tag as it is written: a handle that stands for the beginning of the tag, and the rest. -/
structure Tag where
  handle : List Char
  suffix : TagBytes
  deriving DecidableEq

/-- A token. -/
inductive Token where
  | version (major minor : Nat)
  | handle (name : List Char) (expansion : TagBytes)
  | documentStart
  | documentEnd
  | blockSequence
  | blockMapping
  | blockEnd
  | flowSequence
  | flowSequenceEnd
  | flowMapping
  | flowMappingEnd
  | blockEntry
  | flowEntry
  | key
  | value
  | reference (name : List Char)
  | anchor (name : List Char)
  | tag (tag : Tag)
  | scalar (text : List Char) (style : ScalarStyle)
  deriving DecidableEq

end QueryFeed.Yaml
