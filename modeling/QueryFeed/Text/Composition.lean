import QueryFeed.Text.CombiningClass
import QueryFeed.Text.Composite

/-!
**Composed text.**

The same text can be written with composite characters or with marks of their own, and marks that do not
interact can stand in any order.  Composed text has one form: marks are in ascending order of their
classes, and a mark is composed with the character it belongs to wherever there is a composite.

Main definitions:

* `decomposed`, `ordered` — marks of their own, in order;
* `composed` — the composed form.
-/

set_option autoImplicit false

namespace QueryFeed.Text

/-- A character in its parts, the first of which may have parts in turn; `steps` bounds how often. -/
def decomposedChar : Nat → Char → List Char
  | 0, c => [c]
  | steps + 1, c =>
      match parts? c with
      | some (first, second) => decomposedChar steps first ++ [second]
      | none => [c]

/-- A text without composites.  No composite has more than three marks. -/
def decomposed (text : List Char) : List Char := text.flatMap (decomposedChar 4)

/-- Puts a character in front of ordered text: behind the marks of lower classes, if it is a mark. -/
def insertMark (c : Char) : List Char → List Char
  | [] => [c]
  | next :: rest =>
      if combiningClass next ≠ 0 ∧ combiningClass next < combiningClass c then
        next :: insertMark c rest
      else c :: next :: rest

/-- A text whose marks are in order. -/
def ordered (text : List Char) : List Char := text.foldr insertMark []

/-- Composes what follows a base with it.  The marks that are kept between the base and the rest are given
in reverse; the last of them has the class `last`, and keeps marks of the same class away. -/
def composedAfter (base : Char) (kept : List Char) (last : Nat) : List Char → List Char
  | [] => base :: kept.reverse
  | c :: rest =>
      let isNear := kept.isEmpty || last < combiningClass c
      match (if isNear then composite? base c else none) with
      | some composite => composedAfter composite kept last rest
      | none =>
          if combiningClass c = 0 then base :: kept.reverse ++ composedAfter c [] 0 rest
          else composedAfter base (c :: kept) (combiningClass c) rest

/-- The composed form of a text. -/
def composed (text : List Char) : List Char :=
  match ordered (decomposed text) with
  | [] => []
  | base :: rest => composedAfter base [] 0 rest

end QueryFeed.Text
