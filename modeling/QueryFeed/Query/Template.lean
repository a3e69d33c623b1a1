import QueryFeed.Text.Numeral
import QueryFeed.Text.Scan

/-!
**Query templates.**

A placeholder is `#`, a name between braces, as in `WHERE id = #{id}`.  A name starts with an
ASCII letter or an underscore and goes on with letters, digits, underscores and points.  Everything
else in a text stands for itself, also a placeholder that is not well formed.

Main definitions: `Template.Piece`, `Template.placeholderAt?`, `Template.pieces`,
`Template.placeholders`.
-/

set_option autoImplicit false

namespace QueryFeed.Template

/-- Whether a name may start with a character. -/
def isNameStart (c : Char) : Bool := c.isAlpha || c = '_'

/-- Whether a name may go on with a character. -/
def isNameChar (c : Char) : Bool := isNameStart c || Text.isDigit c || c = '.'

/-- The name that stands before a closing brace, and what follows the brace. -/
def nameBeforeBrace? (text : List Char) : Option (List Char × List Char) :=
  match text.takeWhile isNameChar, text.dropWhile isNameChar with
  | c :: name, '\x7d' :: rest => if isNameStart c then some (c :: name, rest) else none
  | _, _ => none

/-- The name of the placeholder with which a text begins, and what follows it. -/
def placeholderAt? : List Char → Option (List Char × List Char)
  | '#' :: '\x7b' :: text => nameBeforeBrace? text
  | _ => none

theorem length_of_nameBeforeBrace? {text name rest : List Char}
    (h : nameBeforeBrace? text = some (name, rest)) : rest.length < text.length := by
  unfold nameBeforeBrace? at h
  have split := congrArg List.length (List.takeWhile_append_dropWhile (p := isNameChar) (l := text))
  rw [List.length_append] at split
  split at h
  · rename_i hd
    split at h
    · simp only [Option.some.injEq, Prod.mk.injEq] at h
      rw [hd, List.length_cons] at split
      rw [← h.2]
      omega
    · simp at h
  · simp at h

theorem length_of_placeholderAt? {text name rest : List Char}
    (h : placeholderAt? text = some (name, rest)) : rest.length < text.length := by
  unfold placeholderAt? at h
  split at h
  · have := length_of_nameBeforeBrace? h
    simp only [List.length_cons]
    omega
  · simp at h

/-- A part of a template. -/
inductive Piece where
  | plain (c : Char)
  | placeholder (name : String)
  deriving DecidableEq

/-- A placeholder is marked in a text. -/
def scanner : Text.Scanner (List Char) Piece :=
  ⟨.plain, fun name => .placeholder (String.ofList name), placeholderAt?, length_of_placeholderAt?⟩

@[simp] theorem scanner_at? (text : List Char) : scanner.at? text = placeholderAt? text := rfl

@[simp] theorem scanner_plain (c : Char) : scanner.plain c = .plain c := rfl

@[simp] theorem scanner_marked (name : List Char) :
    scanner.marked name = .placeholder (String.ofList name) := rfl

/-- The parts of a template. -/
def pieces (text : String) : List Piece := scanner.scan text.toList

/-- The name of a placeholder. -/
def Piece.name? : Piece → Option String
  | plain _ => none
  | placeholder name => some name

/-- The names of the placeholders, in the order of the text. -/
def placeholders (text : String) : List String := (pieces text).filterMap Piece.name?

/-- Whether a text has a placeholder. -/
def hasPlaceholders (text : String) : Bool := !(placeholders text).isEmpty

end QueryFeed.Template
