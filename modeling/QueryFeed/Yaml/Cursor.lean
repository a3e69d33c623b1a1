/-!
**Places in a document.**

A cursor is the text that is still to be read, together with the number of bytes read so far, counted in
UTF-8, and the line and the column that follow from them.

Main definitions: `Cursor`, `Cursor.skip`, `Cursor.readBreak`, `Cursor.atDocumentMark`.
-/

set_option autoImplicit false

namespace QueryFeed.Yaml

/-! ### Characters -/

/-- Whether a character may occur in a document. -/
def isPrintable (c : Char) : Bool :=
  let n := c.toNat
  n = 0x09 || n = 0x0a || n = 0x0d || (0x20 ≤ n && n ≤ 0x7e) || n = 0x85 ||
    (0xa0 ≤ n && n ≤ 0xd7ff) || (0xe000 ≤ n && n ≤ 0xfffd) || (0x10000 ≤ n && n ≤ 0x10ffff)

/-- Whether a character is a blank within a line. -/
def isSpace (c : Char) : Bool := c = ' ' || c = '\t'

/-- Whether a character ends a line. -/
def isBreak (c : Char) : Bool :=
  c = '\r' || c = '\n' || c = '\x85' || c = '\u2028' || c = '\u2029'

/-- Whether a character may occur in the name of an anchor. -/
def isWordChar (c : Char) : Bool := c.isAlphanum || c = '_' || c = '-'

/-! ### Cursors -/

/-- A place in a document. -/
structure Cursor where
  rest : List Char
  index : Nat
  line : Nat
  column : Nat

namespace Cursor

/-- The beginning of a text. -/
def ofText (text : List Char) : Cursor := ⟨text, 0, 0, 0⟩

/-- The character at a cursor. -/
def peek? (cursor : Cursor) : Option Char := cursor.rest.head?

/-- The character a number of places after a cursor. -/
def ahead? (cursor : Cursor) (distance : Nat) : Option Char := cursor.rest[distance]?

/-- Whether a certain character is at the cursor. -/
def sees (cursor : Cursor) (c : Char) : Bool := cursor.peek? == some c

/-- Whether the text ends at a place. -/
def endsAt (cursor : Cursor) (distance : Nat) : Bool := (cursor.ahead? distance).isNone

/-- Whether a character of a class is at the cursor. -/
def seesAny (cursor : Cursor) (isIn : Char → Bool) : Bool := cursor.peek?.any isIn

/-- Whether a blank, a line end or the end of the text is at a place. -/
def blankOrEndAt (cursor : Cursor) (distance : Nat) : Bool :=
  match cursor.ahead? distance with
  | none => true
  | some c => isSpace c || isBreak c

/-- Whether a line end or the end of the text is at the cursor. -/
def atLineEnd (cursor : Cursor) : Bool := cursor.endsAt 0 || cursor.seesAny isBreak

/-- The number of bytes of some characters. -/
def byteCount (text : List Char) : Nat := text.foldl (fun count c => count + c.utf8Size) 0

/-- Moves over a number of characters. -/
def skips (cursor : Cursor) (count : Nat) : Cursor :=
  ⟨cursor.rest.drop count, cursor.index + byteCount (cursor.rest.take count), cursor.line,
    cursor.column + count⟩

/-- Moves over one character. -/
def skip (cursor : Cursor) : Cursor := cursor.skips 1

/-- Moves over the characters of a class, which holds no line end. -/
def skipWhile (cursor : Cursor) (isIn : Char → Bool) : Cursor :=
  cursor.skips (cursor.rest.takeWhile isIn).length

/-- Moves over a line end, and gives the line end that it stands for. -/
def readBreak (cursor : Cursor) : List Char × Cursor :=
  match cursor.rest with
  | '\r' :: '\n' :: rest => (['\n'], ⟨rest, cursor.index + 2, cursor.line + 1, 0⟩)
  | c :: rest =>
      if c = '\r' ∨ c = '\n' ∨ c = '\x85' then
        (['\n'], ⟨rest, cursor.index + c.utf8Size, cursor.line + 1, 0⟩)
      else if isBreak c then ([c], ⟨rest, cursor.index + c.utf8Size, cursor.line + 1, 0⟩)
      else ([], cursor)
  | [] => ([], cursor)

/-- Moves over a line end. -/
def skipBreak (cursor : Cursor) : Cursor := cursor.readBreak.2

/-- Moves over blanks and a comment to the end of the line. -/
def skipComment (cursor : Cursor) : Cursor :=
  let cursor := cursor.skipWhile isSpace
  if cursor.sees '#' then cursor.skipWhile fun c => !isBreak c else cursor

/-- Whether three equal marks stand at the beginning of a line, with nothing joined to them. -/
def atMark (cursor : Cursor) (mark : Char) : Bool :=
  cursor.column = 0 && cursor.rest.take 3 == [mark, mark, mark] && cursor.blankOrEndAt 3

/-- Whether a mark that starts or ends a document is at the cursor. -/
def atDocumentMark (cursor : Cursor) : Bool := cursor.atMark '-' || cursor.atMark '.'

end Cursor

end QueryFeed.Yaml
