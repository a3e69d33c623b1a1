import QueryFeed.Yaml.Scalar

/-!
**Cutting a YAML document into tokens.**

A simple key shows itself only by the colon after it.  So the place of every token that may be such a
key is kept, and when the colon comes, the token of the key, and where the key is the first of its
mapping also the token of the mapping, are put in front of it.

Main definitions: `Lexer`, `Lexer.next`, `tokens?`.
-/

set_option autoImplicit false

namespace QueryFeed.Yaml

/-- A token that may turn out to be a simple key. -/
structure PossibleKey where
  required : Bool
  place : Nat
  cursor : Cursor

/-- A document that is partly cut into tokens.  `keys` has one entry for the block and one for each
pair of open brackets, the innermost first. -/
structure Lexer where
  cursor : Cursor
  indent : Int
  outer : List Int
  keys : List (Option PossibleKey)
  keyAllowed : Bool
  tokens : List Token

namespace Lexer

/-- Nothing is cut yet. -/
def ofText (text : List Char) : Lexer := ⟨.ofText text, -1, [], [none], true, []⟩

/-- Whether the cursor is inside of brackets. -/
def inFlow (lexer : Lexer) : Bool := 1 < lexer.keys.length

/-- Adds a token. -/
def add (lexer : Lexer) (token : Token) : Lexer := { lexer with tokens := lexer.tokens ++ [token] }

/-- Moves to another place. -/
def moveTo (lexer : Lexer) (cursor : Cursor) : Lexer := { lexer with cursor := cursor }

/-- Allows or forbids a simple key. -/
def allow (lexer : Lexer) (keyAllowed : Bool) : Lexer := { lexer with keyAllowed := keyAllowed }

/-! ### Possible keys -/

/-- Forgets a possible key; one that had to be a key is an error. -/
def dropKey : Option PossibleKey → Option (Option PossibleKey)
  | some key => if key.required then none else some none
  | none => some none

/-- The greatest number of bytes of a simple key. -/
def keyLimit : Nat := 1024

/-- Forgets the possible keys whose line is over, or that are too long. -/
def dropStaleKeys (lexer : Lexer) : Option Lexer := do
  let keys ← lexer.keys.mapM fun key =>
    match key with
    | some found =>
        if found.cursor.line < lexer.cursor.line ||
            found.cursor.index + keyLimit < lexer.cursor.index then
          dropKey key
        else some key
    | none => some none
  return { lexer with keys := keys }

/-- Forgets the innermost possible key. -/
def removeKey (lexer : Lexer) : Option Lexer :=
  match lexer.keys with
  | [] => some lexer
  | key :: rest => (dropKey key).map fun key => { lexer with keys := key :: rest }

/-- Notes that the next token may be a simple key. -/
def saveKey (lexer : Lexer) : Option Lexer :=
  if lexer.keyAllowed then do
    let lexer ← lexer.removeKey
    let required := !lexer.inFlow && lexer.indent = lexer.cursor.column
    return { lexer with
      keys := some ⟨required, lexer.tokens.length, lexer.cursor⟩ :: lexer.keys.drop 1 }
  else some lexer

/-! ### Indentation -/

/-- Begins a block collection at a column right of the present one, by a token put in some place. -/
def openBlock (lexer : Lexer) (column : Nat) (place : Nat) (token : Token) : Lexer :=
  if !lexer.inFlow && lexer.indent < column then
    { lexer with
      indent := column
      outer := lexer.indent :: lexer.outer
      tokens := lexer.tokens.take place ++ token :: lexer.tokens.drop place }
  else lexer

/-- Ends the block collections right of a column. -/
def closeBlocksFrom (lexer : Lexer) (column : Int) : List Int → Lexer
  | [] => lexer
  | outer :: rest =>
      if column < lexer.indent then
        closeBlocksFrom
          { lexer with indent := outer, outer := rest, tokens := lexer.tokens ++ [.blockEnd] } column rest
      else lexer

/-- Ends the block collections right of a column, outside of brackets. -/
def closeBlocks (lexer : Lexer) (column : Int) : Lexer :=
  if lexer.inFlow then lexer else lexer.closeBlocksFrom column lexer.outer

/-! ### What is between tokens -/

/-- Moves over blanks, comments and line ends.  Where a key may stand, a tab is no blank. -/
def skipToToken : Nat → Lexer → Lexer
  | 0, lexer => lexer
  | steps + 1, lexer =>
      let cursor := lexer.cursor
      let cursor := if cursor.column = 0 && cursor.sees '\ufeff' then cursor.skip else cursor
      let tabs := lexer.inFlow || !lexer.keyAllowed
      let cursor := cursor.skipWhile fun c => c = ' ' || (tabs && c = '\t')
      let cursor := if cursor.sees '#' then cursor.skipWhile fun c => !isBreak c else cursor
      if cursor.seesAny isBreak then
        let lexer := lexer.moveTo cursor.skipBreak
        skipToToken steps (if lexer.inFlow then lexer else lexer.allow true)
      else lexer.moveTo cursor

/-! ### Tags, anchors and directives -/

/-- The characters of a tag; inside of `<` and `>`, and in a directive, more of them are allowed. -/
def isTagChar (isWide : Bool) (c : Char) : Bool :=
  isWordChar c || ";/?:@&=+$.!~*'()".toList.contains c || (isWide && [',', '[', ']'].contains c)

/-- How many bytes a character of UTF-8 has that begins with some byte, if any does. -/
def sequenceLength? (byte : Nat) : Option Nat :=
  if byte < 0x80 then some 1
  else if 0xc0 ≤ byte && byte < 0xe0 then some 2
  else if 0xe0 ≤ byte && byte < 0xf0 then some 3
  else if 0xf0 ≤ byte && byte < 0xf8 then some 4
  else none

/-- Reads a byte that is escaped by a percent sign and two digits. -/
def readEscapedByte (cursor : Cursor) : Option (Nat × Cursor) := do
  guard (cursor.sees '%')
  let digits := (cursor.rest.drop 1).take 2
  guard (digits.length = 2)
  let byte ← Text.numeral? 16 digits
  return (byte, cursor.skips 3)

/-- Reads escaped bytes that continue a character. -/
def readContinuation : Nat → Cursor → Option (TagBytes × Cursor)
  | 0, cursor => some ([], cursor)
  | count + 1, cursor => do
      let (byte, cursor) ← readEscapedByte cursor
      guard (0x80 ≤ byte && byte < 0xc0)
      let (bytes, cursor) ← readContinuation count cursor
      return (UInt8.ofNat byte :: bytes, cursor)

/-- Reads the escaped bytes of one character.  Their number has to fit the first of them, but they may
stand for no character at all. -/
def readEscaped (cursor : Cursor) : Option (TagBytes × Cursor) := do
  let (byte, cursor) ← readEscapedByte cursor
  let length ← sequenceLength? byte
  let (bytes, cursor) ← readContinuation (length - 1) cursor
  return (UInt8.ofNat byte :: bytes, cursor)

/-- Reads characters of a tag, with escaped bytes put back. -/
def readTagText (isWide : Bool) : Nat → TagBytes → Cursor → Option (TagBytes × Cursor)
  | 0, _, _ => none
  | steps + 1, read, cursor =>
      match cursor.peek? with
      | none => some (read, cursor)
      | some c =>
          if c = '%' then do
            let (bytes, cursor) ← readEscaped cursor
            readTagText isWide steps (read ++ bytes) cursor
          else if isTagChar isWide c then
            readTagText isWide steps (read ++ [UInt8.ofNat c.toNat]) cursor.skip
          else some (read, cursor)

/-- The bytes of a tag that count: those before the first zero byte. -/
def beforeZero (bytes : TagBytes) : TagBytes := bytes.takeWhile (· ≠ 0)

/-- Reads the handle of a tag: a mark, a word, and perhaps a second mark. -/
def readHandle (cursor : Cursor) : Option (List Char × Cursor) := do
  guard (cursor.sees '!')
  let word := (cursor.rest.drop 1).takeWhile isWordChar
  let next := cursor.skips (word.length + 1)
  if next.sees '!' then return ('!' :: word ++ ['!'], next.skip) else return ('!' :: word, next)

/-- Reads a tag. -/
def readTag (inFlow : Bool) (cursor : Cursor) : Option (Tag × Cursor) := do
  let (tag, cursor) ←
    if cursor.ahead? 1 == some '<' then do
      let next := cursor.skips 2
      let (suffix, next) ← readTagText true (next.rest.length + 1) [] next
      guard (!suffix.isEmpty && next.sees '>')
      pure (Tag.mk [] (beforeZero suffix), next.skip)
    else do
      let (handle, next) ← readHandle cursor
      let (text, next) ← readTagText false (next.rest.length + 1) [] next
      if 1 < handle.length && handle.getLast? == some '!' then
        guard (!text.isEmpty)
        pure (Tag.mk handle (beforeZero text), next)
      else
        let suffix := beforeZero (Text.utf8 (String.ofList (handle.drop 1)) ++ text)
        pure (if suffix.isEmpty then Tag.mk [] (Text.utf8 "!") else Tag.mk ['!'] suffix, next)
  guard ((inFlow && cursor.sees ',') || cursor.blankOrEndAt 0)
  return (tag, cursor)

/-- Reads the name of an anchor after its mark. -/
def readAnchor (cursor : Cursor) : Option (List Char × Cursor) := do
  let name := cursor.rest.takeWhile isWordChar
  let next := cursor.skips name.length
  let ends := next.blankOrEndAt 0 || next.seesAny fun c => "?:,]\x7d%@\x60".toList.contains c
  if name.isEmpty || !ends then none else return (name, next)

/-- Reads a version number. -/
def readVersion (cursor : Cursor) : Option (Token × Cursor) := do
  let cursor := cursor.skipWhile isSpace
  let major := cursor.rest.takeWhile Text.isDigit
  let cursor := cursor.skips major.length
  guard (cursor.sees '.')
  let minor := cursor.skip.rest.takeWhile Text.isDigit
  guard (major.length ≤ 9 && minor.length ≤ 9)
  let majorValue ← Text.numeral? 10 major
  let minorValue ← Text.numeral? 10 minor
  return (.version majorValue minorValue, cursor.skip.skips minor.length)

/-- Reads a handle and what it stands for. -/
def readHandleDirective (cursor : Cursor) : Option (Token × Cursor) := do
  let (handle, cursor) ← readHandle (cursor.skipWhile isSpace)
  guard (handle = ['!'] || handle.getLast? == some '!')
  guard (cursor.seesAny isSpace)
  let cursor := cursor.skipWhile isSpace
  let (expansion, cursor) ← readTagText true (cursor.rest.length + 1) [] cursor
  guard (!expansion.isEmpty && cursor.blankOrEndAt 0)
  return (.handle handle (beforeZero expansion), cursor)

/-- Reads a directive after its mark. -/
def readDirective (cursor : Cursor) : Option (Token × Cursor) := do
  let name := cursor.rest.takeWhile isWordChar
  let next := cursor.skips name.length
  guard (next.blankOrEndAt 0)
  let (token, next) ←
    if name = "YAML".toList then readVersion next
    else if name = "TAG".toList then readHandleDirective next
    else none
  let next := next.skipComment
  guard next.atLineEnd
  return (token, next.skipBreak)

/-! ### Single tokens -/

/-- Takes a token of one character. -/
def mark (lexer : Lexer) (token : Token) : Lexer := (lexer.add token).moveTo lexer.cursor.skip

/-- Takes an opening bracket. -/
def openFlow (lexer : Lexer) (token : Token) : Option Lexer := do
  let lexer ← lexer.saveKey
  return ({ lexer with keys := none :: lexer.keys }.allow true).mark token

/-- Takes a closing bracket. -/
def closeFlow (lexer : Lexer) (token : Token) : Option Lexer := do
  let lexer ← lexer.removeKey
  let keys := if lexer.inFlow then lexer.keys.drop 1 else lexer.keys
  return ({ lexer with keys := keys }.allow false).mark token

/-- Takes a comma. -/
def flowEntry (lexer : Lexer) : Option Lexer := do
  let lexer ← lexer.removeKey
  return (lexer.allow true).mark .flowEntry

/-- Begins a block collection with the mark at the cursor, where one may stand. -/
def beginBlock (lexer : Lexer) (token : Token) : Option Lexer :=
  if lexer.inFlow then some lexer
  else if !lexer.keyAllowed then none
  else some (lexer.openBlock lexer.cursor.column lexer.tokens.length token)

/-- Takes the mark of an entry of a block sequence. -/
def blockEntry (lexer : Lexer) : Option Lexer := do
  let lexer ← lexer.beginBlock .blockSequence
  let lexer ← lexer.removeKey
  return (lexer.allow true).mark .blockEntry

/-- Takes the mark of an explicit key. -/
def explicitKey (lexer : Lexer) : Option Lexer := do
  let lexer ← lexer.beginBlock .blockMapping
  let lexer ← lexer.removeKey
  return (lexer.allow (!lexer.inFlow)).mark .key

/-- Takes the colon of a value, and puts the key in front of the token that turns out to be one. -/
def takeValue (lexer : Lexer) : Option Lexer :=
  match lexer.keys with
  | some key :: rest =>
      let tokens := lexer.tokens.take key.place ++ Token.key :: lexer.tokens.drop key.place
      let lexer := { lexer with keys := none :: rest, tokens := tokens }
      some (((lexer.openBlock key.cursor.column key.place .blockMapping).allow false).mark .value)
  | _ => do
      let lexer ← lexer.beginBlock .blockMapping
      return (lexer.allow (!lexer.inFlow)).mark .value

/-- Takes a token that may be a simple key. -/
def takeNode (lexer : Lexer) (read : Cursor → Option (Token × Cursor)) : Option Lexer := do
  let lexer ← lexer.saveKey
  let (token, cursor) ← read lexer.cursor
  return ((lexer.allow false).add token).moveTo cursor

/-- Takes a block scalar. -/
def takeBlock (lexer : Lexer) (isLiteral : Bool) : Option Lexer := do
  let lexer ← lexer.removeKey
  let (text, cursor) ← readBlock isLiteral lexer.indent lexer.cursor.skip
  let style := if isLiteral then ScalarStyle.literal else .folded
  return ((lexer.allow true).add (.scalar text style)).moveTo cursor

/-- Takes a quoted scalar. -/
def takeQuoted (lexer : Lexer) (quotation : Char) : Option Lexer :=
  lexer.takeNode fun cursor => do
    let (text, cursor) ← readQuoted quotation (cursor.rest.length + 1) [] cursor.skip
    return (.scalar text .quoted, cursor)

/-- Takes a plain scalar. -/
def takePlain (lexer : Lexer) : Option Lexer := do
  let lexer ← lexer.saveKey
  let cursor := lexer.cursor
  let (text, isBroken, cursor) ←
    readPlain lexer.inFlow (lexer.indent + 1) (cursor.rest.length + 1) [] .empty cursor
  return ((lexer.allow isBroken).add (.scalar text .plain)).moveTo cursor

/-- Takes a token before which all blocks end. -/
def takeOutside (lexer : Lexer) (token : Token) (cursor : Cursor) : Option Lexer := do
  let lexer ← (lexer.closeBlocks (-1)).removeKey
  return ((lexer.allow false).add token).moveTo cursor

/-- Whether a plain scalar may begin with a character. -/
def beginsPlain (lexer : Lexer) (c : Char) : Bool :=
  let cursor := lexer.cursor
  !("-?:,[]\x7b\x7d#&*!|>'\"%@\x60".toList.contains c || isSpace c || isBreak c) ||
    (c = '-' && !(cursor.ahead? 1).any isSpace) ||
    (!lexer.inFlow && (c = '?' || c = ':') && !cursor.blankOrEndAt 1)

/-- Takes the token that begins with a character. -/
def takeFrom (lexer : Lexer) (c : Char) : Option Lexer :=
  let cursor := lexer.cursor
  if cursor.column = 0 && c = '%' then do
    let (token, next) ← readDirective cursor.skip
    lexer.takeOutside token next
  else if cursor.atMark '-' then lexer.takeOutside .documentStart (cursor.skips 3)
  else if cursor.atMark '.' then lexer.takeOutside .documentEnd (cursor.skips 3)
  else if c = '[' then lexer.openFlow .flowSequence
  else if c = '\x7b' then lexer.openFlow .flowMapping
  else if c = ']' then lexer.closeFlow .flowSequenceEnd
  else if c = '\x7d' then lexer.closeFlow .flowMappingEnd
  else if c = ',' then lexer.flowEntry
  else if c = '-' && cursor.blankOrEndAt 1 then lexer.blockEntry
  else if c = '?' && (lexer.inFlow || cursor.blankOrEndAt 1) then lexer.explicitKey
  else if c = ':' && (lexer.inFlow || cursor.blankOrEndAt 1) then lexer.takeValue
  else if c = '*' then
    lexer.takeNode fun cursor =>
      (readAnchor cursor.skip).map fun (name, next) => (.reference name, next)
  else if c = '&' then
    lexer.takeNode fun cursor => (readAnchor cursor.skip).map fun (name, next) => (.anchor name, next)
  else if c = '!' then
    lexer.takeNode fun cursor => (readTag lexer.inFlow cursor).map fun (tag, next) => (.tag tag, next)
  else if c = '|' && !lexer.inFlow then lexer.takeBlock true
  else if c = '>' && !lexer.inFlow then lexer.takeBlock false
  else if c = '\'' || c = '"' then lexer.takeQuoted c
  else if lexer.beginsPlain c then lexer.takePlain
  else none

/-! ### All tokens -/

/-- Cuts the next token, or ends all blocks at the end of the text. -/
def next (lexer : Lexer) : Option Lexer := do
  let lexer := skipToToken (lexer.cursor.rest.length + 1) lexer
  let lexer ← lexer.dropStaleKeys
  let lexer := lexer.closeBlocks lexer.cursor.column
  match lexer.cursor.peek? with
  | none => (lexer.closeBlocks (-1)).removeKey
  | some c => lexer.takeFrom c

/-- Cuts tokens until the text is at its end. -/
def all : Nat → Lexer → Option (List Token)
  | 0, _ => none
  | steps + 1, lexer => do
      let lexer ← lexer.next
      if lexer.cursor.rest.isEmpty then
        let lexer ← lexer.next
        return lexer.tokens
      else all steps lexer

end Lexer

/-- The tokens of a text. -/
def tokens? (text : List Char) : Option (List Token) := do
  guard (text.all isPrintable)
  Lexer.all (text.length + 1) (.ofText text)

end QueryFeed.Yaml
