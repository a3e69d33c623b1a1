import QueryFeed.Text.Bytes
import QueryFeed.Yaml.Cursor
import QueryFeed.Yaml.Token

/-!
**Scalars of YAML.**

A scalar is plain, quoted with one or two marks, or a block that keeps or folds its lines.  Within a
plain or quoted scalar a line end counts as a blank, and further empty lines count as line ends.

Main definitions: `Gap`, `readQuoted`, `readPlain`, `readBlock`.
-/

set_option autoImplicit false

namespace QueryFeed.Yaml

/-! ### Gaps between words -/

/-- What stands between two words of a scalar: blanks, or a first line end and further ones. -/
structure Gap where
  spaces : List Char
  isBroken : Bool
  firstBreak : List Char
  furtherBreaks : List Char

namespace Gap

/-- Nothing. -/
def empty : Gap := ⟨[], false, [], []⟩

/-- What a gap stands for. -/
def fold (gap : Gap) : List Char :=
  if !gap.isBroken then gap.spaces
  else if gap.firstBreak = ['\n'] then
    if gap.furtherBreaks.isEmpty then [' '] else gap.furtherBreaks
  else gap.firstBreak ++ gap.furtherBreaks

end Gap

/-- Reads blanks and line ends.  Left of the column `indent` a line must not begin with a tab. -/
def readGap (indent : Int) : Nat → Gap → Cursor → Option (Gap × Cursor)
  | 0, _, _ => none
  | steps + 1, gap, cursor =>
      match cursor.peek? with
      | none => some (gap, cursor)
      | some c =>
          if isSpace c then
            if gap.isBroken then
              if (cursor.column : Int) < indent && c = '\t' then none
              else readGap indent steps gap cursor.skip
            else readGap indent steps { gap with spaces := gap.spaces ++ [c] } cursor.skip
          else if isBreak c then
            let (text, next) := cursor.readBreak
            if gap.isBroken then
              readGap indent steps { gap with furtherBreaks := gap.furtherBreaks ++ text } next
            else readGap indent steps ⟨[], true, text, gap.furtherBreaks⟩ next
          else some (gap, cursor)

/-! ### Quoted scalars -/

/-- The character of an escape of one letter. -/
def escapedChar? (c : Char) : Option Char :=
  match c with
  | '0' => some '\x00'
  | 'a' => some '\x07'
  | 'b' => some '\x08'
  | 't' => some '\t'
  | '\t' => some '\t'
  | 'n' => some '\n'
  | 'v' => some '\x0b'
  | 'f' => some '\x0c'
  | 'r' => some '\r'
  | 'e' => some '\x1b'
  | ' ' => some ' '
  | '"' => some '"'
  | '/' => some '/'
  | '\\' => some '\\'
  | 'N' => some '\x85'
  | '_' => some '\xa0'
  | 'L' => some '\u2028'
  | 'P' => some '\u2029'
  | _ => none

/-- The number of digits of an escape by number. -/
def escapeDigits? (c : Char) : Option Nat :=
  match c with
  | 'x' => some 2
  | 'u' => some 4
  | 'U' => some 8
  | _ => none

/-- Reads what follows a backslash. -/
def readEscape (cursor : Cursor) : Option (Char × Cursor) := do
  let c ← cursor.peek?
  match escapeDigits? c with
  | none => (escapedChar? c).map fun found => (found, cursor.skip)
  | some width =>
      let digits := (cursor.rest.drop 1).take width
      guard (digits.length = width)
      let code ← Text.numeral? 16 digits
      if code.isValidChar then return (Char.ofNat code, cursor.skips (width + 1)) else none

/-- Reads the characters of a quoted scalar up to a blank or the closing mark.  An escaped line end
also stops the run, and says so. -/
def readQuotedRun (mark : Char) : Nat → List Char → Cursor → Option (List Char × Bool × Cursor)
  | 0, _, _ => none
  | steps + 1, read, cursor =>
      match cursor.peek? with
      | none => some (read, false, cursor)
      | some c =>
          if isSpace c || isBreak c then some (read, false, cursor)
          else if mark = '\'' && c = '\'' && cursor.ahead? 1 == some '\'' then
            readQuotedRun mark steps (read ++ ['\'']) (cursor.skips 2)
          else if c = mark then some (read, false, cursor)
          else if mark = '"' && c = '\\' then
            let next := cursor.skip
            if next.seesAny isBreak then some (read, true, next.skipBreak)
            else do
              let (found, next) ← readEscape next
              readQuotedRun mark steps (read ++ [found]) next
          else readQuotedRun mark steps (read ++ [c]) cursor.skip

/-- Reads a quoted scalar after its opening mark. -/
def readQuoted (mark : Char) : Nat → List Char → Cursor → Option (List Char × Cursor)
  | 0, _, _ => none
  | steps + 1, read, cursor => do
      guard (!cursor.atDocumentMark && !cursor.endsAt 0)
      let (read, isEscapedBreak, cursor) ← readQuotedRun mark (cursor.rest.length + 1) read cursor
      if cursor.sees mark then return (read, cursor.skip)
      else
        let gap := { Gap.empty with isBroken := isEscapedBreak }
        let (gap, cursor) ← readGap (-1) (cursor.rest.length + 1) gap cursor
        readQuoted mark steps (read ++ gap.fold) cursor

/-! ### Plain scalars -/

/-- Whether a character separates the parts of a collection in brackets. -/
def isFlowMark (c : Char) : Bool :=
  c = ',' || c = '[' || c = ']' || c = '\x7b' || c = '\x7d'

/-- Reads a word of a plain scalar.  In brackets a colon must not be joined to a separator. -/
def readWord (inFlow : Bool) : Nat → List Char → Cursor → Option (List Char × Cursor)
  | 0, _, _ => none
  | steps + 1, read, cursor =>
      match cursor.peek? with
      | none => some (read, cursor)
      | some c =>
          if isSpace c || isBreak c then some (read, cursor)
          else if inFlow && c = ':' &&
              (cursor.ahead? 1).any (fun after => isFlowMark after || after = '?') then none
          else if c = ':' && cursor.blankOrEndAt 1 then some (read, cursor)
          else if inFlow && isFlowMark c then some (read, cursor)
          else readWord inFlow steps (read ++ [c]) cursor.skip

/-- Reads a plain scalar whose further lines begin at column `indent` or right of it, and says whether
a line end follows it. -/
def readPlain (inFlow : Bool) (indent : Int) :
    Nat → List Char → Gap → Cursor → Option (List Char × Bool × Cursor)
  | 0, _, _, _ => none
  | steps + 1, read, gap, cursor =>
      if cursor.atDocumentMark || cursor.sees '#' then some (read, gap.isBroken, cursor)
      else do
        let (word, cursor) ← readWord inFlow (cursor.rest.length + 1) [] cursor
        let (read, gap) := if word.isEmpty then (read, gap) else (read ++ gap.fold ++ word, .empty)
        if !cursor.seesAny (fun c => isSpace c || isBreak c) then return (read, gap.isBroken, cursor)
        else
          let (gap, cursor) ← readGap indent (cursor.rest.length + 1) gap cursor
          if !inFlow && (cursor.column : Int) < indent then return (read, gap.isBroken, cursor)
          else readPlain inFlow indent steps read gap cursor

/-! ### Block scalars -/

/-- What becomes of the line ends at the end of a block. -/
inductive Chomping where
  | clip
  | strip
  | keep
  deriving DecidableEq

/-- Reads the marks after the mark of a block: what becomes of its line ends, and its indentation. -/
def readBlockHeader (cursor : Cursor) : Option (Chomping × Nat × Cursor) :=
  let chomping? (cursor : Cursor) : Option Chomping := match cursor.peek? with
    | some '+' => some .keep
    | some '-' => some .strip
    | _ => none
  let digit? (cursor : Cursor) : Option Nat :=
    (cursor.peek?.filter Text.isDigit).bind Text.digitValue?
  match chomping? cursor with
  | some chomping =>
      match digit? cursor.skip with
      | some 0 => none
      | some width => some (chomping, width, cursor.skip.skip)
      | none => some (chomping, 0, cursor.skip)
  | none =>
      match digit? cursor with
      | some 0 => none
      | some width =>
          match chomping? cursor.skip with
          | some chomping => some (chomping, width, cursor.skip.skip)
          | none => some (.clip, width, cursor.skip)
      | none => some (.clip, 0, cursor)

/-- Reads the indentation of the next line of a block and the empty lines before it.  With `indent`
zero the indentation is not known yet; the greatest column reached is given. -/
def readIndentation (indent : Nat) :
    Nat → Nat → List Char → Cursor → Option (Nat × List Char × Cursor)
  | 0, _, _, _ => none
  | steps + 1, greatest, breaks, cursor =>
      let spaces := (cursor.rest.takeWhile (· = ' ')).length
      let cursor := cursor.skips (if indent = 0 then spaces else min spaces (indent - cursor.column))
      let greatest := max greatest cursor.column
      if (indent = 0 || cursor.column < indent) && cursor.sees '\t' then none
      else if cursor.seesAny isBreak then
        let (text, cursor) := cursor.readBreak
        readIndentation indent steps greatest (breaks ++ text) cursor
      else some (greatest, breaks, cursor)

/-- Reads the lines of a block. -/
def readBlockLines (isLiteral : Bool) (indent : Nat) :
    Nat → List Char → List Char → List Char → Bool → Cursor →
      Option (List Char × List Char × List Char × Cursor)
  | 0, _, _, _, _, _ => none
  | steps + 1, read, lastBreak, breaks, afterBlank, cursor =>
      if cursor.column = indent && !cursor.endsAt 0 then do
        let startsBlank := cursor.seesAny isSpace
        let joined :=
          if !isLiteral && lastBreak = ['\n'] && !afterBlank && !startsBlank then
            if breaks.isEmpty then [' '] else breaks
          else lastBreak ++ breaks
        let line := cursor.rest.takeWhile fun c => !isBreak c
        let (lastBreak, cursor) := (cursor.skips line.length).readBreak
        let (_, breaks, cursor) ← readIndentation indent (cursor.rest.length + 1) 0 [] cursor
        readBlockLines isLiteral indent steps (read ++ joined ++ line) lastBreak breaks startsBlank
          cursor
      else some (read, lastBreak, breaks, cursor)

/-- Reads a block after its mark; `parent` is the indentation of the collection around it. -/
def readBlock (isLiteral : Bool) (parent : Int) (cursor : Cursor) : Option (List Char × Cursor) := do
  let (chomping, width, cursor) ← readBlockHeader cursor
  let cursor := cursor.skipComment
  guard cursor.atLineEnd
  let cursor := cursor.skipBreak
  let given := if width = 0 then 0 else parent.toNat + width
  let (greatest, breaks, cursor) ← readIndentation given (cursor.rest.length + 1) 0 [] cursor
  let indent := if given = 0 then max (max greatest (parent + 1).toNat) 1 else given
  let (read, lastBreak, breaks, cursor) ←
    readBlockLines isLiteral indent (cursor.rest.length + 1) [] [] breaks false cursor
  let ending := match chomping with
    | .strip => []
    | .clip => lastBreak
    | .keep => lastBreak ++ breaks
  return (read ++ ending, cursor)

end QueryFeed.Yaml
