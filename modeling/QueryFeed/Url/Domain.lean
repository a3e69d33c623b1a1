import QueryFeed.Text.Composition
import QueryFeed.Text.Direction
import QueryFeed.Text.Joining
import QueryFeed.Url.Parts
import QueryFeed.Url.Punycode
import QueryFeed.Url.Replacement

/-!
**Names of domains.**

The name of a domain consists of labels with points between them.  A label with other characters than
those of ASCII is written in Punycode, after the mark `xn--`.  Two names that are compared as equal have
the same written form.

A label must be in its composed form, and begins with no mark.  A character that asks letters to join or
not stands only where that makes a difference.  In a name with letters that are written from right to
left, no label may read differently in either direction.

Main definitions: `Domain.labels?`, `Domain.written?`.
-/

set_option autoImplicit false

namespace QueryFeed.Url.Domain

/-- What stands in front of a label in Punycode. -/
def mark : List Char := ['x', 'n', '-', '-']

/-- The greatest length of a label that is decoded, without its mark. -/
def decodedLimit : Nat := 2000

/-- The greatest length of a label that is encoded. -/
def encodedLimit : Nat := 1000

/-! ### Characters -/

/-- A name with its characters replaced, if all of them may occur. -/
def replaced? (name : List Char) : Option (List Char) :=
  (name.mapM fun c =>
    match standing c with
    | .kept => some [c]
    | .replaced text => some text
    | .leftOut => some []
    | .refused => none).map List.flatten

/-- Whether a character stays what it is in a name. -/
def isKept (c : Char) : Bool := standing c = .kept

/-! ### Joiners -/

/-- Whether letters join over a place, with what stands before it in reverse. -/
def joinsOver (before after : List Char) : Bool :=
  ((before.dropWhile Text.isTransparent).head?.map Text.joinsNext).getD false &&
    ((after.dropWhile Text.isTransparent).head?.map Text.joinsPrevious).getD false

/-- Whether joiners stand only where they make a difference, with what stands before in reverse. -/
def joinersFit (before : List Char) : List Char → Bool
  | [] => true
  | c :: rest =>
      let afterVirama := (before.head?.map Text.combiningClass) = some Text.viramaClass
      let fits :=
        if c = Text.joiner then afterVirama
        else if c = Text.nonJoiner then afterVirama || joinsOver before rest
        else true
      fits && joinersFit (c :: before) rest

/-! ### Direction -/

/-- Whether a character makes the direction of a name matter. -/
def isAgainstAscii (c : Char) : Bool :=
  Text.direction c = .rightToLeft || Text.direction c = .arabicNumber

/-- The last direction in a label, whatever marks follow it. -/
def lastDirection? (directions : List Text.Direction) : Option Text.Direction :=
  (directions.reverse.find? (· ≠ .mark))

/-- Whether a label that begins from left to right reads so in all of its characters. -/
def readsForward (directions : List Text.Direction) : Bool :=
  directions.all (fun d => d ≠ .rightToLeft && d ≠ .arabicNumber) &&
    (lastDirection? directions = some .leftToRight ||
      lastDirection? directions = some .europeanNumber)

/-- Whether a label that begins from right to left reads so in all of its characters, with digits of one
kind at most. -/
def readsBackward (directions : List Text.Direction) : Bool :=
  directions.all (· ≠ .leftToRight) &&
    !(directions.contains .europeanNumber && directions.contains .arabicNumber) &&
    (lastDirection? directions).any fun d =>
      d = .rightToLeft || d = .europeanNumber || d = .arabicNumber

/-- Whether a label has one direction. -/
def hasDirection (label : List Char) : Bool :=
  let directions := label.map Text.direction
  match directions with
  | [] => true
  | .leftToRight :: _ => readsForward directions
  | .rightToLeft :: _ => readsBackward directions
  | _ => false

/-! ### Labels -/

/-- Whether a label may stand in a name. -/
def isProper (label : List Char) : Bool :=
  !(label.head?.map Text.isMark).getD false && joinersFit [] label

/-- The label that is written in Punycode; it has characters that need to be, and all of them stay what
they are. -/
def decoded? (written : List Char) : Option (List Char) := do
  guard (written.length ≤ decodedLimit)
  let label ← Punycode.decode? written
  guard (label.all isKept && Text.composed label = label)
  guard (!label.all Punycode.isBasic && !mark.isPrefixOf label)
  return label

/-- A label of a name whose characters are replaced. -/
def label? (text : List Char) : Option (List Char) := do
  let label ← if mark.isPrefixOf text then decoded? (text.drop mark.length) else some text
  guard (isProper label)
  return label

/-- The labels of a name. -/
def labels? (name : List Char) : Option (List (List Char)) := do
  let labels ← (splitAt '.' (Text.composed (← replaced? name))).mapM label?
  guard (!labels.any (·.any isAgainstAscii) || labels.all hasDirection)
  return labels

/-- A label as it is written. -/
def writtenLabel? (label : List Char) : Option (List Char) :=
  if label.all Punycode.isBasic then some label
  else if encodedLimit < label.length then none
  else some (mark ++ Punycode.encode label)

/-- The written form of a name. -/
def written? (name : List Char) : Option (List Char) := do
  let labels ← (← labels? name).mapM writtenLabel?
  return ['.'].intercalate labels

end QueryFeed.Url.Domain
