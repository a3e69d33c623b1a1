import QueryFeed.Table
import QueryFeed.Text.Numeral
import QueryFeed.Text.Scan

/-!
**Variables of the environment in a text.**

A reference is a dollar sign and a name in braces, perhaps with `:-` and a default after the name.  The
default runs to the first closing brace.  A reference stands for the variable, or for the default where
the variable is not set or holds no text; what is put in is not looked at again.

Main definitions:

* `Variable`, `Environment` — the variables that are set, which need not hold texts;
* `Environment.Piece`, `Environment.pieces` — the parts of a text;
* `Environment.expand` — the text in which every reference is replaced.
-/

set_option autoImplicit false

namespace QueryFeed

/-- What a variable holds that is set: a text, or bytes that cannot be decoded. -/
inductive Variable where
  | text (value : String)
  | undecodable
  deriving DecidableEq

/-- The text that a variable holds. -/
def Variable.text? : Variable → Option String
  | text value => some value
  | undecodable => none

/-- The variables that are set. -/
abbrev Environment := Table Variable

namespace Environment

/-- Whether the name of a variable may start with a character. -/
def isNameStart (c : Char) : Bool := c.isAlpha || c = '_'

/-- Whether the name of a variable may go on with a character. -/
def isNameChar (c : Char) : Bool := isNameStart c || Text.isDigit c

/-- A part of a text. -/
inductive Piece where
  | plain (c : Char)
  | reference (name : String) (default : Option String)
  deriving DecidableEq

/-- What follows the name of a reference: the default if there is one, and the text after the brace. -/
def ending? : List Char → Option (Option (List Char) × List Char)
  | '\x7d' :: rest => some (none, rest)
  | ':' :: '-' :: text =>
      match text.dropWhile (· != '\x7d') with
      | _ :: rest => some (some (text.takeWhile (· != '\x7d')), rest)
      | [] => none
  | _ => none

/-- The reference with which a text begins, and what follows it. -/
def referenceAt? : List Char → Option (Piece × List Char)
  | '$' :: '\x7b' :: text =>
      match text.takeWhile isNameChar with
      | [] => none
      | c :: name =>
          if isNameStart c then
            (ending? (text.dropWhile isNameChar)).map fun (default, rest) =>
              (.reference (String.ofList (c :: name)) (default.map String.ofList), rest)
          else none
  | _ => none

theorem length_of_ending? {text rest : List Char} {default : Option (List Char)}
    (h : ending? text = some (default, rest)) : rest.length ≤ text.length := by
  unfold ending? at h
  split at h
  · simp only [Option.some.injEq, Prod.mk.injEq] at h
    rw [← h.2, List.length_cons]
    omega
  · rename_i text
    split at h
    · rename_i after hd
      simp only [Option.some.injEq, Prod.mk.injEq] at h
      have := (List.dropWhile_suffix (l := text) (· != '\x7d')).length_le
      rw [hd, List.length_cons] at this
      rw [← h.2, List.length_cons, List.length_cons]
      omega
    · simp at h
  · simp at h

theorem length_of_referenceAt? {text rest : List Char} {piece : Piece}
    (h : referenceAt? text = some (piece, rest)) : rest.length < text.length := by
  unfold referenceAt? at h
  split at h
  · rename_i text
    split at h
    · simp at h
    · split at h
      · obtain ⟨⟨default, after⟩, hend, heq⟩ := Option.map_eq_some_iff.1 h
        simp only [Prod.mk.injEq] at heq
        have hle := length_of_ending? hend
        have := (List.dropWhile_suffix (l := text) isNameChar).length_le
        rw [← heq.2, List.length_cons, List.length_cons]
        omega
      · simp at h
  · simp at h

/-- A reference is marked in a text. -/
def scanner : Text.Scanner Piece Piece := ⟨.plain, id, referenceAt?, length_of_referenceAt?⟩

/-- The parts of a text. -/
def pieces (text : String) : List Piece := scanner.scan text.toList

/-- The name of the variable that a part refers to. -/
def Piece.name? : Piece → Option String
  | plain _ => none
  | reference name _ => some name

/-- The names of the variables that a text refers to. -/
def references (text : String) : List String := (pieces text).filterMap Piece.name?

/-- The text that is found under the name of a variable. -/
def value? (environment : Environment) (name : String) : Option String :=
  (Table.get? environment name).bind Variable.text?

/-- What a part stands for. -/
def fill (environment : Environment) : Piece → List Char
  | .plain c => [c]
  | .reference name default => ((environment.value? name).getD (default.getD "")).toList

/-- The text in which every reference is replaced. -/
def expand (environment : Environment) (text : String) : String :=
  String.ofList ((pieces text).flatMap (fill environment))

end Environment

end QueryFeed
