import QueryFeed.FeedError

/-!
**Reports of a failure.**

A report has a headline and the causes behind it, the nearest one first.  Several causes are numbered,
and the further lines of a cause are indented like its first one.

Main definitions: `Report`, `Report.ofError`, `Report.lines`.
-/

set_option autoImplicit false

namespace QueryFeed.CommandLine

/-- Why the program failed. -/
structure Report where
  headline : String
  causes : List String
  deriving DecidableEq

namespace Report

/-- A report without causes. -/
def plain (headline : String) : Report := ⟨headline, []⟩

/-- The report of an error. -/
def ofError (e : FeedError) : Report := ⟨e.message, e.causes⟩

/-- The report of an error that got in the way of something. -/
def ofContext (context : String) (e : FeedError) : Report := ⟨context, e.message :: e.causes⟩

/-- Puts a text before the first line, and as many blanks before the others. -/
def hanging (lead text : String) : List String :=
  match text.splitOn "\n" with
  | [] => []
  | line :: lines =>
      (lead ++ line) :: lines.map (String.ofList (List.replicate lead.length ' ') ++ ·)

/-- Causes with their numbers, from the given one on. -/
def numbered (number : Nat) : List String → List String
  | [] => []
  | cause :: causes =>
      let digits := Text.decimal number
      let blanks := List.replicate (5 - digits.length) ' '
      hanging (String.ofList (blanks ++ digits) ++ ": ") cause ++ numbered (number + 1) causes

/-- The lines of a report. -/
def lines (report : Report) : List String :=
  let causes :=
    match report.causes with
    | [] => []
    | [cause] => ["", "Caused by:"] ++ hanging "    " cause
    | causes => ["", "Caused by:"] ++ numbered 0 causes
  ("Error: " ++ report.headline).splitOn "\n" ++ causes

end Report

end QueryFeed.CommandLine
