import QueryFeed.Run.Basic

/-!
**Pages.**

A page keeps what is written on it.  It may run full, and a flush may fail.

Main definitions: `Page`, `Page.text`, `Page.writer`.
-/

set_option autoImplicit false

namespace QueryFeed

/-- What was written, the last of it first, and how often it was flushed. -/
structure Page where
  written : List (List Char)
  flushes : Nat
  deriving DecidableEq

namespace Page

/-- A page on which nothing is written. -/
def blank : Page := ⟨[], 0⟩

/-- The characters on a page. -/
def text (page : Page) : List Char := page.written.reverse.flatten

/-- What was written, without the last character of each piece, which is a line break where lines are
written. -/
def lines (page : Page) : List String :=
  page.written.reverse.map fun line => String.ofList line.dropLast

/-- Writes on a page that has room for `room` lines if that is given, and fails at the flush with the
number `badFlush` if that is given. -/
def writer (room badFlush : Option Nat) : Writer Page where
  write line page :=
    if room.any (· ≤ page.written.length) then (some "disk full", page)
    else (none, { page with written := line :: page.written })
  flush page :=
    let page := { page with flushes := page.flushes + 1 }
    (if badFlush = some page.flushes then some "flush failed" else none, page)

end Page

end QueryFeed
