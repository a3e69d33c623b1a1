/-!
**Reading a sequence item by item.**

A reader asks for one item after the other until it is done, and need not ask for all of them.  A sequence
may come to its end, or it may stall: then nothing comes any more, and not even its end is known.

Main definitions: `Reading`, `Reading.run`, `Reading.await?`.
-/

set_option autoImplicit false

namespace QueryFeed.Database

variable {α β : Type}

/-- A reader of a sequence: it is done, or it asks for the next item and goes on with it, or without
one at the end of the sequence. -/
inductive Reading (α β : Type) where
  | done (result : β)
  | ask (goOn : Option α → Reading α β)

namespace Reading

/-- What a reader makes of a sequence. -/
def run : Reading α β → List α → β
  | done result, _ => result
  | ask goOn, items => (goOn items.head?).run items.tail

/-- What a reader makes of a sequence that stalls, if it is done before. -/
def await? : Reading α β → List α → Option β
  | done result, _ => some result
  | ask _, [] => none
  | ask goOn, item :: rest => (goOn (some item)).await? rest

end Reading

end QueryFeed.Database
