import QueryFeed.Yaml.Node

/-!
**Following references.**

Where a part of a document is read, every reference in it is replaced by the node that it stands for.
There are two limits: nodes may be nested only so deep, and only so many references may be followed, a
number that grows with the document.  So a reference to a node that it is itself a part of is never
followed to an end, and is refused.

Main definitions: `Node.partCount`, `Node.expand`, `Document.members?`.
-/

set_option autoImplicit false

namespace QueryFeed.Yaml

namespace Node

mutual

/-- The number of the parts of a node: the beginning and the end of every collection, and everything
else in it. -/
def partCount : Node → Nat
  | scalar _ _ _ => 1
  | reference _ => 1
  | sequence _ items => 2 + itemPartCount items
  | mapping _ entries => 2 + entryPartCount entries

/-- The number of the parts of the items of a sequence. -/
def itemPartCount : List Node → Nat
  | [] => 0
  | item :: rest => item.partCount + itemPartCount rest

/-- The number of the parts of the entries of a mapping. -/
def entryPartCount : List (Node × Node) → Nat
  | [] => 0
  | (key, value) :: rest => key.partCount + value.partCount + entryPartCount rest

end

/-- The node that is meant by a node, and how many references may still be followed after that. -/
def follow? (targets : List (Nat × Node)) : Nat → Node → Option (Node × Nat)
  | 0, reference _ => none
  | budget + 1, reference number =>
      (targets.find? (·.1 = number)).map fun found => (found.2, budget)
  | budget, node => some (node, budget)

mutual

/-- A node in which every reference is replaced.  `depth` is the number of collections that may be nested
in each other, and `budget` the number of references that may be followed. -/
def expand (targets : List (Nat × Node)) (depth budget : Nat) (node : Node) : Option (Node × Nat) :=
  match follow? targets budget node, depth with
  | some (scalar tag style text, budget), _ => some (scalar tag style text, budget)
  | some (sequence tag items, budget), depth + 1 =>
      (expandItems targets depth budget items).map fun (items, budget) =>
        (sequence tag items, budget)
  | some (mapping tag entries, budget), depth + 1 =>
      (expandEntries targets depth budget entries).map fun (entries, budget) =>
        (mapping tag entries, budget)
  | _, _ => none
termination_by (depth, 0)

/-- Items in which every reference is replaced. -/
def expandItems (targets : List (Nat × Node)) (depth budget : Nat) (items : List Node) :
    Option (List Node × Nat) :=
  match items with
  | [] => some ([], budget)
  | item :: rest => do
      let (item, budget) ← expand targets depth budget item
      let (rest, budget) ← expandItems targets depth budget rest
      return (item :: rest, budget)
termination_by (depth, items.length + 1)

/-- Entries in which every reference is replaced. -/
def expandEntries (targets : List (Nat × Node)) (depth budget : Nat) (entries : List (Node × Node)) :
    Option (List (Node × Node) × Nat) :=
  match entries with
  | [] => some ([], budget)
  | (key, value) :: rest => do
      let (key, budget) ← expand targets depth budget key
      let (value, budget) ← expand targets depth budget value
      let (rest, budget) ← expandEntries targets depth budget rest
      return ((key, value) :: rest, budget)
termination_by (depth, entries.length + 1)

end

/-- The text of a scalar. -/
def asText? : Node → Option String
  | scalar _ _ text => some (String.ofList text)
  | _ => none

/-- The entries of a mapping; nothing at all is an empty one. -/
def asEntries? : Node → Option (List (Node × Node))
  | mapping _ entries => some entries
  | scalar _ .plain [] => some []
  | _ => none

end Node

namespace Document

/-- The number of collections that may be nested in each other. -/
def depthLimit : Nat := 128

/-- The number of references that may be followed. -/
def followLimit (document : Document) : Nat := 100 * document.root.partCount

/-- Reads entries with keys that are wanted, and passes over the others. -/
def readMembers (document : Document) (isWanted : String → Bool) :
    Nat → List (Node × Node) → Option (List (String × Node))
  | _, [] => some []
  | budget, (key, value) :: rest => do
      let (key, budget) ← key.expand document.targets (depthLimit - 1) budget
      let name ← key.asText?
      if isWanted name then
        let (value, budget) ← value.expand document.targets (depthLimit - 1) budget
        let others ← document.readMembers isWanted budget rest
        return (name, value) :: others
      else document.readMembers isWanted budget rest

/-- The entries of the root that are wanted. -/
def members? (document : Document) (isWanted : String → Bool) : Option (List (String × Node)) := do
  let entries ← document.root.asEntries?
  document.readMembers isWanted document.followLimit entries

end Document

end QueryFeed.Yaml
