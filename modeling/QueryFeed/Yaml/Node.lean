import QueryFeed.Table
import QueryFeed.Yaml.Lexer

/-!
**Documents of YAML.**

A document is a tree of scalars, sequences, mappings and references, each perhaps with a tag.  A name
that is used for an anchor gets the number of names before it, and a name that is used again counts
itself among them, so that it may come to share its number with the next new name.  A reference stands
for the node that was anchored last under the number which its name has at that place.

Main definitions: `Node`, `Document`, `Document.ofTokens?`, `Document.ofText?`.
-/

set_option autoImplicit false

namespace QueryFeed.Yaml

/-- A node of a document. -/
inductive Node where
  | scalar (tag : Option TagBytes) (style : ScalarStyle) (text : List Char)
  | sequence (tag : Option TagBytes) (items : List Node)
  | mapping (tag : Option TagBytes) (entries : List (Node × Node))
  | reference (number : Nat)

/-- A document: its root, and the nodes that references stand for. -/
structure Document where
  root : Node
  targets : List (Nat × Node)

namespace Node

instance : Inhabited Node := ⟨scalar none .plain []⟩

/-- What stands where nothing is written. -/
def absent : Node := scalar none .plain []

/-! ### Tags and anchors -/

/-- What tags stand for, and what was anchored so far: the numbers of the names, the number of every
anchored node in the order in which they begin, the last one first, and those of them that were read to
their end. -/
structure Scope where
  handles : List (List Char × TagBytes)
  names : Table Nat
  begun : List Nat
  nodes : List (Nat × Node)

namespace Scope

/-- The tag that is meant by a written tag. -/
def resolve? (scope : Scope) (tag : Tag) : Option TagBytes :=
  if tag.handle.isEmpty then some tag.suffix
  else (scope.handles.find? (·.1 = tag.handle)).map fun (_, expansion) => expansion ++ tag.suffix

/-- The number of a name. -/
def numberOf? (scope : Scope) (name : List Char) : Option Nat :=
  Table.get? scope.names (String.ofList name)

/-- Begins a node, and gives its place among the anchored ones. -/
def enter (scope : Scope) : Option (List Char) → Option Nat × Scope
  | none => (none, scope)
  | some name =>
      let number := scope.names.length
      (some scope.begun.length,
        { scope with
          names := Table.insert scope.names (String.ofList name) number
          begun := number :: scope.begun })

/-- Ends a node. -/
def leave (scope : Scope) (place : Option Nat) (node : Node) : Scope :=
  match place with
  | some place => { scope with nodes := (place, node) :: scope.nodes }
  | none => scope

/-- The nodes that references stand for, the last one begun first. -/
def targets (scope : Scope) : List (Nat × Node) :=
  let places := (List.range scope.begun.length).reverse
  (scope.begun.zip places).filterMap fun (number, place) =>
    (scope.nodes.find? (·.1 = place)).map fun found => (number, found.2)

end Scope

/-! ### Reading -/

/-- What is left to read: the tokens, and what tags and references stand for. -/
abbrev Rest := List Token × Scope

/-- Anchor and tag of a node. -/
structure Properties where
  anchor : Option (List Char)
  tag : Option TagBytes

/-- Reads anchor and tag of a node, in either order. -/
def readProperties (rest : Rest) : Option (Properties × Rest) :=
  let (tokens, scope) := rest
  match tokens with
  | .anchor name :: .tag tag :: tokens | .tag tag :: .anchor name :: tokens =>
      (scope.resolve? tag).map fun tag => (⟨some name, some tag⟩, tokens, scope)
  | .anchor name :: tokens => some (⟨some name, none⟩, tokens, scope)
  | .tag tag :: tokens => (scope.resolve? tag).map fun tag => (⟨none, some tag⟩, tokens, scope)
  | tokens => some (⟨none, none⟩, tokens, scope)

/-- Whether one of some tokens comes next. -/
def isNext (tokens : List Token) (expected : List Token) : Bool :=
  tokens.head?.any expected.contains

mutual

/-- Reads a node.  Block collections may stand only in a block, and a sequence may stand at the
indentation of its mapping where `allowsEntries` says so. -/
def read : Nat → Bool → Bool → Rest → Option (Node × Rest)
  | 0, _, _, _ => none
  | steps + 1, inBlock, allowsEntries, rest =>
      match rest with
      | (.reference name :: tokens, scope) =>
          (scope.numberOf? name).map fun number => (reference number, tokens, scope)
      | rest => do
          let (properties, tokens, scope) ← readProperties rest
          let tag := properties.tag
          let (place, scope) := scope.enter properties.anchor
          let finish (found : Node × Rest) : Node × Rest :=
            (found.1, found.2.1, found.2.2.leave place found.1)
          match tokens with
          | .scalar text style :: tokens => return finish (scalar tag style text, tokens, scope)
          | .flowSequence :: tokens =>
              let (items, rest) ← readFlowItems steps true (tokens, scope)
              return finish (sequence tag items, rest)
          | .flowMapping :: tokens =>
              let (entries, rest) ← readFlowEntries steps true (tokens, scope)
              return finish (mapping tag entries, rest)
          | .blockEntry :: _ =>
              if allowsEntries then
                let (items, rest) ← readEntries steps (tokens, scope)
                return finish (sequence tag items, rest)
              else if properties.anchor.isSome || tag.isSome then
                return finish (scalar tag .plain [], tokens, scope)
              else none
          | .blockSequence :: after =>
              if inBlock then
                let (items, rest) ← readBlockItems steps (after, scope)
                return finish (sequence tag items, rest)
              else none
          | .blockMapping :: after =>
              if inBlock then
                let (entries, rest) ← readBlockEntries steps (after, scope)
                return finish (mapping tag entries, rest)
              else none
          | tokens =>
              if properties.anchor.isSome || tag.isSome then
                return finish (scalar tag .plain [], tokens, scope)
              else none

/-- Reads a node, unless one of some tokens shows that it is left out. -/
def readUnless : Nat → Bool → Bool → List Token → Rest → Option (Node × Rest)
  | 0, _, _, _, _ => none
  | steps + 1, inBlock, allowsEntries, ends, rest =>
      if rest.1.isEmpty || isNext rest.1 ends then some (absent, rest)
      else read steps inBlock allowsEntries rest

/-- Reads the entries of a block sequence up to its end. -/
def readBlockItems : Nat → Rest → Option (List Node × Rest)
  | 0, _ => none
  | _ + 1, (.blockEnd :: tokens, scope) => some ([], tokens, scope)
  | steps + 1, (.blockEntry :: tokens, scope) => do
      let (item, rest) ← readUnless steps true false [.blockEntry, .blockEnd] (tokens, scope)
      let (items, rest) ← readBlockItems steps rest
      return (item :: items, rest)
  | _ + 1, _ => none

/-- Reads the entries of a sequence at the indentation of its mapping. -/
def readEntries : Nat → Rest → Option (List Node × Rest)
  | 0, _ => none
  | steps + 1, (.blockEntry :: tokens, scope) => do
      let (item, rest) ←
        readUnless steps true false [.blockEntry, .key, .value, .blockEnd] (tokens, scope)
      let (items, rest) ← readEntries steps rest
      return (item :: items, rest)
  | _ + 1, rest => some ([], rest)

/-- Reads the entries of a block mapping up to its end. -/
def readBlockEntries : Nat → Rest → Option (List (Node × Node) × Rest)
  | 0, _ => none
  | _ + 1, (.blockEnd :: tokens, scope) => some ([], tokens, scope)
  | steps + 1, (.key :: tokens, scope) => do
      let (key, rest) ← readUnless steps true true [.key, .value, .blockEnd] (tokens, scope)
      let (value, rest) ← match rest with
        | (.value :: tokens, scope) =>
            readUnless steps true true [.key, .value, .blockEnd] (tokens, scope)
        | rest => some (absent, rest)
      let (entries, rest) ← readBlockEntries steps rest
      return ((key, value) :: entries, rest)
  | _ + 1, _ => none

/-- Reads a key in a mapping in brackets and the value after it. -/
def readPair : Nat → Rest → Option ((Node × Node) × Rest)
  | 0, _ => none
  | steps + 1, rest => do
      let (key, rest) ← readUnless steps false false [.value, .flowEntry, .flowMappingEnd] rest
      let (value, rest) ← readFlowValue steps .flowMappingEnd rest
      return ((key, value), rest)

/-- Reads a key in a sequence in brackets and the value after it.  Where the key is left out, the token
that shows it is passed over. -/
def readSinglePair : Nat → Rest → Option ((Node × Node) × Rest)
  | 0, _ => none
  | steps + 1, (tokens, scope) => do
      let (key, rest) ←
        if isNext tokens [.value, .flowEntry, .flowSequenceEnd] then
          some (absent, tokens.drop 1, scope)
        else read steps false false (tokens, scope)
      let (value, rest) ← readFlowValue steps .flowSequenceEnd rest
      return ((key, value), rest)

/-- Reads the value of a key in brackets, where there is one. -/
def readFlowValue : Nat → Token → Rest → Option (Node × Rest)
  | 0, _, _ => none
  | steps + 1, closing, (.value :: tokens, scope) =>
      readUnless steps false false [.flowEntry, closing] (tokens, scope)
  | _ + 1, _, rest => some (absent, rest)

/-- Reads the items of a sequence in brackets up to the closing one. -/
def readFlowItems : Nat → Bool → Rest → Option (List Node × Rest)
  | 0, _, _ => none
  | _ + 1, _, (.flowSequenceEnd :: tokens, scope) => some ([], tokens, scope)
  | steps + 1, isFirst, rest => do
      let rest ←
        if isFirst then pure rest
        else match rest with
          | (.flowEntry :: tokens, scope) => pure (tokens, scope)
          | _ => none
      match rest with
      | (.flowSequenceEnd :: tokens, scope) => return ([], tokens, scope)
      | (.key :: tokens, scope) =>
          let (entry, rest) ← readSinglePair steps (tokens, scope)
          let (items, rest) ← readFlowItems steps false rest
          return (mapping none [entry] :: items, rest)
      | rest =>
          let (item, rest) ← read steps false false rest
          let (items, rest) ← readFlowItems steps false rest
          return (item :: items, rest)

/-- Reads the entries of a mapping in brackets up to the closing one. -/
def readFlowEntries : Nat → Bool → Rest → Option (List (Node × Node) × Rest)
  | 0, _, _ => none
  | _ + 1, _, (.flowMappingEnd :: tokens, scope) => some ([], tokens, scope)
  | steps + 1, isFirst, rest => do
      let rest ←
        if isFirst then pure rest
        else match rest with
          | (.flowEntry :: tokens, scope) => pure (tokens, scope)
          | _ => none
      match rest with
      | (.flowMappingEnd :: tokens, scope) => return ([], tokens, scope)
      | (.key :: tokens, scope) =>
          let (entry, rest) ← readPair steps (tokens, scope)
          let (entries, rest) ← readFlowEntries steps false rest
          return (entry :: entries, rest)
      | rest =>
          let (key, rest) ← read steps false false rest
          let (entries, rest) ← readFlowEntries steps false rest
          return ((key, absent) :: entries, rest)

end

end Node

namespace Document

open Node (Scope absent isNext read)

/-- The handles that every document knows. -/
def standardHandles : List (List Char × TagBytes) :=
  [(['!'], Text.utf8 "!"), (['!', '!'], Text.utf8 "tag:yaml.org,2002:")]

/-- Reads directives: at most one version, and handles that are named once each. -/
def readDirectives : List Token → Bool → List (List Char × TagBytes) →
    Option (Bool × List (List Char × TagBytes) × List Token)
  | .version major minor :: rest, seen, handles =>
      if seen || major != 1 || (minor != 1 && minor != 2) then none
      else readDirectives rest true handles
  | .handle name expansion :: rest, seen, handles =>
      if handles.any (·.1 = name) then none
      else readDirectives rest seen ((name, expansion) :: handles)
  | rest, seen, handles => some (seen, handles, rest)

/-- Reads the root of a document. -/
def readRoot (tokens : List Token) (scope : Scope) (isExplicit : Bool) :
    Option (Document × List Token) :=
  if isExplicit && (tokens.isEmpty || isNext tokens [.documentStart, .documentEnd]) then
    some (⟨absent, []⟩, tokens)
  else
    (read (8 * tokens.length + 8) true false (tokens, scope)).map fun (root, rest, scope) =>
      (⟨root, scope.targets⟩, rest)

/-- The only document of some tokens; nothing inside of the outer option when the tokens are wrong, and
nothing inside of the inner one when there is no document. -/
def ofTokens? (tokens : List Token) : Option (Option Document) :=
  if tokens.isEmpty then some none
  else do
    let (hasVersion, handles, rest) ← readDirectives tokens false []
    let scope : Scope := ⟨handles ++ standardHandles, [], [], []⟩
    let (document, rest) ← match rest with
      | .documentStart :: rest => readRoot rest scope true
      | rest => if hasVersion || !handles.isEmpty then none else readRoot rest scope false
    if rest.all (· = .documentEnd) then return some document else none

/-- The only document of a text. -/
def ofText? (text : String) : Option (Option Document) := do
  let tokens ← tokens? text.toList
  ofTokens? tokens

end Document

end QueryFeed.Yaml
