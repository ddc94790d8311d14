import WorkPool.Yaml.Layout

/-!
# Documents

A `Document` is a tree of nodes, and what its names stand for. `Document.ofText?` gives the
only document of a text, or `none` where the text is not YAML or has several documents.

A reference is kept as the number of its anchor and is looked up when it is read. The number
of an anchor is the count of different names seen before it, so that a name that is given
twice makes two anchors, the second of which shares its number with the next new name; of
the anchors with one number, the last stands for it.
-/

namespace WorkPool.Yaml

/-- A node of a document. -/
inductive Node where
  /-- a text, how it was written, and its tag -/
  | scalar (text : String) (style : Style) (tag : Option Bytes)
  /-- a list of nodes -/
  | sequence (items : List Node)
  /-- keys and their values, in order -/
  | mapping (entries : List (Node × Node))
  /-- the anchor of a given number again -/
  | reference (number : Nat)

/-- A node that was given a name. -/
structure Anchored where
  /-- the number of the anchor -/
  number : Nat
  /-- how many anchors were given before it -/
  order : Nat
  /-- the node -/
  node : Node

/-- A tree of nodes and what its names stand for. -/
structure Document where
  /-- the tree; nothing where the text is empty -/
  root : Option Node
  /-- the nodes that were given names -/
  anchored : List Anchored := []

/-- The node that a reference stands for, and any other node itself. -/
def Document.resolve? (d : Document) : Node → Option Node
  | .reference number =>
    let last := (d.anchored.filter (·.number == number)).foldl
      (fun (best : Option Anchored) a =>
        match best with
        | some b => if a.order < b.order then best else some a
        | none => some a) none
    last.map (·.node)
  | n => some n

/-! ## Reading tokens -/

/-- The state of the reading of a document. -/
structure Reading where
  /-- the tokens to come -/
  tokens : List Token
  /-- what the handles of tags abbreviate -/
  rules : List (String × Bytes) := [("!", textBytes "!"), ("!!", textBytes "tag:yaml.org,2002:")]
  /-- the names seen, with the number each stands for -/
  names : List (String × Nat) := []
  /-- how many anchors there were -/
  anchors : Nat := 0
  /-- the nodes that were given names -/
  anchored : List Anchored := []

namespace Reading

/-- The node of nothing. -/
def emptyNode : Node := .scalar "" .plain none

/-- The token to come. -/
def head? (s : Reading) : Option Token := s.tokens.head?

/-- Move over a token. -/
def next (s : Reading) : Reading := { s with tokens := s.tokens.drop 1 }

/-- Whether one of the given tokens is to come. -/
def sees (s : Reading) (ts : List Token) : Bool := s.head?.any ts.contains

/-- What stands before a node: a name and a tag. -/
structure Properties where
  /-- the name that the node is given -/
  name : Option String := none
  /-- its tag, as it is written -/
  tag : Option (String × Bytes) := none

/-- The properties before a node: at most one name and one tag, in either order. -/
def properties (s : Reading) : Properties × Reading :=
  match s.tokens with
  | .anchor name :: .tag handle suffix :: rest =>
    (⟨name, (handle, suffix)⟩, { s with tokens := rest })
  | .anchor name :: rest => (⟨name, none⟩, { s with tokens := rest })
  | .tag handle suffix :: .anchor name :: rest =>
    (⟨name, (handle, suffix)⟩, { s with tokens := rest })
  | .tag handle suffix :: rest => (⟨none, (handle, suffix)⟩, { s with tokens := rest })
  | _ => ({}, s)

/-- The full form of a tag; its handle has to be known. -/
def fullTag? (s : Reading) : Option (String × Bytes) → Option (Option Bytes)
  | none => some none
  | some (handle, suffix) =>
    if handle.isEmpty then some (some suffix)
    else (s.rules.lookup handle).map fun meaning => some (meaning ++ suffix)

/-- Give a name the next number. -/
def enter (s : Reading) : Option String → Option (Nat × Nat) × Reading
  | none => (none, s)
  | some name =>
    let number := s.names.length
    let names := if s.names.any (·.1 == name) then
        s.names.map fun p => if p.1 == name then (name, number) else p
      else s.names ++ [(name, number)]
    (some (number, s.anchors), { s with names, anchors := s.anchors + 1 })

/-- Keep a node under the number of its name. -/
def keep (s : Reading) (place : Option (Nat × Nat)) (n : Node) : Node × Reading :=
  match place with
  | none => (n, s)
  | some (number, order) => (n, { s with anchored := ⟨number, order, n⟩ :: s.anchored })

mutual

/-- A node. An indented collection is read where `block` allows it, and a sequence that is
indented no further than the key before it where `indentless` does. -/
def node? (block indentless : Bool) : Nat → Reading → Option (Node × Reading)
  | 0, _ => none
  | fuel + 1, s =>
    match s.head? with
    | some (.reference name) => (s.names.lookup name).map fun number => (.reference number, s.next)
    | _ => do
      let (p, s) := s.properties
      let tag ← s.fullTag? p.tag
      let (place, s) := s.enter p.name
      match s.head? with
      | some .item =>
        if indentless then
          let (items, s) ← indentlessItems? fuel [] s
          return s.keep place (.sequence items)
        else if p.name.isSome || tag.isSome then return s.keep place (.scalar "" .plain tag)
        else none
      | some (.scalar text style) =>
        return s.next.keep place (.scalar text style tag)
      | some .flowSequence =>
        let (items, s) ← flowItems? true fuel [] s.next
        return s.keep place (.sequence items)
      | some .flowMapping =>
        let (entries, s) ← flowEntries? true fuel [] s.next
        return s.keep place (.mapping entries)
      | other =>
        if block && other == some .blockSequence then
          let (items, s) ← blockItems? fuel [] s.next
          return s.keep place (.sequence items)
        else if block && other == some .blockMapping then
          let (entries, s) ← blockEntries? fuel [] s.next
          return s.keep place (.mapping entries)
        else if p.name.isSome || tag.isSome then return s.keep place (.scalar "" .plain tag)
        else none

/-- A node, unless one of the given tokens shows that it is missing. -/
def nodeUnless? (block indentless : Bool) (missing : List Token) :
    Nat → Reading → Option (Node × Reading)
  | 0, _ => none
  | fuel + 1, s =>
    if s.sees missing then some (emptyNode, s) else node? block indentless fuel s

/-- The items of an indented sequence, up to its end. -/
def blockItems? : Nat → List Node → Reading → Option (List Node × Reading)
  | 0, _, _ => none
  | fuel + 1, items, s =>
    match s.head? with
    | some .item => do
      let (n, s) ← nodeUnless? true false [.item, .blockEnd] fuel s.next
      blockItems? fuel (items ++ [n]) s
    | some .blockEnd => some (items, s.next)
    | _ => none

/-- The items of a sequence that is indented no further than the key before it. -/
def indentlessItems? : Nat → List Node → Reading → Option (List Node × Reading)
  | 0, _, _ => none
  | fuel + 1, items, s =>
    match s.head? with
    | some .item => do
      let (n, s) ← nodeUnless? true false [.item, .key, .value, .blockEnd] fuel s.next
      indentlessItems? fuel (items ++ [n]) s
    | _ => some (items, s)

/-- The value after a key of an indented mapping. -/
def blockValue? : Nat → Reading → Option (Node × Reading)
  | 0, _ => none
  | fuel + 1, s =>
    if s.sees [.value] then nodeUnless? true true [.key, .value, .blockEnd] fuel s.next
    else some (emptyNode, s)

/-- The entries of an indented mapping, up to its end. -/
def blockEntries? : Nat → List (Node × Node) → Reading → Option (List (Node × Node) × Reading)
  | 0, _, _ => none
  | fuel + 1, entries, s =>
    match s.head? with
    | some .key => do
      let (k, s) ← nodeUnless? true true [.key, .value, .blockEnd] fuel s.next
      let (v, s) ← blockValue? fuel s
      blockEntries? fuel (entries ++ [(k, v)]) s
    | some .blockEnd => some (entries, s.next)
    | _ => none

/-- A mapping of one entry that stands in a sequence in brackets. A key that is missing takes the
token that shows this with it. -/
def pair? : Nat → Reading → Option (Node × Reading)
  | 0, _ => none
  | fuel + 1, s => do
    let (k, s) ← if s.sees [.value, .comma, .flowSequenceEnd] then some (emptyNode, s.next)
      else node? false false fuel s
    let (v, s) ← if s.sees [.value] then
        nodeUnless? false false [.comma, .flowSequenceEnd] fuel s.next
      else some (emptyNode, s)
    return (.mapping [(k, v)], s)

/-- The items of a sequence in brackets, up to its end, with a comma before all but the first. -/
def flowItems? (first : Bool) : Nat → List Node → Reading → Option (List Node × Reading)
  | 0, _, _ => none
  | fuel + 1, items, s => do
    if s.sees [.flowSequenceEnd] then return (items, s.next)
    if !first && !s.sees [.comma] then none
    let s := if first then s else s.next
    if s.sees [.key] then
      let (n, s) ← pair? fuel s.next
      flowItems? false fuel (items ++ [n]) s
    else if s.sees [.flowSequenceEnd] then return (items, s.next)
    else
      let (n, s) ← node? false false fuel s
      flowItems? false fuel (items ++ [n]) s

/-- The entries of a mapping in braces, up to its end, with a comma before all but the first. -/
def flowEntries? (first : Bool) :
    Nat → List (Node × Node) → Reading → Option (List (Node × Node) × Reading)
  | 0, _, _ => none
  | fuel + 1, entries, s => do
    if s.sees [.flowMappingEnd] then return (entries, s.next)
    if !first && !s.sees [.comma] then none
    let s := if first then s else s.next
    if s.sees [.key] then
      let (k, s) ← nodeUnless? false false [.value, .comma, .flowMappingEnd] fuel s.next
      let (v, s) ← if s.sees [.value] then
          nodeUnless? false false [.comma, .flowMappingEnd] fuel s.next
        else some (emptyNode, s)
      flowEntries? false fuel (entries ++ [(k, v)]) s
    else if s.sees [.flowMappingEnd] then return (entries, s.next)
    else
      let (k, s) ← node? false false fuel s
      flowEntries? false fuel (entries ++ [(k, emptyNode)]) s

end

/-! ## Documents -/

/-- The directives before a document: the release at most once and of the first generation, and
each handle at most once. Handles with a meaning of their own may be given another. -/
def directives? (released : Bool) (given : List (String × Bytes)) :
    List Token → Option (List (String × Bytes) × List Token)
  | .release major minor :: rest =>
    if released || major != 1 || (minor != 1 && minor != 2) then none
    else directives? true given rest
  | .tagRule handle meaning :: rest =>
    if given.any (·.1 == handle) then none
    else directives? released (given ++ [(handle, meaning)]) rest
  | rest => some (given, rest)

/-- Whether the content of a document is missing before a token. -/
def endsDocument : Option Token → Bool
  | none | some .documentStart | some .documentEnd | some (.release ..) | some (.tagRule ..) => true
  | _ => false

/-- A bound on the number of nested readings of so many tokens. -/
def bound (s : Reading) : Nat := 4 * s.tokens.length + 4

/-- The content of a document. -/
def content? (s : Reading) : Option (Node × Reading) := node? true false s.bound s

/-- The first document of a list of tokens, which must not be empty. A document that does not
begin with its mark has no directives and cannot be empty. -/
def document? (tokens : List Token) : Option (Node × Reading) := do
  let s : Reading := { tokens }
  let explicit := match tokens.head? with
    | some .documentStart | some (.release ..) | some (.tagRule ..) => true
    | _ => false
  if !explicit then s.content?
  else
    let (given, tokens) ← directives? false [] tokens
    match tokens with
    | .documentStart :: tokens =>
      let s := { s with tokens, rules := given ++ s.rules }
      if endsDocument s.head? then return (emptyNode, s) else s.content?
    | _ => none

end Reading

/-- The only document of a text. -/
def Document.ofText? (text : String) : Option Document := do
  let tokens ← Token.scan? text
  if tokens.isEmpty then return { root := none }
  let (root, s) ← Reading.document? tokens
  if s.tokens.all (· == .documentEnd) then return { root := some root, anchored := s.anchored }
  else none

end WorkPool.Yaml
