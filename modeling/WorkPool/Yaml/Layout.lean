import WorkPool.Yaml.Label
import WorkPool.Yaml.Scalar

/-!
# From characters to tokens

What a character means depends on where it stands. A `Layout` is the state that decides
this: the columns of the indented collections around the place reached, the collections in
brackets around it, and the scalars that may turn out to be keys.

A key is known to be one only when its colon is found, on the same line and not too far
away. The marks that belong before it are then put in **afterwards**, at the place that was
noted when it began.

`Token.scan` gives the tokens of a whole text, or `none` where it is not YAML.
-/

namespace WorkPool.Yaml

/-- The start of what may turn out to be a key. -/
structure Candidate where
  /-- whether there must be a key -/
  required : Bool
  /-- how many tokens precede it -/
  position : Nat
  /-- how many bytes precede it -/
  index : Nat
  /-- the line it is on -/
  line : Nat
  /-- the column it begins at -/
  column : Nat
  deriving DecidableEq

/-- The farthest that the colon of a key can be from its start, in bytes. -/
def Candidate.reach : Nat := 1024

/-- Whether a possible key has become impossible, because its line is over or it is too far away. -/
def Candidate.isStale (k : Candidate) (c : Cursor) : Bool :=
  k.line < c.line || k.index + Candidate.reach < c.index

/-- The state of the reading of a text. -/
structure Layout where
  /-- the place reached -/
  cursor : Cursor
  /-- the tokens found -/
  tokens : Array Token := #[]
  /-- the columns of the indented collections, innermost first -/
  indents : List Nat := []
  /-- the possible key inside the innermost brackets, or outside all of them -/
  candidate : Option Candidate := none
  /-- the possible keys outside each of the brackets that are open, innermost brackets first -/
  outer : List (Option Candidate) := []
  /-- whether a key may begin here -/
  keyAllowed : Bool := true

namespace Layout

variable (l : Layout)

/-- Whether the place is inside brackets. -/
def inFlow : Bool := !l.outer.isEmpty

/-- The column that a line has to be indented to, to belong to the innermost collection. -/
def margin : Nat :=
  match l.indents with
  | [] => 0
  | column :: _ => column + 1

/-- Add a token. -/
def push (t : Token) : Layout := { l with tokens := l.tokens.push t }

/-- Put a token in at an earlier place. -/
def insert (position : Nat) (t : Token) : Layout :=
  { l with tokens := l.tokens.insertIdxIfInBounds position t }

/-! ## Indentation -/

/-- Begin an indented collection at a column to the right of the innermost one. -/
def indent (column position : Nat) (t : Token) : Layout :=
  if l.inFlow || column < l.margin then l
  else { l.insert position t with indents := column :: l.indents }

/-- End the indented collections of the given columns that lie to the right of a column. -/
def endBlocks (l : Layout) (column : Nat) : List Nat → Layout
  | [] => { l with indents := [] }
  | i :: rest =>
    if column < i then (l.push .blockEnd).endBlocks column rest else { l with indents := i :: rest }

/-- End the indented collections that lie to the right of a column. -/
def outdent (column : Nat) : Layout := if l.inFlow then l else l.endBlocks column l.indents

/-- End all indented collections. -/
def outdentAll : Layout :=
  if l.inFlow then l
  else { l with tokens := l.tokens ++ (l.indents.map fun _ => Token.blockEnd), indents := [] }

/-! ## Keys -/

/-- A possible key, unless it has become impossible; one that must be a key is then an error. -/
def refresh? (c : Cursor) : Option Candidate → Option (Option Candidate)
  | none => some none
  | some k => if k.isStale c then if k.required then none else some none else some (some k)

/-- Forget the possible keys that have become impossible. -/
def refreshKeys? : Option Layout := do
  return { l with
    candidate := ← refresh? l.cursor l.candidate
    outer := ← l.outer.mapM (refresh? l.cursor) }

/-- Forget the innermost possible key. -/
def dropKey? : Option Layout :=
  if l.candidate.any (·.required) then none else some { l with candidate := none }

/-- Note that a key may begin here. -/
def noteKey? : Option Layout :=
  if !l.keyAllowed then some l
  else do
    let l ← l.dropKey?
    return { l with candidate := some {
      required := !l.inFlow && l.indents.head? == some l.cursor.column
      position := l.tokens.size
      index := l.cursor.index
      line := l.cursor.line
      column := l.cursor.column } }

/-! ## Tokens of one or more marks -/

/-- Add a token of so many characters. -/
def mark (t : Token) (length : Nat) (keyAllowed : Bool) : Layout :=
  { l.push t with cursor := l.cursor.skip length, keyAllowed }

/-- A collection in brackets begins. -/
def openFlow? (t : Token) : Option Layout := do
  let l ← l.noteKey?
  return { l.mark t 1 true with candidate := none, outer := l.candidate :: l.outer }

/-- A collection in brackets ends. -/
def closeFlow? (t : Token) : Option Layout := do
  let l := (← l.dropKey?).mark t 1 false
  match l.outer with
  | [] => return l
  | candidate :: outer => return { l with candidate, outer }

/-- An item of an indented sequence. -/
def item? : Option Layout := do
  if !l.inFlow && !l.keyAllowed then none
  let l := l.indent l.cursor.column l.tokens.size .blockSequence
  return (← l.dropKey?).mark .item 1 true

/-- A key with a mark of its own. -/
def key? : Option Layout := do
  if !l.inFlow && !l.keyAllowed then none
  let l := l.indent l.cursor.column l.tokens.size .blockMapping
  let l ← l.dropKey?
  return l.mark .key 1 (!l.inFlow)

/-- A value. What may have been its key is one. -/
def value? : Option Layout :=
  match l.candidate with
  | some k =>
    let l := (l.insert k.position .key).indent k.column k.position .blockMapping
    some { l.mark .value 1 false with candidate := none }
  | none =>
    if !l.inFlow && !l.keyAllowed then none
    else
      let l := l.indent l.cursor.column l.tokens.size .blockMapping
      some (l.mark .value 1 (!l.inFlow))

/-- A token that may be or begin a key. -/
def node? (read : Cursor → Option (Token × Cursor)) : Option Layout := do
  let l ← l.noteKey?
  let (t, cursor) ← read l.cursor
  return { l.push t with cursor, keyAllowed := false }

/-- A scalar without quotes. If it went on to another line, a key may begin there. -/
def plain? : Option Layout := do
  let l ← l.noteKey?
  let (text, moved, cursor) ← plain l.inFlow l.margin l.cursor
  return { l.push (.scalar text .plain) with cursor, keyAllowed := moved }

/-- A scalar of indented lines. -/
def block? (literal : Bool) : Option Layout := do
  let l ← l.dropKey?
  let (text, cursor) ← block literal l.indents.head? l.cursor
  return { l.push (.scalar text (if literal then .literal else .folded)) with
    cursor, keyAllowed := true }

/-- A mark between documents. -/
def documentMark? (t : Token) : Option Layout := do
  return (← l.outdentAll.dropKey?).mark t 3 false

/-- A directive. -/
def directiveLine? : Option Layout := do
  let l ← l.outdentAll.dropKey?
  let (t, cursor) ← directive? l.cursor
  return { l.push t with cursor, keyAllowed := false }

/-! ## The whole text -/

/-- Move to the next token, over blanks, comments and breaks. A line may start with the mark of the
order of bytes, which counts as a column. Tabs are passed over inside brackets and where no key may
begin; outside brackets, a key may begin on a new line. -/
def advance (l : Layout) : Nat → Layout
  | 0 => l
  | fuel + 1 =>
    let tabs := l.inFlow || !l.keyAllowed
    let c := l.cursor.skipOrderMark.skipWhile fun x => x == ' ' || (tabs && x == '\t')
    let c := if c.sees '#' then c.skipWhile (fun x => !isBreak x) else c
    if c.seesAny isBreak then
      { l with cursor := c.nextLine.2, keyAllowed := l.keyAllowed || !l.inFlow }.advance fuel
    else { l with cursor := c }

/-- Whether a plain scalar may begin here. -/
def startsPlain (c : Cursor) (flow : Bool) : Bool :=
  match c.head? with
  | none => false
  | some '-' => !(c.ahead? 1).any isBlank
  | some '?' | some ':' => !flow && !c.alone
  | some x => !(endsWord (some x) || isFlowMark x || "#&*!|>\'\"%@\x60".toList.contains x)

/-- The next token, from its first character on. -/
def token? : Option Layout :=
  let c := l.cursor
  if c.column == 0 && c.sees '%' then l.directiveLine?
  else if c.opensLineWith '-' then l.documentMark? .documentStart
  else if c.opensLineWith '.' then l.documentMark? .documentEnd
  else if c.sees '[' then l.openFlow? .flowSequence
  else if c.sees '\x7b' then l.openFlow? .flowMapping
  else if c.sees ']' then l.closeFlow? .flowSequenceEnd
  else if c.sees '\x7d' then l.closeFlow? .flowMappingEnd
  else if c.sees ',' then do return (← l.dropKey?).mark .comma 1 true
  else if c.sees '-' && c.alone then l.item?
  else if c.sees '?' && (l.inFlow || c.alone) then l.key?
  else if c.sees ':' && (l.inFlow || c.alone) then l.value?
  else if c.sees '*' then l.node? fun c => (name? c).map fun (name, c) => (.reference name, c)
  else if c.sees '&' then l.node? fun c => (name? c).map fun (name, c) => (.anchor name, c)
  else if c.sees '!' then l.node? (tag? l.inFlow)
  else if c.sees '|' && !l.inFlow then l.block? true
  else if c.sees '>' && !l.inFlow then l.block? false
  else if c.sees '\'' then
    l.node? fun c => (quoted true c).map fun (text, c) => (.scalar text .single, c)
  else if c.sees '"' then
    l.node? fun c => (quoted false c).map fun (text, c) => (.scalar text .double, c)
  else if startsPlain c l.inFlow then l.plain?
  else none

/-- The end of the text. -/
def finish? : Option Layout := l.outdentAll.dropKey?

/-- All tokens to come. Each round moves on by a character, which bounds their number. -/
def run? (l : Layout) : Nat → Option Layout
  | 0 => none
  | fuel + 1 => do
    let l ← (l.advance (fuel + 1)).refreshKeys?
    let l := l.outdent l.cursor.column
    if l.cursor.rest.isEmpty then l.finish?
    else (← l.token?).run? fuel

end Layout

/-- The tokens of a text, all of whose characters have to be allowed. -/
def Token.scan? (text : String) : Option (List Token) := do
  let cs := text.toList
  if !cs.all isAllowed then none
  let l : Layout := { cursor := { rest := cs } }
  return (← l.run? (cs.length + 1)).tokens.toList

end WorkPool.Yaml
