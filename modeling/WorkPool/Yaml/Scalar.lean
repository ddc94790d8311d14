import WorkPool.Text.Numeral
import WorkPool.Yaml.Cursor

/-!
# Scalars as they are written

A scalar that runs over several lines is joined: the blanks around a single break become
one space, and of several breaks all but the first stay. `Gap` is such a run of blanks and
breaks, and `Gap.text` what it stands for.

* `plain` — without quotes.
* `quoted` — between single or double quotes.
* `block` — as indented lines.

Each gives the text of the scalar and the cursor past it, or `none` where the text is not
YAML. Loops carry a bound on the characters to come, because each round moves on, and what
they have read so far with its last character first.
-/

namespace WorkPool.Yaml

/-! ## Gaps -/

/-- A run of blanks and breaks. -/
structure Gap where
  /-- the blanks before the first break -/
  blanks : List Char := []
  /-- the first break -/
  first : List Char := []
  /-- the breaks after it -/
  more : List Char := []
  /-- whether there was a break -/
  broken : Bool := false
  deriving DecidableEq

namespace Gap

/-- What a gap stands for inside a scalar. -/
def text (g : Gap) : List Char :=
  if !g.broken then g.blanks
  else if g.first == ['\n'] then if g.more.isEmpty then [' '] else g.more
  else g.first ++ g.more

/-- Add a blank; after a break it means nothing. -/
def addBlank (g : Gap) (x : Char) : Gap :=
  if g.broken then g else { g with blanks := g.blanks ++ [x] }

/-- Add a break; blanks before it mean nothing. -/
def addBreak (g : Gap) (text : List Char) : Gap :=
  if g.broken then { g with more := g.more ++ text }
  else { g with blanks := [], first := text, broken := true }

/-- Read on to the end of a gap. Tabs may not stand for the indentation of a line up to the
column `margin`. -/
def read (margin : Nat) : Nat → Gap → Cursor → Option (Gap × Cursor)
  | 0, g, c => some (g, c)
  | fuel + 1, g, c =>
    match c.head? with
    | none => some (g, c)
    | some x =>
      if isBlank x then
        if g.broken && c.column < margin && x == '\t' then none
        else read margin fuel (g.addBlank x) (c.skip 1)
      else if isBreak x then
        let (text, c) := c.nextLine
        read margin fuel (g.addBreak text) c
      else some (g, c)

end Gap

/-! ## Plain scalars -/

/-- The part of a plain scalar up to the next blank or break. A colon that ends a word ends the
scalar, and inside brackets so do the marks of brackets, which must not follow a colon. -/
def plainWord (flow : Bool) : List Char → Option (List Char)
  | [] => some []
  | x :: rest =>
    if endsWord (some x) then some []
    else if flow && x == ':' && rest.head?.any (fun y => isFlowMark y || y == '?') then none
    else if (x == ':' && endsWord rest.head?) || (flow && isFlowMark x) then some []
    else (plainWord flow rest).map (x :: ·)

/-- Read on in a plain scalar, after the words read so far and the gap after them. Gives the whole
text, and tells whether the cursor went on to another line than that of the last word. -/
def plainFrom (flow : Bool) (margin : Nat) :
    Nat → List Char → Gap → Cursor → Option (List Char × Bool × Cursor)
  | 0, _, _, _ => none
  | fuel + 1, text, gap, c =>
    if c.atDocumentMark || c.sees '#' then some (text.reverse, gap.broken, c)
    else do
      let word ← plainWord flow c.rest
      let (text, gap) := if word.isEmpty then (text, gap)
        else ((gap.text ++ word).reverse ++ text, {})
      let c := c.skip word.length
      if !c.seesAny (fun x => isBlank x || isBreak x) then return (text.reverse, gap.broken, c)
      let (gap, c) ← gap.read margin fuel c
      if !flow && c.column < margin then return (text.reverse, gap.broken, c)
      plainFrom flow margin fuel text gap c

/-- A plain scalar, which goes on over lines indented at least to `margin`. -/
def plain (flow : Bool) (margin : Nat) (c : Cursor) : Option (String × Bool × Cursor) := do
  let (text, moved, c) ← plainFrom flow margin (c.rest.length + 1) [] {} c
  return (String.ofList text, moved, c)

/-! ## Quoted scalars -/

/-- The character with a code written in so many hexadecimal digits. -/
def coded? (digits : Nat) (rest : List Char) : Option Char := do
  let written := rest.take digits
  if written.length < digits then none
  let n ← Numeral.natural? 16 written
  if (0xD800 ≤ n && n ≤ 0xDFFF) || 0x10FFFF < n then none else return Char.ofNat n

/-- The character that an escape stands for, given what follows the backslash, and how long the
escape is without the backslash. -/
def escaped? : List Char → Option (Char × Nat)
  | [] => none
  | x :: rest =>
    match x with
    | '0' => some ('\x00', 1)
    | 'a' => some ('\x07', 1)
    | 'b' => some ('\x08', 1)
    | 't' | '\t' => some ('\t', 1)
    | 'n' => some ('\n', 1)
    | 'v' => some ('\x0b', 1)
    | 'f' => some ('\x0c', 1)
    | 'r' => some ('\r', 1)
    | 'e' => some ('\x1b', 1)
    | ' ' | '"' | '/' | '\\' => some (x, 1)
    | 'N' => some ('\u0085', 1)
    | '_' => some ('\u00a0', 1)
    | 'L' => some ('\u2028', 1)
    | 'P' => some ('\u2029', 1)
    | 'x' => (coded? 2 rest).map (·, 3)
    | 'u' => (coded? 4 rest).map (·, 5)
    | 'U' => (coded? 8 rest).map (·, 9)
    | _ => none

/-- The part of a quoted scalar up to the next blank, break or closing quote. Also tells whether
it ended with an escaped break. -/
def quotedWord (single : Bool) : Nat → List Char → Cursor → Option (List Char × Bool × Cursor)
  | 0, text, c => some (text, false, c)
  | fuel + 1, text, c =>
    match c.head? with
    | none => some (text, false, c)
    | some x =>
      if endsWord (some x) then some (text, false, c)
      else if single then
        if x != '\'' then quotedWord single fuel (x :: text) (c.skip 1)
        else if c.ahead? 1 == some '\'' then quotedWord single fuel (x :: text) (c.skip 2)
        else some (text, false, c)
      else if x == '"' then some (text, false, c)
      else if x != '\\' then quotedWord single fuel (x :: text) (c.skip 1)
      else if (c.ahead? 1).any isBreak then some (text, true, (c.skip 1).nextLine.2)
      else do
        let (y, n) ← escaped? (c.rest.drop 1)
        quotedWord single fuel (y :: text) (c.skip (n + 1))

/-- Read on in a quoted scalar, to its closing quote. Gives the whole text. -/
def quotedFrom (single : Bool) : Nat → List Char → Cursor → Option (List Char × Cursor)
  | 0, _, _ => none
  | fuel + 1, text, c =>
    if c.atDocumentMark || c.rest.isEmpty then none
    else do
      let (text, broken, c) ← quotedWord single (fuel + 1) text c
      if c.sees (if single then '\'' else '"') then return (text.reverse, c.skip 1)
      let (gap, c) ← Gap.read 0 fuel { broken } c
      quotedFrom single fuel (gap.text.reverse ++ text) c

/-- A scalar between quotes, from its opening quote on. -/
def quoted (single : Bool) (c : Cursor) : Option (String × Cursor) := do
  let (text, c) ← quotedFrom single (c.rest.length + 1) [] (c.skip 1)
  return (String.ofList text, c)

/-! ## Block scalars -/

/-- What becomes of the breaks at the end of a block scalar. -/
inductive Chomp where
  /-- none is kept -/
  | strip
  /-- the first is kept -/
  | clip
  /-- all are kept -/
  | keep
  deriving DecidableEq

/-- The mark for the end of a block scalar, if one is to come. -/
def chomp? (c : Cursor) : Option (Chomp × Cursor) :=
  if c.sees '+' then some (.keep, c.skip 1)
  else if c.sees '-' then some (.strip, c.skip 1)
  else none

/-- The mark for the indentation of a block scalar: zero if there is none, and not YAML if it says
zero. -/
def increment? (c : Cursor) : Option (Nat × Cursor) :=
  match c.head? with
  | some x =>
    if x.isDigit then if x == '0' then none else some (x.toNat - '0'.toNat, c.skip 1)
    else some (0, c)
  | none => some (0, c)

/-- The marks of a block scalar, in either order. -/
def blockMarks? (c : Cursor) : Option (Chomp × Nat × Cursor) :=
  match chomp? c with
  | some (chomp, c) => (increment? c).map fun (n, c) => (chomp, n, c)
  | none => do
    let (n, c) ← increment? c
    if n = 0 then return (.clip, 0, c)
    match chomp? c with
    | some (chomp, c) => return (chomp, n, c)
    | none => return (.clip, n, c)

/-- Read over empty lines and the indentation of the next line. With an `indent` of zero the
indentation is not known yet, and the widest seen is told. -/
def blockBreaks (indent : Nat) :
    Nat → Nat → List Char → Cursor → Option (Nat × List Char × Cursor)
  | 0, widest, breaks, c => some (widest, breaks, c)
  | fuel + 1, widest, breaks, c =>
    let spaces := (c.rest.takeWhile (· == ' ')).length
    let c := c.skip (if indent = 0 then spaces else min spaces (indent - c.column))
    let widest := max widest c.column
    if (indent = 0 || c.column < indent) && c.sees '\t' then none
    else if c.seesAny isBreak then
      let (text, c) := c.nextLine
      blockBreaks indent fuel widest (breaks ++ text) c
    else some (widest, breaks, c)

/-- Read on over the lines of a block scalar, after the text so far, the break before the line
and the empty lines after that. Gives the text of all lines and the breaks that remain. -/
def blockLines (literal : Bool) (indent : Nat) : Nat → List Char → List Char → List Char → Bool →
    Cursor → Option (List Char × List Char × List Char × Cursor)
  | 0, text, lead, trail, _, c => some (text.reverse, lead, trail, c)
  | fuel + 1, text, lead, trail, wasBlank, c =>
    if c.column = indent && !c.rest.isEmpty then do
      let blank := c.seesAny isBlank
      let joined := !literal && lead == ['\n'] && !wasBlank && !blank
      let glue := if joined then if trail.isEmpty then [' '] else trail else lead ++ trail
      let (line, c) := c.takeWhile fun x => !isBreak x
      let (lead, c) := c.nextLine
      let (_, trail, c) ← blockBreaks indent fuel 0 [] c
      blockLines literal indent fuel ((glue ++ line).reverse ++ text) lead trail blank c
    else some (text.reverse, lead, trail, c)

/-- A scalar of indented lines, from its mark on. The column of the enclosing collection, if there
is one, is `parent`. -/
def block (literal : Bool) (parent : Option Nat) (c : Cursor) : Option (String × Cursor) := do
  let (chomp, increment, c) ← blockMarks? (c.skip 1)
  let c ← c.finishLine?
  let given := if increment = 0 then 0 else parent.getD 0 + increment
  let (widest, breaks, c) ← blockBreaks given (c.rest.length + 1) 0 [] c
  let indent := if given = 0 then max widest (max ((parent.map (· + 1)).getD 0) 1) else given
  let (text, lead, trail, c) ← blockLines literal indent (c.rest.length + 1) [] [] breaks false c
  let tail := match chomp with
    | .strip => []
    | .clip => lead
    | .keep => lead ++ trail
  return (String.ofList (text ++ tail), c)

end WorkPool.Yaml
