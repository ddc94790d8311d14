/-!
# A place in a YAML text

A `Cursor` is what is left of a text together with the place reached in it. Places
matter, because YAML is laid out by columns and lines. Columns count characters, while
distances along a line are in bytes. A cursor moves over characters of one line with
`skip`, and to the next line with `nextLine`.
-/

namespace WorkPool.Yaml

/-! ## Characters -/

/-- Whether a character ends a line. -/
def isBreak (c : Char) : Bool :=
  c == '\n' || c == '\r' || c == '\u0085' || c == '\u2028' || c == '\u2029'

/-- Whether a character is a space or a tab. -/
def isBlank (c : Char) : Bool := c == ' ' || c == '\t'

/-- Whether a character can be part of a name. -/
def isNameChar (c : Char) : Bool := c.isAlphanum || c == '_' || c == '-'

/-- Whether a character separates the items of a collection in brackets. -/
def isFlowMark (c : Char) : Bool := c == ',' || c == '[' || c == ']' || c == '\x7b' || c == '\x7d'

/-- Whether a character may stand in a text at all. -/
def isAllowed (c : Char) : Bool :=
  let n := c.toNat
  n == 0x09 || n == 0x0A || n == 0x0D || (0x20 ≤ n && n ≤ 0x7E) || n == 0x85
    || (0xA0 ≤ n && n ≤ 0xD7FF) || (0xE000 ≤ n && n ≤ 0xFFFD) || 0x10000 ≤ n

/-- The mark of the order of bytes, which may stand at the start of a line. -/
def orderMark : Char := '\ufeff'

/-- How many bytes characters have. -/
def byteCount : List Char → Nat
  | [] => 0
  | c :: rest => c.utf8Size + byteCount rest

/-- Whether a line ends here: at a break, or at the end of the text. -/
def endsLine : Option Char → Bool
  | none => true
  | some c => isBreak c

/-- Whether a word ends here: at a blank, a break, or the end of the text. -/
def endsWord : Option Char → Bool
  | none => true
  | some c => isBlank c || isBreak c

/-! ## Cursors -/

/-- What is left of a text, and the place reached in it. -/
structure Cursor where
  /-- the characters to come -/
  rest : List Char
  /-- how many bytes are past -/
  index : Nat := 0
  /-- how many lines are past -/
  line : Nat := 0
  /-- how many characters of the line are past -/
  column : Nat := 0
  deriving DecidableEq

namespace Cursor

variable (c : Cursor)

/-- The character to come. -/
def head? : Option Char := c.rest.head?

/-- The character after so many others. -/
def ahead? (n : Nat) : Option Char := c.rest[n]?

/-- Whether a given character is to come. -/
def sees (x : Char) : Bool := c.head? == some x

/-- Whether the character to come satisfies a test. -/
def seesAny (p : Char → Bool) : Bool := c.head?.any p

/-- Whether the character after the next one ends a word. -/
def alone : Bool := endsWord (c.ahead? 1)

/-- Move over so many characters of the line. -/
def skip (n : Nat) : Cursor :=
  { c with
    rest := c.rest.drop n
    index := c.index + byteCount (c.rest.take n)
    column := c.column + n }

/-- The characters to come that satisfy a test, and the cursor past them. The test must not
accept a break. -/
def takeWhile (p : Char → Bool) : List Char × Cursor :=
  let taken := c.rest.takeWhile p
  (taken, c.skip taken.length)

/-- Move over the characters that satisfy a test. -/
def skipWhile (p : Char → Bool) : Cursor := (c.takeWhile p).2

/-- Move to the next line, and tell the text that the break stands for: most breaks stand for a
line feed, and a carriage return with a line feed is one break. -/
def nextLine : List Char × Cursor :=
  match c.rest with
  | '\r' :: '\n' :: rest => (['\n'], ⟨rest, c.index + 2, c.line + 1, 0⟩)
  | x :: rest =>
    if isBreak x then
      ([if x == '\u2028' || x == '\u2029' then x else '\n'],
        ⟨rest, c.index + x.utf8Size, c.line + 1, 0⟩)
    else ([], c)
  | [] => ([], c)

/-- Move over the mark of the order of bytes at the start of a line. -/
def skipOrderMark : Cursor := if c.column == 0 && c.sees orderMark then c.skip 1 else c

/-- Move over blanks and a comment. -/
def skipComment : Cursor :=
  let c := c.skipWhile isBlank
  if c.sees '#' then c.skipWhile (fun x => !isBreak x) else c

/-- Move over the rest of a line that holds nothing but a comment. -/
def finishLine? : Option Cursor :=
  let c := c.skipComment
  if endsLine c.head? then some c.nextLine.2 else none

/-- Whether three given characters open the line and stand alone. -/
def opensLineWith (x : Char) : Bool :=
  c.column == 0 && c.rest.take 3 == [x, x, x] && endsWord (c.ahead? 3)

/-- Whether a mark between documents is to come. -/
def atDocumentMark : Bool := c.opensLineWith '-' || c.opensLineWith '.'

end Cursor

end WorkPool.Yaml
