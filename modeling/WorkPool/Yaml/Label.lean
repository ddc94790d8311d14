import WorkPool.Text.Numeral
import WorkPool.Yaml.Cursor
import WorkPool.Yaml.Token

/-!
# Names, tags and directives as they are written

A node may be named by an anchor, named again by a reference, and given a tag. A document
may say which release of YAML it is written in, and abbreviate the start of its tags.

A tag is a row of bytes, some of which may be written by their numbers, and ends before the
first zero byte. Its bytes need not be those of a text.
-/

namespace WorkPool.Yaml

/-! ## Names -/

/-- Whether a character may follow a name directly. -/
def endsName : Option Char → Bool
  | none => true
  | some c => endsWord (some c) || "?:,]\x7d%@\x60".toList.contains c

/-- The name after the mark of an anchor or a reference. -/
def name? (c : Cursor) : Option (String × Cursor) :=
  let (name, c) := (c.skip 1).takeWhile isNameChar
  if name.isEmpty || !endsName c.head? then none else some (String.ofList name, c)

/-! ## Tags -/

/-- Whether a character may stand in a tag. In angle brackets, three more may. -/
def isTagChar (verbatim : Bool) (c : Char) : Bool :=
  isNameChar c || ";/?:@&=+$.%!~*\'()".toList.contains c
    || (verbatim && (c == ',' || c == '[' || c == ']'))

/-- The byte written as a percent sign and two hexadecimal digits. -/
def octet? : List Char → Option UInt8
  | '%' :: a :: b :: _ => (Numeral.natural? 16 [a, b]).map UInt8.ofNat
  | _ => none

/-- How many bytes the character has whose first byte is given. -/
def charWidth? (b : UInt8) : Option Nat :=
  if b < 0x80 then some 1
  else if b &&& 0xE0 == 0xC0 then some 2
  else if b &&& 0xF0 == 0xE0 then some 3
  else if b &&& 0xF8 == 0xF0 then some 4
  else none

/-- So many bytes that go on a character, each written with a percent sign. -/
def octets? : Nat → Cursor → Option (Bytes × Cursor)
  | 0, c => some ([], c)
  | n + 1, c => do
    let b ← octet? c.rest
    if b &&& 0xC0 != 0x80 then none
    let (more, c) ← octets? n (c.skip 3)
    return (b :: more, c)

/-- Read on in a tag. -/
def tagFrom (verbatim : Bool) : Nat → Bytes → Cursor → Option (Bytes × Cursor)
  | 0, bytes, c => some (bytes, c)
  | fuel + 1, bytes, c =>
    match c.head? with
    | none => some (bytes, c)
    | some x =>
      if !isTagChar verbatim x then some (bytes, c)
      else if x == '%' then do
        let b ← octet? c.rest
        let width ← charWidth? b
        let (more, c) ← octets? (width - 1) (c.skip 3)
        tagFrom verbatim fuel (bytes ++ b :: more) c
      else tagFrom verbatim fuel (bytes ++ textBytes x.toString) (c.skip 1)

/-- The bytes before the first zero byte. -/
def untilZero (bytes : Bytes) : Bytes := bytes.takeWhile (· != 0)

/-- The part of a tag after its handle, which must not be missing. -/
def tagSuffix? (verbatim : Bool) (c : Cursor) : Option (Bytes × Cursor) := do
  let (bytes, c) ← tagFrom verbatim c.rest.length [] c
  if bytes.isEmpty then none else return (untilZero bytes, c)

/-- A handle: an exclamation mark, a name, and perhaps another exclamation mark. Also tells
whether there was one. -/
def handle? (c : Cursor) : Option (List Char × Bool × Cursor) :=
  if !c.sees '!' then none
  else
    let (name, c) := (c.skip 1).takeWhile isNameChar
    if c.sees '!' then some ('!' :: name ++ ['!'], true, c.skip 1)
    else some ('!' :: name, false, c)

/-- Whether a tag may end here. -/
def endsTag (flow : Bool) (c : Cursor) : Bool := endsWord c.head? || (flow && c.sees ',')

/-- A tag: verbatim in angle brackets, with a handle, or with an exclamation mark only. If nothing
follows the exclamation mark, it is the tag itself and has no handle. -/
def tag? (flow : Bool) (c : Cursor) : Option (Token × Cursor) := do
  let (token, c) ←
    if c.ahead? 1 == some '<' then do
      let (suffix, c) ← tagSuffix? true (c.skip 2)
      if !c.sees '>' then none
      pure (Token.tag "" suffix, c.skip 1)
    else do
      let (handle, closed, c) ← handle? c
      if closed then
        let (suffix, c) ← tagSuffix? false c
        pure (.tag (String.ofList handle) suffix, c)
      else
        let (bytes, c) ← tagFrom false c.rest.length (textBytes (String.ofList (handle.drop 1))) c
        let suffix := untilZero bytes
        pure (if suffix.isEmpty then .tag "" (textBytes "!") else .tag "!" suffix, c)
  if endsTag flow c then return (token, c) else none

/-! ## Directives -/

/-- A number of a release. -/
def releaseNumber? (c : Cursor) : Option (Nat × Cursor) :=
  let (digits, c) := c.takeWhile Char.isDigit
  if 9 < digits.length then none else (Numeral.natural? 10 digits).map (·, c)

/-- The numbers of a release. -/
def release? (c : Cursor) : Option (Token × Cursor) := do
  let (major, c) ← releaseNumber? (c.skipWhile isBlank)
  if !c.sees '.' then none
  let (minor, c) ← releaseNumber? (c.skip 1)
  return (.release major minor, c)

/-- A handle and what it abbreviates. -/
def tagRule? (c : Cursor) : Option (Token × Cursor) := do
  let (handle, closed, c) ← handle? (c.skipWhile isBlank)
  if !closed && handle != ['!'] then none
  if !c.seesAny isBlank then none
  let (meaning, c) ← tagSuffix? true (c.skipWhile isBlank)
  if endsWord c.head? then return (.tagRule (String.ofList handle) meaning, c) else none

/-- A directive, from its percent sign to the end of its line. -/
def directive? (c : Cursor) : Option (Token × Cursor) := do
  let (name, c) := (c.skip 1).takeWhile isNameChar
  if !endsWord c.head? then none
  let (token, c) ← match String.ofList name with
    | "YAML" => release? c
    | "TAG" => tagRule? c
    | _ => none
  return (token, ← c.finishLine?)

end WorkPool.Yaml
