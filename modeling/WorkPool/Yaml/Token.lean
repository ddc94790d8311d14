import WorkPool.Basic

/-!
# The words of YAML

A YAML text is a list of tokens: scalars, names and the marks of its layout. Where the
layout is by indentation, its marks are not written but follow from the columns.
-/

namespace WorkPool.Yaml

/-- How a scalar is written. -/
inductive Style where
  /-- without quotes -/
  | plain
  /-- between single quotes -/
  | single
  /-- between double quotes -/
  | double
  /-- as indented lines -/
  | literal
  /-- as indented lines that are joined -/
  | folded
  deriving DecidableEq

/-- A word of a YAML text. -/
inductive Token where
  /-- the release of YAML that a document is written in -/
  | release (major minor : Nat)
  /-- an abbreviation for the start of tags -/
  | tagRule (handle : String) (meaning : Bytes)
  /-- a document begins -/
  | documentStart
  /-- a document ends -/
  | documentEnd
  /-- an indented sequence begins -/
  | blockSequence
  /-- an indented mapping begins -/
  | blockMapping
  /-- an indented collection ends -/
  | blockEnd
  /-- a sequence in brackets begins -/
  | flowSequence
  /-- a sequence in brackets ends -/
  | flowSequenceEnd
  /-- a mapping in braces begins -/
  | flowMapping
  /-- a mapping in braces ends -/
  | flowMappingEnd
  /-- an item of an indented sequence follows -/
  | item
  /-- a comma -/
  | comma
  /-- a key follows -/
  | key
  /-- a value follows -/
  | value
  /-- the node of a given name again -/
  | reference (name : String)
  /-- a name for the node that follows -/
  | anchor (name : String)
  /-- a tag for the node that follows -/
  | tag (handle : String) (suffix : Bytes)
  /-- a scalar -/
  | scalar (text : String) (style : Style)
  deriving DecidableEq

end WorkPool.Yaml
