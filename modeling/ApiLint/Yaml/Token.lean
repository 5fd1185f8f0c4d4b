import ApiLint.Yaml.Cursor

/-!
# Tokens of a YAML text
-/

namespace ApiLint.Yaml

/-- A line that speaks about the document that follows. -/
inductive Directive
  /-- The version of the language. -/
  | version (major : Nat)
  /-- A short form for the beginnings of tags. -/
  | shorthand (handle lead : List Char)
  | other
deriving DecidableEq

/-- A token. Indentation appears as the starts and the ends of blocks. -/
inductive Token
  | directive (d : Directive)
  | documentStart
  | documentEnd
  | blockSequence
  | blockMapping
  | blockEnd
  | flowSequence
  | flowSequenceEnd
  | flowMapping
  | flowMappingEnd
  | blockEntry
  | flowEntry
  | key
  | value
  /-- The place of a node that was given a name before. -/
  | reference (name : List Char)
  /-- The name of the node that follows. -/
  | anchor (name : List Char)
  /-- The tag of the node that follows; without a handle it is complete. -/
  | tag (handle : Option (List Char)) (suffix : List Char)
  /-- A text; a plain one is not quoted. -/
  | scalar (plain : Bool) (text : List Char)
  /-- The place where the text is not well-formed. Nothing follows. -/
  | broken (error : ReadError)
deriving DecidableEq

end ApiLint.Yaml
