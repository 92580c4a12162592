import PodPolicy.Yaml.Problem

/-!
# Tokens

The pieces of a stream. Block collections are told by indentation alone, so
their starts and ends are tokens without characters of their own.
-/

namespace PodPolicy.Yaml

/-- A tag as it is written: a handle that stands for the start of a name, and
the rest of the name. -/
structure WrittenTag where
  handle : Option String
  suffix : String
deriving DecidableEq, Repr

inductive Directive
  | version (major : Nat)
  | handle (name : String) (start : String)
  | reserved
deriving DecidableEq, Repr

inductive Token
  | directive (d : Directive)
  | documentStart
  | documentEnd
  | blockSequenceStart
  | blockMappingStart
  | blockEnd
  | flowSequenceStart
  | flowSequenceEnd
  | flowMappingStart
  | flowMappingEnd
  | blockEntry
  | flowEntry
  | key
  | value
  | alias (name : String)
  | anchor (name : String)
  | tag (t : WrittenTag)
  | scalar (text : String) (isPlain : Bool)
  | streamEnd
  /-- The text cannot be read from here on. -/
  | broken (s : Stop)
deriving DecidableEq, Repr

end PodPolicy.Yaml
