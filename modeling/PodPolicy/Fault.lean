/-!
# Faults

A fault ends a run without an answer of its own: the input was neither judged
nor refused. Each has a cause, and a label by which it is told to the outside.
-/

namespace PodPolicy

inductive Fault
  /-- A field was asked of a value that is no mapping. -/
  | fieldOfOther
  /-- A value that cannot be taken apart stands for a list of pairs. -/
  | notIterable
  /-- An entry of a list of pairs has not two parts. -/
  | notPair
  /-- A collection stands for a key. -/
  | collectionAsKey
  /-- A value cannot be written as JSON. -/
  | unwritable
  /-- An integer is too long to be told. -/
  | untellableNumber
  /-- A collection that holds itself is gone through without end. -/
  | endlessValue
  /-- A setting is no integer. -/
  | unreadableSetting
  /-- A rule is to be left out that is not named. -/
  | namelessRule
  /-- A path holds a character that no path can hold. -/
  | unusablePath
  /-- A file is not text. -/
  | undecodable
  /-- A scalar of a number tag holds no number. -/
  | unreadableNumber
  /-- A scalar of a number tag holds nothing. -/
  | emptyNumber
  /-- A part of a number in sixties is too large for a double. -/
  | oversizedNumber
  /-- A scalar of the tag for truth values holds another word. -/
  | unknownTruthWord
  /-- A scalar of the tag for times does not look like one. -/
  | unreadableTime
  /-- A scalar looks like a time that does not exist. -/
  | impossibleTime
  /-- A time is asked of a mapping. -/
  | timeOfMapping
  /-- An escape names a code point beyond the last. -/
  | codeOutOfRange
  /-- An escape names a code too large for a machine word. -/
  | codeOutOfWord
deriving DecidableEq, Repr

def Fault.label : Fault → String
  | .fieldOfOther => "AttributeError"
  | .notIterable => "TypeError"
  | .notPair => "ValueError"
  | .collectionAsKey => "TypeError"
  | .unwritable => "TypeError"
  | .untellableNumber => "ValueError"
  | .endlessValue => "RecursionError"
  | .unreadableSetting => "ValueError"
  | .namelessRule => "TypeError"
  | .unusablePath => "ValueError"
  | .undecodable => "UnicodeDecodeError"
  | .unreadableNumber => "ValueError"
  | .emptyNumber => "IndexError"
  | .oversizedNumber => "OverflowError"
  | .unknownTruthWord => "KeyError"
  | .unreadableTime => "AttributeError"
  | .impossibleTime => "ValueError"
  | .timeOfMapping => "TypeError"
  | .codeOutOfRange => "ValueError"
  | .codeOutOfWord => "OverflowError"

end PodPolicy
