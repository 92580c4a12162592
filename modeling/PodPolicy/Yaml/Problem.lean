import PodPolicy.Fault

/-!
# Why a stream cannot be read

A problem is a rule of the language that a text breaks. A stream stops at a
problem, or at a fault in the value of a scalar.
-/

namespace PodPolicy.Yaml

inductive Problem
  | unprintable
  | noToken
  | misplacedEntry
  | misplacedKey
  | misplacedValue
  | unfinishedKey
  | unmatchedBracket
  | directive
  | anchorName
  | tagName
  | blockHeader
  | unclosedText
  | unknownEscape
  | separatorInText
  | version
  | repeatedDirective
  | undefinedHandle
  | noDocumentStart
  | noContent
  | unfinishedBlock
  | unfinishedFlow
  | undefinedAlias
  | repeatedAnchor
  | unknownTag
  | wrongKind
  | collectionAsKey
  | mergeOfOther
  | octets
deriving DecidableEq, Repr

def Problem.message : Problem → String
  | .unprintable => "special characters are not allowed"
  | .noToken => "found a character that cannot start any token"
  | .misplacedEntry => "sequence entries are not allowed here"
  | .misplacedKey => "mapping keys are not allowed here"
  | .misplacedValue => "mapping values are not allowed here"
  | .unfinishedKey => "could not find expected ':'"
  | .unmatchedBracket => "found a closing bracket without an opening one"
  | .directive => "found a malformed directive"
  | .anchorName => "found a malformed anchor or alias"
  | .tagName => "found a malformed tag"
  | .blockHeader => "found a malformed header of a block scalar"
  | .unclosedText => "found unexpected end of stream"
  | .unknownEscape => "found unknown escape character"
  | .separatorInText => "found unexpected document separator"
  | .version => "found incompatible YAML document"
  | .repeatedDirective => "found a directive twice"
  | .undefinedHandle => "found undefined tag handle"
  | .noDocumentStart => "expected '<document start>'"
  | .noContent => "expected the node content"
  | .unfinishedBlock => "expected the end of a block collection"
  | .unfinishedFlow => "expected the next entry or the end of a flow collection"
  | .undefinedAlias => "found undefined alias"
  | .repeatedAnchor => "found duplicate anchor"
  | .unknownTag => "could not determine a constructor for the tag"
  | .wrongKind => "found a node of another kind than its tag asks for"
  | .collectionAsKey => "found unhashable key"
  | .mergeOfOther => "expected a mapping or list of mappings for merging"
  | .octets => "failed to decode base64 data"

inductive Stop
  | problem (p : Problem)
  | fault (f : Fault)
deriving DecidableEq, Repr

def refuse {α : Type} (p : Problem) : Except Stop α :=
  .error (.problem p)

def require (condition : Bool) (p : Problem) : Except Stop Unit :=
  if condition then .ok () else refuse p

end PodPolicy.Yaml
