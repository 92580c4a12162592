/-!
# Tags

The kinds of node that have values. A tag is told by its full name; any other
name is a tag without values.
-/

namespace PodPolicy.Yaml

inductive Tag
  | null
  | bool
  | int
  | double
  | text
  | octets
  | time
  | list
  | mapping
  | set
  | pairs
  /-- A key whose value is merged into the mapping. -/
  | merge
  /-- The key of the value that stands for the whole mapping. -/
  | wholeValue
  | other (uri : String)
deriving DecidableEq, Repr

namespace Tag

def commonStart : String := "tag:yaml.org,2002:"

def common : List (String × Tag) :=
  [("null", .null), ("bool", .bool), ("int", .int), ("float", .double), ("str", .text),
   ("binary", .octets), ("timestamp", .time), ("seq", .list), ("map", .mapping),
   ("set", .set), ("omap", .pairs), ("pairs", .pairs), ("merge", .merge),
   ("value", .wholeValue)]

def ofUri (uri : String) : Tag :=
  match common.find? fun entry => commonStart ++ entry.1 = uri with
  | some (_, tag) => tag
  | none => .other uri

/-- Tags whose values are collections. -/
def isCollection : Tag → Bool
  | .list | .mapping | .set | .pairs => true
  | _ => false

end Tag

end PodPolicy.Yaml
