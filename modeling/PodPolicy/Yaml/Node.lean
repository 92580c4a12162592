import PodPolicy.Yaml.Tag

/-!
# Nodes

The nodes of a document: texts, sequences and mappings, each under its tag. The
parts of a node are told by their numbers. An alias is the number of the node
that it names, and so a node can be a part of itself.
-/

namespace PodPolicy.Yaml

/-- The number of a node in its document. -/
abbrev NodeId := Nat

abbrev NodeEntry := NodeId × NodeId

inductive Content
  | text (s : String)
  | sequence (items : List NodeId)
  | mapping (entries : List NodeEntry)
deriving DecidableEq, Repr

structure Node where
  tag : Tag
  content : Content
deriving DecidableEq, Repr

/-- The node of a place where nothing is written. -/
def Node.empty : Node :=
  ⟨.null, .text ""⟩

-- -----------------------------------------------------------------------------
-- Documents
-- -----------------------------------------------------------------------------

/-- The nodes of a document by their numbers. -/
abbrev Nodes := Array Node

namespace Nodes

def node (nodes : Nodes) (id : NodeId) : Node :=
  nodes[id]?.getD .empty

def tag (nodes : Nodes) (id : NodeId) : Tag :=
  (nodes.node id).tag

def content (nodes : Nodes) (id : NodeId) : Content :=
  (nodes.node id).content

def entries (nodes : Nodes) (id : NodeId) : List NodeEntry :=
  match nodes.content id with
  | .mapping entries => entries
  | _ => []

def put (nodes : Nodes) (id : NodeId) (n : Node) : Nodes :=
  nodes.setIfInBounds id n

def setTag (nodes : Nodes) (id : NodeId) (tag : Tag) : Nodes :=
  nodes.put id ⟨tag, nodes.content id⟩

def setEntries (nodes : Nodes) (id : NodeId) (entries : List NodeEntry) : Nodes :=
  nodes.put id ⟨nodes.tag id, .mapping entries⟩

def entryCount (nodes : Nodes) : Nat :=
  nodes.foldl (fun count n => match n.content with
    | .mapping entries => count + entries.length
    | _ => count) 0

end Nodes

/-- A document: its nodes, and the one that holds all others. -/
structure Graph where
  nodes : Nodes
  root : NodeId
deriving Repr

end PodPolicy.Yaml
