import Chartbook.Chat.Message

/-!
The tools that a language model is given to edit a chart.
-/

namespace Chartbook.Agent

def nodeTypes : List String :=
  ["default", "input", "output", "selector"]

def typed (name : String) : String × Json :=
  ("type", .string name)

def described (text : String) : String × Json :=
  ("description", .string text)

def textSchema (description : String) : Json :=
  .object [described description, typed "string"]

def bareTextSchema : Json :=
  .object [typed "string"]

def objectSchema (properties : Json.Fields) (required : List String) : Json :=
  .object [("properties", .object properties), ("required", .strings required), typed "object"]

def listSchema (item : Json) : Json :=
  .object [("items", item), typed "array"]

def addNode : Tool where
  name := "add_node"
  description := "Add a new node to the flow diagram."
  inputSchema := objectSchema
    [("label", textSchema "Display label shown inside the node."),
      ("node_id", textSchema "Unique identifier (lowercase, no spaces)."),
      ("node_type", .object [
        described "input = start node, output = end node, selector = decision diamond.",
        ("enum", .strings nodeTypes), typed "string"])]
    ["node_id", "label"]

def removeNode : Tool where
  name := "remove_node"
  description := "Remove a node and all edges connected to it."
  inputSchema := objectSchema [("node_id", textSchema "ID of the node to remove.")] ["node_id"]

def addEdge : Tool where
  name := "add_edge"
  description := "Add a directed edge between two nodes. Missing nodes are created."
  inputSchema := objectSchema
    [("label", textSchema "Optional label on the edge."),
      ("source", textSchema "Source node ID."),
      ("target", textSchema "Target node ID.")]
    ["source", "target"]

def removeEdge : Tool where
  name := "remove_edge"
  description := "Remove the edge between two nodes."
  inputSchema := objectSchema
    [("source", textSchema "Source node ID."), ("target", textSchema "Target node ID.")]
    ["source", "target"]

def replaceFlow : Tool where
  name := "replace_flow"
  description := "Completely replace the flow with a new set of nodes and edges."
  inputSchema := objectSchema
    [("edges", listSchema (objectSchema
        [("label", bareTextSchema), ("source", bareTextSchema), ("target", bareTextSchema)]
        ["source", "target"])),
      ("nodes", listSchema (objectSchema
        [("id", bareTextSchema), ("label", bareTextSchema),
          ("type", .object [("enum", .strings nodeTypes), typed "string"])]
        ["id"]))]
    ["nodes", "edges"]

def toolbox : List Tool :=
  [addNode, removeNode, addEdge, removeEdge, replaceFlow]

end Chartbook.Agent
