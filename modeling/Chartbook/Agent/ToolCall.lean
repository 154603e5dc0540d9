import Chartbook.Graph.Edit
import Chartbook.Json.Reader

/-!
Tool calls: edits of the chart that a language model asks for.
-/

namespace Chartbook.Agent

inductive ToolError where
  | missingArgument (argument : String)
  | invalidArgument (argument reason : String)
  deriving DecidableEq, Repr

namespace ToolError

def message : ToolError → String
  | missingArgument argument => "missing required argument `" ++ argument ++ "`"
  | invalidArgument argument reason => "invalid argument `" ++ argument ++ "`: " ++ reason

end ToolError

def text? (input : Json) (key : String) : Option String :=
  ((input.get? key).bind Json.string?).bind Text.nonBlank?

def requiredText (input : Json) (key : String) : Except ToolError String :=
  match text? input key with
  | some text => .ok text
  | none => .error (.missingArgument key)

def nodeKind? (name : String) : Option NodeKind :=
  match (Text.trimmed name).toLower with
  | "default" | "plain" => some .plain
  | "input" | "entry" => some .entry
  | "output" | "exit" => some .exit
  | "selector" | "decision" => some .decision
  | _ => none

/-- A list argument; it may also be given as JSON text. -/
def listArgument (input : Json) (key : String) : Except ToolError (List Json) :=
  match input.get? key with
  | some (.array items) => .ok items
  | some (.string text) =>
      match (Json.readSettled? text).bind Json.items? with
      | some items => .ok items
      | none => .error (.invalidArgument key Json.readFailure)
  | some _ => .error (.invalidArgument key "expected an array")
  | none => .error (.missingArgument key)

def nodeArgument (item : Json) : Except ToolError Node :=
  match text? item "id" with
  | some id => .ok
      { id
        label := (text? item "label").getD id
        kind := ((text? item "type").bind nodeKind?).getD .plain }
  | none => .error (.invalidArgument "nodes" "node without id")

def edgeArgument (item : Json) : Except ToolError Edge :=
  match text? item "source", text? item "target" with
  | some source, some target => .ok (Edge.between source target (text? item "label"))
  | _, _ => .error (.invalidArgument "edges" "edge without source or target")

def kindArgument (input : Json) : Except ToolError NodeKind :=
  match text? input "node_type" with
  | some name =>
      match nodeKind? name with
      | some kind => .ok kind
      | none => .error (.invalidArgument "node_type" ("unknown node type '" ++ name ++ "'"))
  | none => .ok .plain

def editOf (tool : String) (input : Json) : Except ToolError (Option Edit) :=
  match tool with
  | "add_node" => do
      let id ← requiredText input "node_id"
      let kind ← kindArgument input
      .ok (some (.addNode id ((text? input "label").getD id) kind))
  | "remove_node" => do
      let id ← requiredText input "node_id"
      .ok (some (.removeNode id))
  | "add_edge" => do
      let source ← requiredText input "source"
      let target ← requiredText input "target"
      .ok (some (.addEdge source target (text? input "label")))
  | "remove_edge" => do
      let source ← requiredText input "source"
      let target ← requiredText input "target"
      .ok (some (.removeEdge source target))
  | "replace_flow" => do
      let nodes ← (← listArgument input "nodes").mapM nodeArgument
      let edges ← (← listArgument input "edges").mapM edgeArgument
      .ok (some (.replace nodes edges))
  | _ => .ok none

/-- Carries out a tool call. An error leaves the chart as it is; so does an unknown tool, which is no
error. -/
def execute (graph : Graph) (tool : String) (input : Json) : Except ToolError String × Graph :=
  match editOf tool input with
  | .ok (some edit) =>
      let (report, edited) := graph.edit edit
      (.ok report.message, edited)
  | .ok none => (.ok ("unknown tool: " ++ tool), graph)
  | .error error => (.error error, graph)

end Chartbook.Agent
