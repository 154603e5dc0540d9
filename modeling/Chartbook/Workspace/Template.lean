import Chartbook.Text.Lines

/-!
Built-in templates for new documents. Each one comes with a role prompt for the agent.
-/

namespace Chartbook

structure Template where
  id : String
  name : String
  description : String
  lines : List String
  systemPrompt : String
  deriving DecidableEq, Repr, Inhabited

namespace Template

def text (template : Template) : String :=
  Text.joined "\n" (template.lines ++ [""])

def process : Template where
  id := "process"
  name := "Process Flowchart"
  description := "Start, steps, a decision and an end."
  lines := [
    "# Process",
    "",
    "```flow",
    "[[start]] Begin",
    "[step_1] Gather input",
    "\x7bcheck\x7d Valid?",
    "[step_2] Fix input",
    "((end)) Done",
    "",
    "[start] -> [step_1]",
    "[step_1] -> [check]",
    "[check] -> [end] : Yes",
    "[check] -> [step_2] : No",
    "[step_2] -> [step_1]",
    "```"]
  systemPrompt := "You design business process flowcharts. Use a single start node, decision nodes for "
      ++ "every branch, and label branch edges."

def mindMap : Template where
  id := "mindmap"
  name := "Mind Map"
  description := "A central topic with radiating categories."
  lines := [
    "# Mind Map",
    "",
    "```flow",
    "[[center]] Main Topic",
    "[cat_1] Category A",
    "[cat_2] Category B",
    "[item_1] Idea",
    "",
    "[center] -> [cat_1]",
    "[center] -> [cat_2]",
    "[cat_1] -> [item_1]",
    "```"]
  systemPrompt := "You facilitate brainstorming. Grow the map outward from the center; keep labels "
      ++ "short."

def stateMachine : Template where
  id := "state_machine"
  name := "State Machine"
  description := "States, guarded transitions and a final state."
  lines := [
    "# State Machine",
    "",
    "```flow",
    "[[idle]] Idle",
    "[running] Running",
    "\x7bguard\x7d Finished?",
    "((done)) Completed",
    "",
    "[idle] -> [running] : start()",
    "[running] -> [guard]",
    "[guard] -> [done] : yes",
    "[guard] -> [running] : no",
    "```"]
  systemPrompt := "You model software state machines. Label every transition with the event that "
      ++ "triggers it."

def causeAndEffect : Template where
  id := "fishbone"
  name := "Cause and Effect"
  description := "Cause categories feeding one effect."
  lines := [
    "# Cause and Effect",
    "",
    "```flow",
    "[[cause_people]] People",
    "[[cause_process]] Process",
    "[[cause_tools]] Tools",
    "((effect)) Problem",
    "",
    "[cause_people] -> [effect]",
    "[cause_process] -> [effect]",
    "[cause_tools] -> [effect]",
    "```"]
  systemPrompt := "You run root-cause analysis. Add concrete causes under each category and connect "
      ++ "them toward the effect."

def all : List Template :=
  [process, mindMap, stateMachine, causeAndEffect]

def find? (id : String) : Option Template :=
  all.find? (·.id == id)

end Template

end Chartbook
