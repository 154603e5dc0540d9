import Chartbook.FlowText.Splice
import Chartbook.Graph.Change
import Chartbook.Graph.Edit
import Chartbook.Json.Reader
import Chartbook.Json.Printer
import Chartbook.Layout.Drawing
import Chartbook.Document.Shelf
import Chartbook.Suggestion.Basic
import Chartbook.Chat.Message
import Chartbook.Workspace.Basic
import Chartbook.Workspace.Studio
import Chartbook.Agent.Run
import Chartbook.Chat.Completions
import Chartbook.Service.Backend
import Chartbook.Settings.EnvFile
import Chartbook.CommandLine.Start
import Chartbook.Main
import Chartbook.Proofs.Text.Blank
import Chartbook.Proofs.Text.Lines
import Chartbook.Proofs.FlowText.Brackets
import Chartbook.Proofs.FlowText.Misreading
import Chartbook.Proofs.FlowText.Printed
import Chartbook.Proofs.FlowText.RoundTrip
import Chartbook.Proofs.FlowText.Setting
import Chartbook.Proofs.FlowText.Splice
import Chartbook.Proofs.Workspace.Baseline
import Chartbook.Proofs.Workspace.Recovery
import Chartbook.Proofs.Layout.Search
import Chartbook.Proofs.Layout.Ranking
import Chartbook.Proofs.Layout.Marking
import Chartbook.Proofs.Layout.Counting
import Chartbook.Proofs.Layout.Sweeping
import Chartbook.Proofs.Layout.Direction
import Chartbook.Proofs.FlowText.Bare
import Chartbook.Proofs.Graph.Identity
import Chartbook.Proofs.FlowText.Image
import Chartbook.Proofs.FlowText.Mentions
import Chartbook.Proofs.FlowText.Reach
import Chartbook.Proofs.FlowText.Remarks
import Chartbook.Proofs.FlowText.Prose
import Chartbook.Proofs.FlowText.Resplicing
import Chartbook.Proofs.Graph.Edit
import Chartbook.Proofs.Graph.Change
import Chartbook.Proofs.Graph.Draft
import Chartbook.Proofs.Agent.Editing
import Chartbook.Proofs.Agent.Calls
import Chartbook.Proofs.Layout.Geometry
import Chartbook.Proofs.Layout.Renaming
import Chartbook.Proofs.Workspace.Lifecycle
import Chartbook.Proofs.Workspace.Audience
import Chartbook.Proofs.Workspace.Failure
import Chartbook.Proofs.Workspace.Separation
import Chartbook.Proofs.Agent.Conversation
import Chartbook.Proofs.Agent.Outcome
import Chartbook.Proofs.Agent.Answer
import Chartbook.Proofs.Workspace.Restoring
import Chartbook.Proofs.Workspace.Convergence
import Chartbook.Proofs.Wire.Formats
import Chartbook.Proofs.Workspace.Highlight
import Chartbook.Proofs.Service.Path
import Chartbook.Proofs.Workspace.Listing
