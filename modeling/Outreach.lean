import Outreach.Address.Basic
import Outreach.Address.Capital
import Outreach.Address.Composed
import Outreach.Address.Direction
import Outreach.Address.Encoded
import Outreach.Address.Host
import Outreach.Address.HostCharacter
import Outreach.Address.Internet
import Outreach.Address.Joining
import Outreach.Address.Mark
import Outreach.Api.Body
import Outreach.Api.Form
import Outreach.Api.Handle
import Outreach.Api.Response
import Outreach.Api.Route
import Outreach.Api.View
import Outreach.Campaign.Compile
import Outreach.Campaign.Rebuild
import Outreach.Clock
import Outreach.Failure
import Outreach.Fault
import Outreach.Graph.Basic
import Outreach.Graph.Edit
import Outreach.Graph.Linear
import Outreach.Graph.Walk
import Outreach.Limits
import Outreach.Number.Double
import Outreach.Number.Numeral
import Outreach.Number.Shortest
import Outreach.Proofs.Api.Grounded
import Outreach.Proofs.Api.Refusals
import Outreach.Proofs.Campaign.Added
import Outreach.Proofs.Campaign.Arranged
import Outreach.Proofs.Campaign.Chain
import Outreach.Proofs.Campaign.Compiled
import Outreach.Proofs.Campaign.Outcomes
import Outreach.Proofs.Campaign.Rebuilt
import Outreach.Proofs.Campaign.Recast
import Outreach.Proofs.Campaign.Refused
import Outreach.Proofs.Campaign.Rejections
import Outreach.Proofs.Campaign.Reload
import Outreach.Proofs.Campaign.Reopened
import Outreach.Proofs.Campaign.Sequence
import Outreach.Proofs.Campaign.Stored
import Outreach.Proofs.Graph.Added
import Outreach.Proofs.Graph.Announced
import Outreach.Proofs.Graph.BreadthFirst
import Outreach.Proofs.Graph.BrokenEdges
import Outreach.Proofs.Graph.Circles
import Outreach.Proofs.Graph.Edited
import Outreach.Proofs.Graph.Fallback
import Outreach.Proofs.Graph.Inserted
import Outreach.Proofs.Graph.LinearOrder
import Outreach.Proofs.Graph.Reached
import Outreach.Proofs.Graph.Recast
import Outreach.Proofs.Graph.Relisted
import Outreach.Proofs.Graph.Sound
import Outreach.Proofs.Graph.Tabled
import Outreach.Proofs.Graph.Touched
import Outreach.Proofs.Graph.Unchanged
import Outreach.Proofs.Graph.Undone
import Outreach.Proofs.Growth
import Outreach.Proofs.Precedence
import Outreach.Proofs.Result
import Outreach.Proofs.Service.Ended
import Outreach.Proofs.Service.History
import Outreach.Proofs.Service.Interrupted
import Outreach.Proofs.Service.Kept
import Outreach.Proofs.Service.LastWrite
import Outreach.Proofs.Service.Parts
import Outreach.Proofs.Service.Remote
import Outreach.Proofs.Service.Responses
import Outreach.Proofs.Service.Store
import Outreach.Proofs.Session.Attempt
import Outreach.Proofs.Session.Blocks
import Outreach.Proofs.Session.Coupled
import Outreach.Proofs.Session.Course
import Outreach.Proofs.Session.Distinct
import Outreach.Proofs.Session.Grounded
import Outreach.Proofs.Session.Isolation
import Outreach.Proofs.Session.Loaded
import Outreach.Proofs.Session.Loading
import Outreach.Proofs.Session.Mark
import Outreach.Proofs.Session.Parallel
import Outreach.Proofs.Session.Persisted
import Outreach.Proofs.Session.Run
import Outreach.Proofs.Session.Saving
import Outreach.Proofs.Session.Sent
import Outreach.Proofs.Sort
import Outreach.Proofs.Step.DelayText
import Outreach.Proofs.Step.Validity
import Outreach.Proofs.Supply
import Outreach.Proofs.Text.Half
import Outreach.Proofs.Text.Numeral
import Outreach.Proofs.Text.Strip
import Outreach.Proofs.Walk.Breadth
import Outreach.Proofs.Walk.Mirrored
import Outreach.Proofs.Walk.Row
import Outreach.Proofs.Walk.Step
import Outreach.Service.Basic
import Outreach.Service.Call
import Outreach.Service.Client
import Outreach.Service.Remote
import Outreach.Service.Store
import Outreach.Session.Editor
import Outreach.Session.Queue
import Outreach.Session.Save
import Outreach.Settings.Basic
import Outreach.Settings.Startup
import Outreach.Settings.Variables
import Outreach.Sort.Adaptive
import Outreach.Sort.Basic
import Outreach.Sort.Merge
import Outreach.Step.Catalog
import Outreach.Step.Contract
import Outreach.Step.Delay
import Outreach.Step.Placeholder
import Outreach.Step.Type
import Outreach.Step.Validity
import Outreach.Supply
import Outreach.Text.Blank
import Outreach.Text.Digit
import Outreach.Text.Encoding
import Outreach.Text.Half
import Outreach.Text.Lines
import Outreach.Text.Printable
import Outreach.Text.Quoted
import Outreach.Value.Basic
import Outreach.Value.Collection
import Outreach.Value.Depth
import Outreach.Value.Key
import Outreach.Value.Obstacle
import Outreach.Value.Order
import Outreach.Value.Reader
import Outreach.Value.Text
import Outreach.Value.Wire
